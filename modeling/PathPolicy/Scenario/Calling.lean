import PathPolicy.Call.Caller
import PathPolicy.Call.Client
import PathPolicy.Document.Message

/-!
# Clients under test

One client and the far end of its connection, which sees the frames sent and writes what it likes.
Calls go on in the background; each step reports those that have returned.
-/

namespace PathPolicy.Scenario

/-- What the response of a call is read as. -/
inductive Expected
  | handle
  | nothing
  deriving DecidableEq

/-- A call in the background, under the name it has in the description. -/
structure Waiting where
  name : String
  id : UInt64
  method : String
  expected : Expected

structure Desk where
  client : Call.Client
  waiting : List Waiting := []
  /-- The far end writes nothing more. -/
  farEnded : Bool := false

namespace Desk

/-- The response of a finished call, or why there is none. -/
def resultDocument (method : String) (expected : Expected) (reply : Call.Reply) : Document :=
  match expected with
  | .handle =>
    match Call.settleReply method Codec.pathReply reply with
    | .ok r => describe r
    | .error e => describe e
  | .nothing =>
    match Call.settleReply method Codec.unit reply with
    | .ok () => .text "unit"
    | .error e => describe e

/-- Lets every call return that can. -/
def collect (k : Desk) : List (String × Document) × Desk :=
  k.waiting.foldl
    (fun (done, k) w =>
      match k.client.returnTo w.id with
      | (some reply, client) =>
        (done ++ [(w.name, resultDocument w.method w.expected reply)], { k with client })
      | (none, client) => (done, { k with client, waiting := k.waiting ++ [w] }))
    ([], { k with waiting := [] })

/-- The request of a step: its payload, or why it has none, and what is expected back. -/
def requestOf (d : Document) : Option (Except CallError (List UInt8) × Expected) := do
  match d.field "msg", d.field "tmsg" with
  | .absent, .absent =>
    let n ← d.get? "zeros"
    return (Codec.bytes.encodeAs "request" (List.replicate n 0), .handle)
  | .absent, m => return (Codec.tracerMessage.encodeAs "request" (← Readable.read? m), .nothing)
  | m, _ => return (Codec.selectorMessage.encodeAs "request" (← Readable.read? m), .handle)

/-- What the far end writes in a step: whole frames and then other bytes. -/
def writtenBytes (d : Document) : Option (List UInt8) := do
  let raw : HexBytes ← d.getD "hex" ⟨[]⟩
  let frames : List Frame ← d.getD "frames" []
  return (frames.flatMap fun f => (f.write Frame.headerBound).toOption.getD []) ++ raw.bytes

/-- Gives up the call under a name. -/
def abandon (k : Desk) (name : String) : Desk :=
  let (given, kept) := k.waiting.partition fun w => w.name == name
  { k with
    client := given.foldl (fun c w => c.abandon w.id) k.client
    waiting := kept }

/-- The outcome of a step, the bytes sent and calls that ended before a request was sent. -/
def act (k : Desk) (d : Document) :
    Option (String × List UInt8 × List (String × Document) × Desk) := do
  match ← d.get? "do" with
  | "call" =>
    let name : String ← d.get? "id"
    let method : String ← d.get? "method"
    match ← requestOf d with
    | (.error e, _) => return ("ok", [], [(name, describe e)], k)
    | (.ok payload, expected) =>
      let (id, sent, client) := k.client.submit method payload
      let added : Waiting := { name, id, method, expected }
      return ("ok", sent, [], { k with client, waiting := k.waiting ++ [added] })
  | "abandon" =>
    let name : String ← d.get? "id"
    return ("ok", [], [], k.abandon name)
  | "peer" =>
    if k.farEnded then return ("unwritable", [], [], k)
    else return ("ok", [], [], { k with client := k.client.receive (← writtenBytes d) })
  | "peer_close" =>
    return ("ok", [], [], { k with client := k.client.receiveEnd, farEnded := true })
  | _ => none

def step (k : Desk) (d : Document) : Option (Document × Desk) := do
  let (r, sent, failed, k) ← k.act d
  let (done, k) := k.collect
  return (.record [("r", .text r), ("sent", describe (Frame.readAll Frame.headerBound sent).1),
    ("done", .record (failed ++ done)), ("pending", describe k.client.pendingCalls),
    ("closed", describe k.client.closed)], k)

def steps (k : Desk) : List Document → Option (List Document)
  | [] => some []
  | d :: ds => do
    let (shown, k) ← k.step d
    return shown :: (← k.steps ds)

end Desk

/-- Answers a description of calls over one client. -/
def answerClient (d : Document) : Option Document := do
  let endpoint ← d.getD "endpoint" "far"
  let client : Call.Client := { endpoint, frameLimit := ← d.get? "max" }
  return .record [("endpoint", .text endpoint),
    ("steps", .list (← ({ client } : Desk).steps (← d.get? "steps")))]

end PathPolicy.Scenario
