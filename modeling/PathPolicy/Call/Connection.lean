import PathPolicy.Call.Server
import PathPolicy.Frame

/-!
# The serving end of a connection

Every request that arrives becomes a job of its own, so a slow method holds up no other. Jobs end in
any order, and their responses are written in the order in which they end. Once no more requests
arrive, the jobs under way are carried to their ends, the responses are written, and then the
client is gone. Each function is one step; `Connection.settle` takes the steps possible at a moment.
-/

namespace PathPolicy.Call

variable {σ : Type}

structure Job (σ : Type) where
  callId : UInt64
  /-- When it goes on. -/
  due : Nat
  rest : Procedure σ (Except MethodError (List UInt8))

structure Connection (σ : Type) where
  client : ClientId
  unread : List UInt8 := []
  reading : Bool := true
  jobs : List (Job σ) := []
  /-- Responses that have still to be written. -/
  responses : List Frame := []
  writing : Bool := true
  /-- Bytes written and not yet taken by the client. -/
  output : List UInt8 := []
  ended : Bool := false

namespace Connection

/-- What stands in for a response that no frame can hold. -/
def oversized (size limit : Nat) : MethodError :=
  ⟨.internal, "response of " ++ Nat.repr size ++ " bytes exceeds frame limit of " ++
    Nat.repr limit⟩

theorem oversized_eq (size limit : Nat) :
    oversized size limit = ⟨.internal, "response of " ++ Nat.repr size ++
      " bytes exceeds frame limit of " ++ Nat.repr limit⟩ := rfl

/-- The bytes of a response, or of the error that stands in for it. -/
def responseBytes (limit : Nat) (f : Frame) : Except CallError (List UInt8) :=
  match f.write limit with
  | .error (.frameTooLarge size limit) =>
    ({ f with body := .response (.error (oversized size limit)) } : Frame).write limit
  | r => r

def receive (c : Connection σ) (bytes : List UInt8) : Connection σ :=
  if c.reading then { c with unread := c.unread ++ bytes } else c

def receiveEnd (c : Connection σ) : Connection σ := { c with reading := false, unread := [] }

def writeEnd (c : Connection σ) : Connection σ := { c with writing := false, responses := [] }

/-- Starts a job for a request; a response is nothing a client should send, and is skipped. -/
def accept (S : Server σ) (now : Nat) (c : Connection σ) (f : Frame) : Connection σ :=
  match f.body with
  | .response _ => c
  | .request method payload =>
    { c with jobs := c.jobs ++ [⟨f.callId, now, S.dispatch c.client method payload⟩] }

def readAll (S : Server σ) (now : Nat) (c : Connection σ) : Connection σ :=
  if c.reading then
    match Frame.readMany S.frameLimit c.unread with
    | (frames, .ok unread) => { frames.foldl (accept S now) c with unread }
    | (frames, .error _) => (frames.foldl (accept S now) c).receiveEnd
  else c

/-- Carries one job on until it sleeps or ends. -/
def runJob (now : Nat) (c : Connection σ) (job : Job σ) (s : σ) : Connection σ × σ :=
  match job.rest.start s with
  | (.answered outcome, s) =>
    ({ c with responses := c.responses ++ [⟨job.callId, .response outcome⟩] }, s)
  | (.asleep ms rest, s) => ({ c with jobs := c.jobs ++ [{ job with due := now + ms, rest }] }, s)

def runDue (now : Nat) (c : Connection σ) (s : σ) : Connection σ × σ :=
  let (due, waiting) := c.jobs.partition fun j => j.due ≤ now
  due.foldl (fun (c, s) job => c.runJob now job s) ({ c with jobs := waiting }, s)

/-- Writes the next response. If not even an error can stand in for it, nothing more is written. -/
def writeNext (limit : Nat) (c : Connection σ) : Connection σ :=
  match c.writing, c.responses with
  | true, f :: rest =>
    match responseBytes limit f with
    | .ok bytes => { c with responses := rest, output := c.output ++ bytes }
    | .error _ => c.writeEnd
  | _, _ => c

def writeAll (limit : Nat) (c : Connection σ) : Connection σ :=
  (List.range c.responses.length).foldl (fun c _ => c.writeNext limit) c

def isDone (c : Connection σ) : Bool :=
  !c.reading && c.jobs.isEmpty && (c.responses.isEmpty || !c.writing)

/-- Says farewell to a client for whom nothing is left to be done. -/
def finish (S : Server σ) (c : Connection σ) (s : σ) : Connection σ × σ :=
  if c.isDone && !c.ended then ({ c with ended := true }, S.release c.client s) else (c, s)

def settle (S : Server σ) (now : Nat) (c : Connection σ) (s : σ) : Connection σ × σ :=
  let (c, s) := (c.readAll S now).runDue now s
  (c.writeAll S.frameLimit).finish S s

def take (c : Connection σ) : List UInt8 × Connection σ := (c.output, { c with output := [] })

end Connection

end PathPolicy.Call
