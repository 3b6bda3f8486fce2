import PathPolicy.Dictionary
import PathPolicy.Frame
import PathPolicy.Text.Quoted

/-!
# The calling end of a connection

Any number of calls share one connection. A call enters under a fresh id, waits for room in the
queue of outgoing frames and then for the response that carries its id. Each function here is one
step of a call, of the writer that sends the queue, or of the reader that routes responses. The
steps may come in any order.

Once the connection fails, everything still under way fails with it and nothing is tried again.
`Client.submit`, `Client.receive` and `Client.receiveEnd` are made of steps, for those who do not
care about the order.
-/

namespace PathPolicy.Call

/-- The payload of a response, or why there is none. -/
abbrev Reply := Except CallError (List UInt8)

inductive Stage
  /-- Has its id, and has not looked yet whether the connection is closed. -/
  | entered (request : Frame)
  /-- Waits for room in the queue. -/
  | queueing (request : Frame)
  /-- Waits for its response. -/
  | awaiting
  /-- Found the connection closed before its request was queued. -/
  | refused (error : CallError)

/-- A call that has not returned to its caller. -/
structure Ongoing where
  stage : Stage
  /-- What the reader or the writer gave it, read when it waits for its response. -/
  outcome : Option Reply := none

def Ongoing.reply? (o : Ongoing) : Option Reply :=
  match o.stage with
  | .refused e => some (.error e)
  | .awaiting => o.outcome
  | _ => none

structure Client where
  endpoint : String := ""
  frameLimit : Nat
  nextId : UInt64 := 1
  ongoing : Dictionary UInt64 Ongoing := {}
  /-- The calls that a response would still reach. -/
  routes : List UInt64 := []
  /-- Frames waiting to be sent, the next one first. -/
  queue : List Frame := []
  closed : Bool := false
  /-- Why the connection failed first. -/
  reason : Option String := none
  writing : Bool := true
  reading : Bool := true
  /-- Bytes received that do not make a frame yet. -/
  unread : List UInt8 := []

namespace Client

def queueCapacity : Nat := 64

def pendingCalls (c : Client) : Nat := c.routes.length

def lostError (c : Client) : CallError :=
  .connectionLost (c.reason.getD "connection closed")

def update (c : Client) (id : UInt64) (f : Ongoing → Ongoing) : Client :=
  { c with ongoing := c.ongoing.modify id f }

/-- From here on no response reaches the call. -/
def unroute (c : Client) (id : UInt64) : Client := { c with routes := c.routes.filter (· ≠ id) }

/-- Gives a call its outcome if it can still be reached, and is then out of reach. -/
def deliver (c : Client) (id : UInt64) (reply : Reply) : Client :=
  if c.routes.contains id then
    (c.update id fun o => { o with outcome := some reply }).unroute id
  else c

/-! ## Steps of a call -/

/-- Takes a fresh id for a call and makes it known to the reader. -/
def enter (c : Client) (method : String) (payload : List UInt8) : UInt64 × Client :=
  let id := c.nextId
  (id, { c with
    nextId := id + 1
    ongoing := c.ongoing.insert id ⟨.entered ⟨id, .request method payload⟩, none⟩
    routes := c.routes ++ [id] })

def refuse (c : Client) (id : UInt64) : Client :=
  (c.update id fun o => { o with stage := .refused c.lostError }).unroute id

/-- Looks whether the connection is closed, and if not waits for room in the queue. -/
def checkOpen (c : Client) (id : UInt64) : Client :=
  match (c.ongoing.get? id).map Ongoing.stage with
  | some (.entered request) =>
    if c.closed then c.refuse id
    else c.update id fun o => { o with stage := .queueing request }
  | _ => c

/-- Puts the request into the queue if there is room; fails once nobody empties the queue. -/
def enqueue (c : Client) (id : UInt64) : Client :=
  match (c.ongoing.get? id).map Ongoing.stage with
  | some (.queueing request) =>
    if !c.writing then c.refuse id
    else if c.queue.length < queueCapacity then
      { c.update id fun o => { o with stage := .awaiting } with queue := c.queue ++ [request] }
    else c
  | _ => c

def abandon (c : Client) (id : UInt64) : Client :=
  { c.unroute id with ongoing := c.ongoing.erase id }

/-- Returns to the caller what the call comes to, as soon as that is settled. -/
def returnTo (c : Client) (id : UInt64) : Option Reply × Client :=
  match (c.ongoing.get? id).bind Ongoing.reply? with
  | none => (none, c)
  | some reply => (some reply, c.abandon id)

/-! ## Failure of the connection -/

/-- Of several reasons, the first stays. -/
def blame (c : Client) (reason : String) : Client := { c with reason := c.reason.or (some reason) }

/-- From here on a call that looks finds the connection closed. -/
def shut (c : Client) : Client := { c with closed := true }

def markFailed (c : Client) (reason : String) : Client := (c.blame reason).shut

/-- Fails a call with the connection, if it can still be reached. -/
def failOne (c : Client) (id : UInt64) : Client := c.deliver id (.error c.lostError)

/-- Closes the connection and fails every call that can be reached, without a break. -/
def failAll (c : Client) (reason : String) : Client :=
  let c := c.markFailed reason
  c.routes.foldl failOne c

/-- Nothing more is sent, and the frames that are queued are lost. -/
def stopWriting (c : Client) : Client := { c with writing := false, queue := [] }

def stopReading (c : Client) : Client := { c with reading := false, unread := [] }

def failWriting (c : Client) (reason : String) : Client := (c.failAll reason).stopWriting

def failReading (c : Client) (reason : String) : Client := (c.failAll reason).stopReading

/-! ## Steps of the writer and the reader -/

/-- Sends the next frame of the queue. One that is too large fails its own call only. -/
def writeNext (c : Client) : List UInt8 × Client :=
  match c.writing, c.queue with
  | true, f :: rest =>
    let c := { c with queue := rest }
    match f.write c.frameLimit with
    | .ok bytes => (bytes, c)
    | .error (.frameTooLarge size limit) =>
      ([], c.deliver f.callId (.error (.frameTooLarge size limit)))
    | .error e => ([], c.failWriting e.message)
  | _, _ => ([], c)

/-- Routes a frame that was read. A request from the far end is nobody's. -/
def route (c : Client) (f : Frame) : Client :=
  match f.body with
  | .request .. => c
  | .response outcome => c.deliver f.callId (outcome.mapError (.method ""))

/-! ## Made of steps -/

def writeAll (c : Client) : List UInt8 × Client :=
  (List.range c.queue.length).foldl
    (fun (sent, c) _ => let (bytes, c) := c.writeNext; (sent ++ bytes, c)) ([], c)

/-- A call up to where it waits, with the bytes that were sent. -/
def submit (c : Client) (method : String) (payload : List UInt8) :
    UInt64 × List UInt8 × Client :=
  let (id, c) := c.enter method payload
  (id, ((c.checkOpen id).enqueue id).writeAll)

/-- Bytes from the far end. What does not make a frame fails the connection. -/
def receive (c : Client) (bytes : List UInt8) : Client :=
  if c.reading then
    match Frame.readMany c.frameLimit (c.unread ++ bytes) with
    | (frames, .ok unread) => { frames.foldl route c with unread }
    | (frames, .error e) => (frames.foldl route c).failReading e.message
  else c

def receiveEnd (c : Client) : Client :=
  if c.reading then
    let reason :=
      match Frame.read c.frameLimit c.unread with
      | .more true => ((Frame.endOf true).map CallError.message).getD ""
      | _ => "connection closed by peer"
    c.failReading reason
  else c

def text (c : Client) : String :=
  "CallClient \x7b endpoint: " ++ Text.Quoted.quote c.endpoint ++ ", closed: " ++
    (if c.closed then "true" else "false") ++ " \x7d"

end Client

end PathPolicy.Call
