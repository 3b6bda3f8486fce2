import PathPolicy.Call.Link
import PathPolicy.Scenario.World

/-!
# Far ends with prepared answers

A far end answers one request after another, each with what was prepared for it. Calls that follow
one another find it at the end of their own call. Calls that go on at the same time share a stream
that holds only so many bytes in either direction: who writes more waits until the other end reads.
Such a call sleeps until it is woken because something went over a stream.
-/

namespace PathPolicy.Scenario

/-- What the far end does with the bytes of a request. It goes away once it has no answers left. -/
def answerPrepared (i : Nat) (bytes : List UInt8) (w : World) : Call.Transmission × World :=
  match Frame.read Frame.headerBound bytes with
  | .frame f _ =>
    let w := w.note (.request f)
    match (World.answers i).get w with
    | .response outcome :: rest =>
      let response : Frame := ⟨f.callId, .response outcome⟩
      ({ bytes := (response.write Frame.headerBound).toOption.getD [], closes := rest.isEmpty },
        (World.answers i).set rest w)
    | _ => ({ closes := true }, (World.answers i).set [] w)
  | _ => ({ closes := true }, w)

def preparedFarEnd (i : Nat) : Call.FarEnd World := fun bytes => .stretch (answerPrepared i bytes)

/-! ## Calls that share a stream -/

/-- Longer than anything else sleeps. -/
def never : Nat := UInt64.size * UInt64.size

/-- Goes on with a call as far as it can, and again each time it is woken. -/
def awaitReply (i : Nat) (id : UInt64) : Nat → Procedure World Call.Reply
  | 0 => .stretch fun w =>
    let c := (World.client i).get w
    (.error c.lostError, (World.client i).set (c.abandon id) w)
  | n + 1 => do
    let reply ← .stretch fun w =>
      let (reply, c) := (((World.client i).get w).enqueue id).returnTo id
      (reply, (World.client i).set c w)
    match reply with
    | some reply => return reply
    | none => do
      .pause never
      awaitReply i id n

/-- Calls over the client at `i`, any number of them at a time. -/
def sharedCallerOf (i : Nat) : Call.Caller World where
  call method payload := do
    let id ← .stretch fun w =>
      let (id, c) := ((World.client i).get w).enter method payload
      (id, (World.client i).set (c.checkOpen id) w)
    awaitReply i id never

namespace Wire

/-- The bytes that either direction holds. -/
def capacity : Nat := 65536

def load (frames : List (List UInt8)) : Nat := frames.foldl (fun n bytes => n + bytes.length) 0

def isGone (x : Wire) : Bool := x.parting && load x.inbound ≤ capacity

/-- The client writes the next frame, if the one before is on the stream. -/
def send (x : Wire) (w : World) : Option (Wire × World) :=
  let c := (World.client x.client).get w
  if x.isGone || c.queue.isEmpty || load x.outbound > capacity then none
  else
    let (bytes, c) := c.writeNext
    let sent := if bytes.isEmpty then [] else [bytes]
    some ({ x with outbound := x.outbound ++ sent }, (World.client x.client).set c w)

/-- The far end reads a request and answers, if its answer before is on the stream. -/
def answer (x : Wire) (w : World) : Option (Wire × World) :=
  match x.outbound with
  | [] => none
  | bytes :: outbound =>
    if x.parting || load x.inbound > capacity then none
    else
      let (sent, w) := answerPrepared x.far bytes w
      let frames := if sent.bytes.isEmpty then [] else [sent.bytes]
      some ({ x with outbound, inbound := x.inbound ++ frames, parting := sent.closes }, w)

/-- The client reads a frame, or meets the end. Of a frame that it cannot read, the body stays. -/
def receive (x : Wire) (w : World) : Option (Wire × World) :=
  let c := (World.client x.client).get w
  if !c.reading then none
  else
    match x.inbound with
    | [] => if x.isGone then some (x, (World.client x.client).set c.receiveEnd w) else none
    | bytes :: inbound =>
      let c := c.receive bytes
      let unread := if c.reading then [] else [bytes.drop Frame.headerLength]
      some ({ x with inbound := unread ++ inbound }, (World.client x.client).set c w)

/-- The client has something to write and finds the far end gone. -/
def breakOff (x : Wire) (w : World) : Option (Wire × World) :=
  let c := (World.client x.client).get w
  let writes := c.writing && (!c.queue.isEmpty || load x.outbound > capacity)
  if x.isGone && writes then
    let reason := (CallError.connectionLost "broken pipe").message
    some (x, (World.client x.client).set (c.failWriting reason) w)
  else none

/-- Whatever can be done at one of the ends. -/
def turn (x : Wire) (w : World) : Option (Wire × World) :=
  x.send w <|> x.answer w <|> x.receive w <|> x.breakOff w

end Wire

/-- Whatever can be done at one of the streams. -/
def World.turn (w : World) : Option World :=
  (List.range w.wires.length).findSome? fun i =>
    (((World.wire i).get w).turn w).map fun (x, w) => (World.wire i).set x w

end PathPolicy.Scenario
