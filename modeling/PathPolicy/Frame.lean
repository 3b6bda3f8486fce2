import PathPolicy.Codec.Path

/-!
# Frames

Calls travel as frames: a request with a method name and a payload, or a response with its outcome,
matched by a call id. On a stream each frame is preceded by the length of its body in four bytes,
the most significant first, and no body may be longer than the limit its reader and writer agree
on. `readAll` takes a stream apart; a stream that ends inside a header counts as ended before it.
-/

namespace PathPolicy

inductive FrameBody
  | request (method : String) (payload : List UInt8)
  | response (outcome : Except MethodError (List UInt8))

structure Frame where
  callId : UInt64
  body : FrameBody

namespace Codec

def frameVariant : Nat → Codec FrameBody
  | 0 => variant (fun | .request m p => some (m, p) | _ => none) (fun (m, p) => .request m p)
    (pair text bytes)
  | _ => variant (fun | .response o => some o | _ => none) .response (outcome bytes methodError)

def frameBody : Codec FrameBody :=
  tagged 2 (fun | .request .. => 0 | .response _ => 1) frameVariant

def frame : Codec Frame :=
  (pair u64 frameBody).map (fun (i, b) => ⟨i, b⟩) fun f => (f.callId, f.body)

end Codec

namespace Frame

def headerLength : Nat := 4

/-- A header can announce any length below this. -/
def headerBound : Nat := UInt32.size

def header (n : Nat) : List UInt8 := (Codec.littleEndian headerLength n).reverse

def headerValue (bytes : List UInt8) : Nat := Codec.littleEndianValue bytes.reverse

/-- The bytes of a frame on a stream, or why it cannot be sent. -/
def write (limit : Nat) (f : Frame) : Except CallError (List UInt8) := do
  let body ← Codec.encodeAs "frame" Codec.frame f
  if body.length > limit || body.length ≥ headerBound then throw (.frameTooLarge body.length limit)
  return header body.length ++ body

/-- What a reader finds at the front of the bytes it has so far. -/
inductive Read
  /-- The header or the body goes on beyond the bytes. -/
  | more (inBody : Bool)
  | frame (f : Frame) (rest : List UInt8)
  | failed (e : CallError)

def read (limit : Nat) (input : List UInt8) : Read :=
  match Codec.takeExact headerLength input with
  | none => .more false
  | some (head, rest) =>
    let n := headerValue head
    if n > limit then .failed (.frameTooLarge n limit)
    else
      match Codec.takeExact n rest with
      | none => .more true
      | some (body, rest) =>
        match Codec.decodeAs "frame" Codec.frame body with
        | .error e => .failed e
        | .ok f => .frame f rest

/-- Why a stream ended that a reader took frames from: cleanly, or by an error. -/
abbrev StreamEnd := Option CallError

/-- What the end of the stream means to a reader in the given position. -/
def endOf (inBody : Bool) : StreamEnd :=
  if inBody then some (.connectionLost "early eof") else none

theorem takeExact_length {n : Nat} {l front rest : List UInt8}
    (h : Codec.takeExact n l = some (front, rest)) : front.length = n ∧ l = front ++ rest := by
  simp only [Codec.takeExact, List.splitAt_eq] at h
  split at h
  · simp only [Option.some.injEq, Prod.mk.injEq] at h
    obtain ⟨rfl, rfl⟩ := h
    exact ⟨by assumption, (List.take_append_drop n l).symm⟩
  · simp at h

theorem rest_lt_of_read {limit : Nat} {input rest : List UInt8} {f : Frame}
    (h : read limit input = .frame f rest) : rest.length < input.length := by
  unfold read at h
  split at h
  · simp at h
  · rename_i head body h1
    obtain ⟨hl, rfl⟩ := takeExact_length h1
    dsimp only at h
    split at h
    · simp at h
    · split at h
      · simp at h
      · rename_i b r h2
        obtain ⟨-, rfl⟩ := takeExact_length h2
        split at h
        · simp at h
        · simp only [Read.frame.injEq] at h
          obtain ⟨-, rfl⟩ := h
          simp only [List.length_append, hl, headerLength]
          omega

/-- The frames at the front of the bytes, and what the reader meets behind them. -/
def readMany (limit : Nat) (input : List UInt8) : List Frame × Except CallError (List UInt8) :=
  match h : read limit input with
  | .more _ => ([], .ok input)
  | .failed e => ([], .error e)
  | .frame f rest =>
    have := rest_lt_of_read h
    let (fs, last) := readMany limit rest
    (f :: fs, last)
termination_by input.length

/-- The frames of a whole stream and how it ended. -/
def readAll (limit : Nat) (input : List UInt8) : List Frame × StreamEnd :=
  match readMany limit input with
  | (fs, .error e) => (fs, some e)
  | (fs, .ok rest) =>
    match read limit rest with
    | .more inBody => (fs, endOf inBody)
    | _ => (fs, none)

end Frame

end PathPolicy
