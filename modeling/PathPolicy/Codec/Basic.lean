import PathPolicy.Enumeration
import PathPolicy.Error
import PathPolicy.Text.Utf8
import PathPolicy.Time

/-!
# Binary records

A `Codec α` writes values of `α` as bytes and reads them back from the front of a byte list,
handing on what is left. Numbers are little-endian and of fixed width, a list or a text is preceded
by its length in eight bytes, the choice among variants by its number in four, and an optional
value by a byte that says whether it is there. Records are written field after field.
-/

namespace PathPolicy

inductive EncodeFault
  | beforeEpoch
  deriving DecidableEq

def EncodeFault.message : EncodeFault → String
  | .beforeEpoch => "SystemTime must be later than UNIX_EPOCH"

inductive DecodeFault
  | endOfInput
  | shortText
  | invalidText (fault : Text.Utf8.Fault)
  | invalidBoolean (found : UInt8)
  | invalidOptionTag (found : UInt8)
  | unknownVariant (found count : Nat)
  | neitherOkNorError (found : Nat)
  | spanTooLong
  | instantTooLate
  | instantOutOfRange
  deriving DecidableEq

def DecodeFault.message : DecodeFault → String
  | .endOfInput => "io error: unexpected end of file"
  | .shortText => "io error: "
  | .invalidText f => "string is not valid utf8: " ++ f.message
  | .invalidBoolean b =>
    "invalid u8 while decoding bool, expected 0 or 1, found " ++ Nat.repr b.toNat
  | .invalidOptionTag b => "tag for enum is not valid, found " ++ Nat.repr b.toNat
  | .unknownVariant n count =>
    "invalid value: integer `" ++ Nat.repr n ++ "`, expected variant index 0 <= i < " ++
      Nat.repr count
  | .neitherOkNorError n =>
    "invalid value: integer `" ++ Nat.repr n ++ "`, expected `Ok` or `Err`"
  | .spanTooLong => "overflow deserializing Duration"
  | .instantTooLate => "overflow deserializing SystemTime epoch offset"
  | .instantOutOfRange => "overflow deserializing SystemTime"

structure Codec (α : Type) where
  encode : α → Except EncodeFault (List UInt8)
  decode : List UInt8 → Except DecodeFault (α × List UInt8)

namespace Codec

variable {α β : Type}

/-- The first `n` bytes and the rest, if there are that many. -/
def takeExact (n : Nat) (bytes : List UInt8) : Option (List UInt8 × List UInt8) :=
  let (front, rest) := bytes.splitAt n
  if front.length = n then some (front, rest) else none

def littleEndian : Nat → Nat → List UInt8
  | 0, _ => []
  | k + 1, n => n.toUInt8 :: littleEndian k (n / 256)

def littleEndianValue : List UInt8 → Nat
  | [] => 0
  | b :: r => b.toNat + 256 * littleEndianValue r

/-- A number in `width` bytes. -/
def number (width : Nat) (toNat : α → Nat) (ofNat : Nat → α) : Codec α where
  encode a := .ok (littleEndian width (toNat a))
  decode bytes :=
    match takeExact width bytes with
    | none => .error .endOfInput
    | some (front, rest) => .ok (ofNat (littleEndianValue front), rest)

def u8 : Codec UInt8 := number 1 UInt8.toNat UInt8.ofNat

def u16 : Codec UInt16 := number 2 UInt16.toNat UInt16.ofNat

def u32 : Codec UInt32 := number 4 UInt32.toNat UInt32.ofNat

def u64 : Codec UInt64 := number 8 UInt64.toNat UInt64.ofNat

def i64 : Codec Int64 := number 8 (fun n => n.toUInt64.toNat) fun n => (UInt64.ofNat n).toInt64

/-- Nothing is written. -/
def unit : Codec Unit where
  encode _ := .ok []
  decode bytes := .ok ((), bytes)

def boolean : Codec Bool where
  encode b := .ok [if b then 1 else 0]
  decode bytes := do
    let (b, rest) ← u8.decode bytes
    if b = 0 then return (false, rest)
    else if b = 1 then return (true, rest)
    else throw (.invalidBoolean b)

def pair (a : Codec α) (b : Codec β) : Codec (α × β) where
  encode p := do return (← a.encode p.1) ++ (← b.encode p.2)
  decode bytes := do
    let (x, rest) ← a.decode bytes
    let (y, rest) ← b.decode rest
    return ((x, y), rest)

/-- The codec of a type that is read from, and taken apart into, another. -/
def map (f : α → β) (g : β → α) (c : Codec α) : Codec β where
  encode b := c.encode (g b)
  decode bytes := do
    let (a, rest) ← c.decode bytes
    return (f a, rest)

def option (c : Codec α) : Codec (Option α) where
  encode
    | none => .ok [0]
    | some a => do return 1 :: (← c.encode a)
  decode bytes := do
    let (tag, rest) ← u8.decode bytes
    if tag = 0 then return (none, rest)
    else if tag = 1 then
      let (a, rest) ← c.decode rest
      return (some a, rest)
    else throw (.invalidOptionTag tag)

def encodeMany (c : Codec α) : List α → Except EncodeFault (List UInt8)
  | [] => .ok []
  | a :: as => do return (← c.encode a) ++ (← encodeMany c as)

def decodeMany (c : Codec α) : Nat → List UInt8 → Except DecodeFault (List α × List UInt8)
  | 0, bytes => .ok ([], bytes)
  | n + 1, bytes => do
    let (a, rest) ← c.decode bytes
    let (as, rest) ← decodeMany c n rest
    return (a :: as, rest)

def list (c : Codec α) : Codec (List α) where
  encode as := do return (← u64.encode as.length.toUInt64) ++ (← encodeMany c as)
  decode bytes := do
    let (n, rest) ← u64.decode bytes
    decodeMany c n.toNat rest

/-- A list of bytes, read in one piece. -/
def bytes : Codec (List UInt8) where
  encode bs := do return (← u64.encode bs.length.toUInt64) ++ bs
  decode input := do
    let (n, rest) ← u64.decode input
    match takeExact n.toNat rest with
    | none => throw .endOfInput
    | some split => return split

def text : Codec String where
  encode s :=
    let bs := s.toUTF8.data.toList
    do return (← u64.encode bs.length.toUInt64) ++ bs
  decode input := do
    let (n, rest) ← u64.decode input
    match takeExact n.toNat rest with
    | none => throw .shortText
    | some (front, rest) =>
      match String.fromUTF8? ⟨front.toArray⟩ with
      | some s => return (s, rest)
      | none => throw (.invalidText ((Text.Utf8.fault front).getD ⟨0, none⟩))

/-- A number of variants, each with a body of its own. -/
def tagged (count : Nat) (tag : α → Nat) (body : Nat → Codec α) : Codec α where
  encode a := do return (← u32.encode (tag a).toUInt32) ++ (← (body (tag a)).encode a)
  decode input := do
    let (n, rest) ← u32.decode input
    if n.toNat < count then (body n.toNat).decode rest
    else throw (.unknownVariant n.toNat count)

/-- The body of one variant of `α`, which holds a `β`. -/
def variant (project : α → Option β) (inject : β → α) (c : Codec β) : Codec α where
  encode a :=
    match project a with
    | none => .ok []
    | some b => c.encode b
  decode input := do
    let (b, rest) ← c.decode input
    return (inject b, rest)

/-- A variant without a body. -/
def constant (a : α) : Codec α := unit.map (fun _ => a) fun _ => ()

def enumeration [Enumeration α] [DecidableEq α] : Codec α where
  encode a := u32.encode (Enumeration.position a).toUInt32
  decode input := do
    let (n, rest) ← u32.decode input
    match (Enumeration.ofPosition? n.toNat : Option α) with
    | some a => return (a, rest)
    | none => throw (.unknownVariant n.toNat (Enumeration.all : List α).length)

/-- A success or a failure. -/
def outcome (ok : Codec α) (error : Codec β) : Codec (Except β α) where
  encode
    | .ok a => do return (← u32.encode 0) ++ (← ok.encode a)
    | .error b => do return (← u32.encode 1) ++ (← error.encode b)
  decode input := do
    let (n, rest) ← u32.decode input
    if n = 0 then
      let (a, rest) ← ok.decode rest
      return (.ok a, rest)
    else if n = 1 then
      let (b, rest) ← error.decode rest
      return (.error b, rest)
    else throw (.neitherOkNorError n.toNat)

/-- Seconds and nanoseconds as written; nanoseconds beyond a second count as seconds. -/
def secondsAndNanos (tooLong : DecodeFault) (input : List UInt8) :
    Except DecodeFault (Span × List UInt8) := do
  let (seconds, rest) ← u64.decode input
  let (nanos, rest) ← u32.decode rest
  let total := seconds.toNat + nanos.toNat / nanosPerSecond
  if total < UInt64.size then
    return (⟨total.toUInt64, ⟨nanos.toNat % nanosPerSecond, Nat.mod_lt _ (by decide)⟩⟩, rest)
  else throw tooLong

def span : Codec Span where
  encode d := do return (← u64.encode d.seconds) ++ (← u32.encode d.nanos.val.toUInt32)
  decode := secondsAndNanos .spanTooLong

/-- An instant is written as its distance from the epoch, and so only from there on. -/
def instant : Codec Instant where
  encode t :=
    if t.isBeforeEpoch then throw .beforeEpoch
    else span.encode ⟨t.seconds.toUInt64, t.nanos⟩
  decode input := do
    let (d, rest) ← secondsAndNanos .instantTooLate input
    if d.seconds < 0x8000000000000000 then return (⟨d.seconds.toInt64, d.nanos⟩, rest)
    else throw .instantOutOfRange

/-- Writes a value; `what` says in an error what it was. -/
def encodeAs (what : String) (c : Codec α) (a : α) : Except CallError (List UInt8) :=
  match c.encode a with
  | .ok bytes => .ok bytes
  | .error e => .error (.encode what e.message)

/-- Reads a value from the front and ignores what follows it. -/
def decodeAs (what : String) (c : Codec α) (input : List UInt8) : Except CallError α :=
  match c.decode input with
  | .ok (a, _) => .ok a
  | .error e => .error (.decode what e.message)

end Codec

end PathPolicy
