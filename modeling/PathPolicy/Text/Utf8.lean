/-!
# Bytes that are not text

`fault` says where a byte sequence stops being UTF-8: how many bytes are well formed, and how many
behind them are wrong for certain. When the sequence merely ends inside a character, no byte is.
-/

namespace PathPolicy.Text.Utf8

/-- The well-formed bytes in front, and the length of the wrong sequence behind them. -/
structure Fault where
  validUpTo : Nat
  wrong : Option Nat
  deriving DecidableEq

/-- The number of bytes a first byte announces; zero if no character starts with it. -/
def announced (b : UInt8) : Nat :=
  if b < 0x80 then 1 else if b < 0xC2 then 0 else if b < 0xE0 then 2 else if b < 0xF0 then 3
  else if b < 0xF5 then 4 else 0

/-- Whether `second` may stand behind `first`; rules out overlong forms and surrogates. -/
def follows (first second : UInt8) : Bool :=
  if first = 0xE0 then 0xA0 ≤ second && second ≤ 0xBF
  else if first = 0xED then 0x80 ≤ second && second ≤ 0x9F
  else if first = 0xF0 then 0x90 ≤ second && second ≤ 0xBF
  else if first = 0xF4 then 0x80 ≤ second && second ≤ 0x8F
  else 0x80 ≤ second && second ≤ 0xBF

def continues (b : UInt8) : Bool := 0x80 ≤ b && b ≤ 0xBF

/-- What is wrong with the character that starts at `first`, if anything. -/
def characterFault (first : UInt8) (rest : List UInt8) : Option (Option Nat) :=
  match announced first, rest with
  | 1, _ => none
  | 2, [] => some none
  | 2, b :: _ => if follows first b then none else some (some 1)
  | 3, [] => some none
  | 3, [b] => if follows first b then some none else some (some 1)
  | 3, b :: c :: _ =>
    if !follows first b then some (some 1) else if continues c then none else some (some 2)
  | 4, [] => some none
  | 4, [b] => if follows first b then some none else some (some 1)
  | 4, [b, c] =>
    if !follows first b then some (some 1) else if continues c then some none else some (some 2)
  | 4, b :: c :: d :: _ =>
    if !follows first b then some (some 1) else if !continues c then some (some 2)
    else if continues d then none else some (some 3)
  | _, _ => some (some 1)

/-- Looks at each character in turn; `skip` bytes belong to the one before. -/
def faultFrom (position skip : Nat) : List UInt8 → Option Fault
  | [] => none
  | b :: rest =>
    match skip with
    | k + 1 => faultFrom (position + 1) k rest
    | 0 =>
      match characterFault b rest with
      | some wrong => some ⟨position, wrong⟩
      | none => faultFrom (position + 1) (announced b - 1) rest

def fault (bytes : List UInt8) : Option Fault := faultFrom 0 0 bytes

def Fault.message (f : Fault) : String :=
  match f.wrong with
  | some n => "invalid utf-8 sequence of " ++ Nat.repr n ++ " bytes from index " ++
      Nat.repr f.validUpTo
  | none => "incomplete utf-8 byte sequence from index " ++ Nat.repr f.validUpTo

end PathPolicy.Text.Utf8
