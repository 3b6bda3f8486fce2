/-!
# Bytes as hexadecimal text

Two lower-case digits a byte; `decode? (encode bs) = some bs`.
-/

namespace PathPolicy.Text.Hex

def digit (n : Nat) : Char := (Nat.digitChar n)

def encodeChars : List UInt8 → List Char
  | [] => []
  | b :: bs => digit (b.toNat / 16) :: digit (b.toNat % 16) :: encodeChars bs

def encode (bs : List UInt8) : String := String.ofList (encodeChars bs)

def digitValue? (c : Char) : Option Nat :=
  if '0' ≤ c ∧ c ≤ '9' then some (c.toNat - '0'.toNat)
  else if 'a' ≤ c ∧ c ≤ 'f' then some (c.toNat - 'a'.toNat + 10)
  else if 'A' ≤ c ∧ c ≤ 'F' then some (c.toNat - 'A'.toNat + 10)
  else none

def decodeChars? : List Char → Option (List UInt8)
  | [] => some []
  | [_] => none
  | a :: b :: r => do
    let high ← digitValue? a
    let low ← digitValue? b
    let rest ← decodeChars? r
    return (high * 16 + low).toUInt8 :: rest

def decode? (s : String) : Option (List UInt8) := decodeChars? s.toList

/-- The number in hexadecimal after `0x`, without leading zeros. -/
def number (n : Nat) : String := "0x" ++ String.ofList (Nat.toDigits 16 n)

/-- The number in sixteen digits. -/
def word (n : UInt64) : String :=
  let digits := Nat.toDigits 16 n.toNat
  String.ofList (List.replicate (16 - digits.length) '0' ++ digits)

end PathPolicy.Text.Hex
