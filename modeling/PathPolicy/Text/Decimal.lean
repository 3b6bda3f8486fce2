/-!
# Doubles in decimal

`significant` writes a double to a number of significant digits, rounded to nearest with ties to the
even neighbour and without trailing zeros. It is positional while the exponent is at least -4
and below the number of digits, and scientific with an exponent of at least two digits beyond.
-/

namespace PathPolicy.Text.Decimal

/-- A finite double taken apart: its magnitude is `mantissa` times two to the `exponent`. -/
structure Binary where
  negative : Bool
  mantissa : Nat
  exponent : Int

inductive Class
  | finite (b : Binary)
  | infinite (negative : Bool)
  | notANumber (negative : Bool)

def classify (bits : UInt64) : Class :=
  let negative := bits >>> 63 == 1
  let exponent : Nat := (bits >>> 52).toNat % 0x800
  let fraction := bits.toNat % 0x10000000000000
  if exponent = 0x7ff then
    if fraction = 0 then .infinite negative else .notANumber negative
  else if exponent = 0 then .finite ⟨negative, fraction, -1074⟩
  else .finite ⟨negative, fraction + 0x10000000000000, exponent - 1075⟩

/-- The quotient rounded to nearest, ties to even. -/
def roundDiv (a b : Nat) : Nat :=
  let q := a / b
  let twice := 2 * (a % b)
  if twice > b || (twice == b && q % 2 == 1) then q + 1 else q

def digitCount (n : Nat) : Nat := (Nat.toDigits 10 n).length

/-- A power of ten. -/
def tenTo (n : Nat) : Nat := Nat.pow 10 n

/-- The power of ten of the first digit of `a / b`, for positive `a` and `b`. -/
def exponentOf (a b : Nat) : Int :=
  if b ≤ a then (digitCount (a / b) : Int) - 1
  else
    let k := digitCount (b / a)
    if b ≤ a * tenTo (k - 1) then 1 - (k : Int) else -(k : Int)

/-- The decimal exponent and the first `digits` digits, as one number, of `a / b`. -/
def round (digits a b : Nat) : Int × Nat :=
  let x := exponentOf a b
  let shift : Int := digits - 1 - x
  let n := roundDiv (a * tenTo shift.toNat) (b * tenTo (-shift).toNat)
  if n = tenTo digits then (x + 1, tenTo (digits - 1)) else (x, n)

def withoutTrailingZeros (ds : List Char) : List Char := (ds.reverse.dropWhile (· == '0')).reverse

/-- Whole part and fraction, the mark only before a fraction. -/
def joined (whole fraction : List Char) : List Char :=
  match withoutTrailingZeros fraction with
  | [] => whole
  | ds => whole ++ '.' :: ds

def scientificExponent (x : Int) : List Char :=
  let ds := Nat.toDigits 10 x.natAbs
  'e' :: (if x < 0 then '-' else '+') :: (if ds.length < 2 then '0' :: ds else ds)

/-- The digits `ds`, the first of which counts for ten to the `x`. -/
def place (digits : Nat) (x : Int) (ds : List Char) : List Char :=
  if x < -4 ∨ (digits : Int) ≤ x then
    joined (ds.take 1) (ds.drop 1) ++ scientificExponent x
  else if x < 0 then joined ['0'] (List.replicate (-x - 1).toNat '0' ++ ds)
  else joined (ds.take (x.toNat + 1)) (ds.drop (x.toNat + 1))

def signed (negative : Bool) (s : String) : String := if negative then "-" ++ s else s

def significant (digits : Nat) (bits : UInt64) : String :=
  match classify bits with
  | .infinite negative => signed negative "inf"
  | .notANumber negative => signed negative "nan"
  | .finite ⟨negative, 0, _⟩ => signed negative "0"
  | .finite ⟨negative, m, q⟩ =>
    let (x, n) := round digits (m <<< q.toNat) (1 <<< (-q).toNat)
    signed negative (String.ofList (place digits x (Nat.toDigits 10 n)))

/-- The double with the value of a single-precision float, both as bits. -/
def widen (bits : UInt32) : UInt64 :=
  let sign := (bits >>> 31).toUInt64 <<< 63
  let exponent := (bits >>> 23).toNat % 0x100
  let fraction := bits.toNat % 0x800000
  let rest :=
    if exponent = 0xff then
      0x7ff <<< 52 + (if fraction = 0 then 0 else 1 <<< 51 ||| fraction <<< 29)
    else if exponent = 0 then
      if fraction = 0 then 0
      else
        let top := fraction.log2
        (top + 874) <<< 52 + (fraction - 1 <<< top) <<< (52 - top)
    else (exponent + 896) <<< 52 + fraction <<< 29
  sign ||| rest.toUInt64

example : significant 14 0x3ff8000000000000 = "1.5" := by decide +kernel
example : significant 14 0xc00921fb54442d18 = "-3.1415926535898" := by decide +kernel
example : significant 14 0x42d6bcc41e900000 = "1e+14" := by decide +kernel
example : significant 14 0x3f1a36e2eb1c432d = "0.0001" := by decide +kernel
example : significant 14 0x0000000000000001 = "4.9406564584125e-324" := by decide +kernel
example : widen 0x00000001 = 0x36a0000000000000 := by decide +kernel
example : widen 0xff7fffff = 0xc7efffffe0000000 := by decide +kernel

end PathPolicy.Text.Decimal
