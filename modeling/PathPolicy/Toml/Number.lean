import PathPolicy.Text.Decimal
import PathPolicy.Text.Hex
import PathPolicy.Toml.Scan

/-!
# Numbers, dates and times

Digits may be set apart by single underscores. Integers have to fit sixty-four bits with a sign, and
a number with a fraction may not exceed the largest double.
-/

namespace PathPolicy.Toml.Scan

/-- Digits, each but the first perhaps behind an underscore. -/
def digits (radix : Nat) : Scan (List Nat) := do
  let digit : Scan Nat := do
    let c ← satisfy fun c => (Text.Hex.digitValue? c).any (· < radix)
    return (Text.Hex.digitValue? c).getD 0
  let first ← digit
  let rest ← many do
    discard (skips "_")
    digit
  return first :: rest

def ofDigits (radix : Nat) (ds : List Nat) : Nat := ds.foldl (fun n d => radix * n + d) 0

/-- Whether there is a minus sign. -/
def sign : Scan Bool := do
  if ← skips "-" then return true
  discard (skips "+")
  return false

/-- The digits of a whole number, which has no zero in front unless it is zero. -/
def wholeDigits : Scan (List Nat) := do
  if ← skips "0" then return [0] else digits 10

/-! ## Integers -/

/-- The number if it fits sixty-four bits with a sign. -/
def fitting (n : Int) : Scan Int :=
  if Int64.minValue.toInt ≤ n ∧ n ≤ Int64.maxValue.toInt then return n else failure

def integer : Scan Int := do
  if ← skips "0x" then fitting (ofDigits 16 (← digits 16))
  else if ← skips "0o" then fitting (ofDigits 8 (← digits 8))
  else if ← skips "0b" then fitting (ofDigits 2 (← digits 2))
  else
    let negative ← sign
    let n := ofDigits 10 (← wholeDigits)
    fitting (if negative then -n else n)

/-! ## Numbers with a fraction -/

/-- Whether `m`, its decimal point moved right by `scale`, rounds to more than the largest
double. -/
def exceedsDouble (m : Nat) (scale : Int) : Bool :=
  let bound := (1 <<< 1024) - (1 <<< 970)
  let length : Int := (Nat.toDigits 10 m).length
  if m = 0 ∨ length + scale ≤ 308 then false
  else if 309 < length + scale then true
  else if 0 ≤ scale then bound ≤ m * Text.Decimal.tenTo scale.toNat
  else bound * Text.Decimal.tenTo (-scale).toNat ≤ m

def exponent : Scan Int := do
  discard (satisfy fun c => c == 'e' || c == 'E')
  let negative ← sign
  let n := ofDigits 10 (← digits 10)
  return if negative then -n else n

def finiteFloat : Scan Unit := do
  let negative ← sign
  let whole ← wholeDigits
  let fraction ← if ← skips "." then digits 10 else pure []
  let power ← if fraction.isEmpty then exponent else exponent <|> return 0
  if !negative && exceedsDouble (ofDigits 10 (whole ++ fraction)) (power - fraction.length) then
    failure

def specialFloat : Scan Unit := do
  discard sign
  expect "inf" <|> expect "nan"

def float : Scan Unit := finiteFloat <|> specialFloat

/-! ## Dates and times -/

/-- A number of so many decimal digits, within bounds. -/
def numberWithin (count low high : Nat) : Scan Nat := do
  let ds ← exactly count (satisfy Char.isDigit)
  let n := ofDigits 10 (ds.map fun c => c.toNat - '0'.toNat)
  if low ≤ n ∧ n ≤ high then return n else failure

def daysOf (year month : Nat) : Nat :=
  match month with
  | 2 => if year % 4 = 0 ∧ (year % 100 ≠ 0 ∨ year % 400 = 0) then 29 else 28
  | 4 | 6 | 9 | 11 => 30
  | _ => 31

def date : Scan Unit := do
  let year ← numberWithin 4 0 9999
  expect "-"
  let month ← numberWithin 2 1 12
  expect "-"
  discard (numberWithin 2 1 (daysOf year month))

/-- A time of day, in which a minute may have a leap second. -/
def time : Scan Unit := do
  discard (numberWithin 2 0 23)
  expect ":"
  discard (numberWithin 2 0 59)
  expect ":"
  discard (numberWithin 2 0 60)
  (do
    expect "."
    discard (satisfy Char.isDigit)
    discard (takeWhile Char.isDigit)) <|> return ()

def offset : Scan Unit := do
  match ← satisfy fun c => ['Z', 'z', '+', '-'].contains c with
  | '+' | '-' =>
    discard (numberWithin 2 0 23)
    expect ":"
    discard (numberWithin 2 0 59)
  | _ => return ()

def moment : Scan Unit :=
  (do
    date
    (do
      discard (satisfy fun c => ['T', 't', ' '].contains c)
      time
      offset <|> return ()) <|> return ()) <|> time

end PathPolicy.Toml.Scan
