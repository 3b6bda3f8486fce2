import PathPolicy.Script.Value

/-!
# Functions every script has

The few functions of the `string` and `math` tables, and the global ones, that a caller from
outside can use on plain values.
-/

namespace PathPolicy.Script.Standard

/-- A function without effects; a failure gives the text raised. -/
abbrev Function := List Value → Except String (List Value)

def typeOf (v : Value) : String :=
  match v with
  | .integer _ => "number"
  | v => v.typeName

def refused (position : Nat) (name reason : String) : String :=
  "bad argument #" ++ Nat.repr position ++ " to '" ++ name ++ "' (" ++ reason ++ ")"

def badArgument (position : Nat) (name expected : String) (v : Option Value) : String :=
  refused position name (expected ++ " expected, got " ++ (v.map typeOf).getD "no value")

/-- The text at a position; numbers count as their text. -/
def textAt (name : String) (position : Nat) (arguments : List Value) : Except String String :=
  match arguments[position]? with
  | some (.text s) => .ok s
  | some (.integer n) => .ok (Value.integer n).toText
  | some (.double bits) => .ok (Value.double bits).toText
  | v => .error (badArgument (position + 1) name "string" v)

/-- The integer equal to a double, or the double if there is none in range. -/
def wholeNumber (x : Float) : Value :=
  if x.floor == x && -9223372036854775808.0 ≤ x && x < 9223372036854775808.0 then
    .integer x.toInt64
  else .double x.toBits

/-- The integer at a position; a double counts as the integer it equals. -/
def integerAt (name : String) (position : Nat) (arguments : List Value) : Except String Int :=
  match arguments[position]? with
  | some (.integer n) => .ok n.toInt
  | some (.double bits) =>
    match wholeNumber (Float.ofBits bits) with
    | .integer n => .ok n.toInt
    | _ => .error (refused (position + 1) name "number has no integer representation")
  | v => .error (badArgument (position + 1) name "number" v)

def onText (name : String) (f : String → Value) : Function := fun arguments => do
  return [f (← textAt name 0 arguments)]

/-- Rounds a number to an integer where it is in range. -/
def rounded (name : String) (f : Float → Float) : Function := fun arguments =>
  match (arguments[0]? : Option Value) with
  | some (.integer n) => .ok [.integer n]
  | some (.double bits) => .ok [wholeNumber (f (Float.ofBits bits))]
  | v => .error (badArgument 1 name "number" v)

def magnitude : Function := fun arguments =>
  match (arguments[0]? : Option Value) with
  | some (.integer n) => .ok [.integer (if n < 0 then -n else n)]
  | some (.double bits) => .ok [.double (bits &&& 0x7fffffffffffffff)]
  | v => .error (badArgument 1 "math.abs" "number" v)

/-- The first of the arguments that no other is better than. -/
def best (name : String) (better : Value → Value → Bool) : Function := fun arguments =>
  match arguments with
  | [] => .error (badArgument 1 name "number" none)
  | v :: vs => .ok [vs.foldl (fun best v => if better v best then v else best) v]

def repeated : Function := fun arguments => do
  let s ← textAt "string.rep" 0 arguments
  let n ← integerAt "string.rep" 1 arguments
  let separator ← if arguments.length > 2 then textAt "string.rep" 2 arguments else pure ""
  return [.text (separator.intercalate (List.replicate n.toNat s))]

def asciiMap (f : Char → Char) (s : String) : Value := .text (s.map f)

/-- The functions of the tables `string` and `math`. -/
def member? : String → String → Option Function
  | "string", "upper" => some (onText "string.upper" (asciiMap Char.toUpper))
  | "string", "lower" => some (onText "string.lower" (asciiMap Char.toLower))
  | "string", "reverse" =>
    some (onText "string.reverse" fun s => .text (String.ofList s.toList.reverse))
  | "string", "len" => some (onText "string.len" fun s => .ofInt s.utf8ByteSize)
  | "string", "rep" => some repeated
  | "math", "floor" => some (rounded "math.floor" Float.floor)
  | "math", "ceil" => some (rounded "math.ceil" Float.ceil)
  | "math", "abs" => some magnitude
  | "math", "max" => some (best "math.max" fun a b => b.isBelow a)
  | "math", "min" => some (best "math.min" Value.isBelow)
  | _, _ => none

def isModule (name : String) : Bool := name == "string" || name == "math"

def global? : String → Option Function
  | "tostring" => some fun
    | [] => .error (refused 1 "tostring" "value expected")
    | v :: _ => .ok [.text v.toText]
  | "type" => some fun
    | [] => .error (refused 1 "type" "value expected")
    | v :: _ => .ok [.text (typeOf v)]
  | _ => none

end PathPolicy.Script.Standard
