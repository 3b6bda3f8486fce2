import PathPolicy.Codec.Basic
import PathPolicy.Document.Basic
import PathPolicy.Text.Decimal
import PathPolicy.Text.Hex

/-!
# Values of scripts

What is passed to a script and what it answers. A table is a list or a record. A table that
somebody wants to recognise carries an identity; two tables with equal contents may have different
ones. A `nil` in a list or record stands for nothing being there.
-/

namespace PathPolicy.Script

/-- Tells tables apart whose contents are equal. -/
structure TableIdentity where
  number : Nat
  deriving DecidableEq, Inhabited

inductive Value
  | nil
  | boolean (b : Bool)
  | integer (n : Int64)
  /-- A double, kept as its bits. -/
  | double (bits : UInt64)
  | text (s : String)
  | list (items : List Value)
  | record (identity : Option TableIdentity) (fields : List (String × Value))
  | function
  deriving Inhabited

namespace Value

def isNil : Value → Bool
  | .nil => true
  | _ => false

/-- How a script names the type of the value in an error. -/
def typeName : Value → String
  | .nil => "nil"
  | .boolean _ => "boolean"
  | .integer _ => "integer"
  | .double _ => "number"
  | .text _ => "string"
  | .list _ | .record .. => "table"
  | .function => "function"

/-- An integer if it is in range, else the nearest double. -/
def ofInt (n : Int) : Value :=
  if Int64.minValue.toInt ≤ n ∧ n ≤ Int64.maxValue.toInt then .integer (Int64.ofInt n)
  else .double (Float.ofInt n).toBits

def ofUInt64 (n : UInt64) : Value :=
  if n < 0x8000000000000000 then .integer n.toInt64 else .double n.toFloat.toBits

/-- A double is written to fourteen digits and always looks like one. -/
def doubleText (bits : UInt64) : String :=
  let s := Text.Decimal.significant 14 bits
  if s.all fun c => c.isDigit || c == '-' then s ++ ".0" else s

/-- The value as scripts print it; tables and functions by their type only. -/
def toText : Value → String
  | .boolean b => if b then "true" else "false"
  | .integer n => toString n.toInt
  | .double bits => doubleText bits
  | .text s => s
  | v => v.typeName

/-- The element at a position, counted from one. -/
def at? (v : Value) (position : Nat) : Value :=
  match v, position with
  | .list items, n + 1 => items[n]?.getD .nil
  | _, _ => .nil

/-- The elements up to the first that is missing. -/
def items : Value → List Value
  | .list items => items.takeWhile fun v => !v.isNil
  | _ => []

def field (v : Value) (key : String) : Value :=
  match v with
  | .record _ fields => (fields.lookup key).getD .nil
  | _ => .nil

/-- Compares numbers; no other pair of values is ordered. -/
def isBelow (a b : Value) : Bool :=
  match a, b with
  | .integer m, .integer n => m < n
  | .integer m, .double b => Float.ofInt m.toInt < Float.ofBits b
  | .double b, .integer n => Float.ofBits b < Float.ofInt n.toInt
  | .double a, .double b => Float.ofBits a < Float.ofBits b
  | _, _ => false

mutual

/-- A self-describing value for a script; instants have to be at or after the epoch. -/
def ofDocument : Document → Except EncodeFault Value
  | .absent => .ok .nil
  | .boolean b => .ok (.boolean b)
  | .number n => .ok (ofInt n)
  | .text s => .ok (.text s)
  | .instant t =>
    if t.isBeforeEpoch then .error .beforeEpoch
    else .ok (.record none [("secs_since_epoch", .integer t.seconds),
      ("nanos_since_epoch", ofInt t.nanos.val)])
  | .list items => do return .list (← ofItems items)
  | .record fields => do return .record none (← ofFields fields)

def ofItems : List Document → Except EncodeFault (List Value)
  | [] => .ok []
  | d :: ds => do return (← ofDocument d) :: (← ofItems ds)

def ofFields : List (String × Document) → Except EncodeFault (List (String × Value))
  | [] => .ok []
  | (k, d) :: ds => do return (k, ← ofDocument d) :: (← ofFields ds)

end

end Value

/-- What a value is looked up by in a table; a value without an identity is no key. -/
inductive Key
  | boolean (b : Bool)
  | integer (n : Int64)
  | double (bits : UInt64)
  | text (s : String)
  | table (identity : TableIdentity)
  deriving DecidableEq

def Value.key? : Value → Option Key
  | .boolean b => some (.boolean b)
  | .integer n => some (.integer n)
  | .double bits => some (.double bits)
  | .text s => some (.text s)
  | .record (some i) _ => some (.table i)
  | _ => none

/-! ## Values as documents -/

mutual

/-- A table with nothing in it is shown as an empty list. -/
def Value.document : Value → Document
  | .nil => .absent
  | .boolean b => .boolean b
  | .integer n => .number n.toInt
  | .double bits => .record [("$f64", .text (Text.Hex.encode (bigEndian bits)))]
  | .text s => .text s
  | .list items => .list (itemDocuments items)
  | .record _ fields =>
    match fieldDocuments fields with
    | [] => .list []
    | shown => .record shown
  | .function => .record [("$function", .boolean true)]
where
  bigEndian (bits : UInt64) : List UInt8 := (Codec.littleEndian 8 bits.toNat).reverse

def itemDocuments : List Value → List Document
  | [] => []
  | .nil :: vs => itemDocuments vs
  | v :: vs => v.document :: itemDocuments vs

def fieldDocuments : List (String × Value) → List (String × Document)
  | [] => []
  | (_, .nil) :: vs => fieldDocuments vs
  | (k, v) :: vs => (k, v.document) :: fieldDocuments vs

end

instance : Described Value := ⟨Value.document⟩

mutual

def Value.read? : Document → Option Value
  | .absent => some .nil
  | .boolean b => some (.boolean b)
  | .number n => some (.ofInt n)
  | .text s => some (.text s)
  | .instant _ => none
  | .list items => do return .list (← readItems? items)
  | .record [("$f64", .text s)] => do
    return .double (Codec.littleEndianValue (← Text.Hex.decode? s).reverse).toUInt64
  | .record [("$function", _)] => some .function
  | .record fields => do return .record none (← readFields? fields)

def readItems? : List Document → Option (List Value)
  | [] => some []
  | d :: ds => do return (← Value.read? d) :: (← readItems? ds)

def readFields? : List (String × Document) → Option (List (String × Value))
  | [] => some []
  | (k, d) :: ds => do return (k, ← Value.read? d) :: (← readFields? ds)

end

instance : Readable Value := ⟨Value.read?⟩

end PathPolicy.Script
