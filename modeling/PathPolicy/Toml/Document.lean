import PathPolicy.Toml.Number
import PathPolicy.Toml.Text
import PathPolicy.Toml.Value

/-!
# Documents

A document is a sequence of lines. A header says which table the lines behind it belong to, and
every other line gives a key of that table its value. `parse?` builds the table of the whole
document.
-/

namespace PathPolicy.Toml

namespace Scan

/-! ## Values -/

def scalar : Scan Value := do
  match ← peek with
  | some '"' | some '\'' => return .text (← string)
  | some 't' =>
    expect "true"
    return .boolean true
  | some 'f' =>
    expect "false"
    return .boolean false
  | _ =>
    (do
      moment
      return .moment) <|>
    (do
      float
      return .float) <|>
    return .integer (← integer)

def array (element : Scan Value) : Scan Value := do
  expect "["
  gap
  if ← skips "]" then return .array []
  let first ← element
  gap
  let rest ← many do
    expect ","
    gap
    let v ← element
    gap
    return v
  if ← skips "," then gap
  expect "]"
  return .array (first :: rest)

/-- A key and its value. -/
def assignment (v : Scan Value) : Scan ((List String × String) × Value) := do
  let path ← key
  expect "="
  blanks
  return (path, ← v)

def inlineTable (element : Scan Value) : Scan Value := do
  let pair := do
    let a ← assignment element
    blanks
    return a
  expect "\x7b"
  blanks
  if ← skips "\x7d" then return .table .inline []
  let first ← pair
  let rest ← many do
    expect ","
    pair
  expect "\x7d"
  let filled := (first :: rest).foldlM
    (fun (t : Table) ((path, key), v) => t.insert path key v) { origin := .inline }
  match filled with
  | some t => return t.value
  | none => failure

/-- A value in which arrays and inline tables lie in each other at most `depth` deep. -/
def value : Nat → Scan Value
  | 0 => scalar
  | depth + 1 => do
    match ← peek with
    | some '[' => array (value depth)
    | some '{' => inlineTable (value depth)
    | _ => scalar

end Scan

/-! ## Lines -/

inductive Line
  | blank
  | assignment (path : List String) (key : String) (v : Value)
  /-- The lines behind it belong to a table. -/
  | table (path : List String) (key : String)
  /-- The lines behind it belong to one more of several tables. -/
  | element (path : List String) (key : String)

namespace Line

def scan : Scan Line := do
  Scan.blanks
  match ← get with
  | [] => failure
  | '#' :: _ | '\n' :: _ =>
    Scan.endOfLine
    return .blank
  | '[' :: '[' :: _ =>
    Scan.expect "[["
    let (path, key) ← Scan.key
    Scan.expect "]]"
    Scan.endOfLine
    return .element path key
  | '[' :: _ =>
    Scan.expect "["
    let (path, key) ← Scan.key
    Scan.expect "]"
    Scan.endOfLine
    return .table path key
  | _ =>
    let ((path, key), v) ← Scan.assignment (Scan.value Scan.depthLimit)
    Scan.endOfLine
    return .assignment path key v

/-- The document and the path to the table that the last header named, after one more line. -/
def add (document : Table) (current : List String) : Line → Option (Table × List String)
  | .blank => some (document, current)
  | .assignment path key v => do
    return (← document.update false (·.insert path key v) current, current)
  | .table path key => do return (← document.addTable path key, path ++ [key])
  | .element path key => do return (← document.addElement path key, path ++ [key])

end Line

/-- Line breaks of two characters become one. -/
def unifyBreaks : List Char → List Char
  | '\r' :: '\n' :: rest => '\n' :: unifyBreaks rest
  | c :: rest => c :: unifyBreaks rest
  | [] => []

def lines : Scan (List Line) := do
  discard (Scan.skips "\ufeff")
  let found ← Scan.many Line.scan
  Scan.blanks
  return found

/-- The table of a document, if the document is well formed. -/
def parse? (text : String) : Option Table := do
  let found ← lines.all? (unifyBreaks text.toList)
  let (document, _) ← found.foldlM
    (fun (document, current) line => line.add document current) ({ origin := .header }, [])
  return document

end PathPolicy.Toml
