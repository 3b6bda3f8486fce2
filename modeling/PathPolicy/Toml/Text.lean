import PathPolicy.Text.Hex
import PathPolicy.Toml.Scan

/-!
# Strings and keys

A string stands between double quotes, with escapes, or between single quotes, without. Three quotes
on either side let it go over several lines.
-/

namespace PathPolicy.Toml.Scan

/-- A tab, or any character from the space on but the delete character. -/
def isPlain (c : Char) : Bool := c == '\t' || (' ' ≤ c && c != '\x7f')

def isBlank (c : Char) : Bool := c == ' ' || c == '\t'

def isSpace (c : Char) : Bool := isBlank c || c == '\n'

def blanks : Scan Unit := discard (takeWhile isBlank)

def comment : Scan Unit := do
  expect "#"
  discard (takeWhile isPlain)

/-- The end of a line or of the text, perhaps behind a comment. -/
def endOfLine : Scan Unit := do
  blanks
  if (← peek) == some '#' then comment
  unless (← get).isEmpty do expect "\n"

/-- White space over several lines, with comments. -/
def gap : Scan Unit := do
  discard (takeWhile isSpace)
  discard <| many do
    comment
    expect "\n"
    discard (takeWhile isSpace)

/-! ## Strings -/

/-- The character with a number of so many hexadecimal digits. -/
def numbered (digits : Nat) : Scan Char := do
  let read ← exactly digits (satisfy fun c => (Text.Hex.digitValue? c).isSome)
  let n := read.foldl (fun n c => 16 * n + (Text.Hex.digitValue? c).getD 0) 0
  if n.isValidChar then return Char.ofNat n else failure

def escape : Scan Char := do
  expect "\\"
  match ← satisfy fun _ => true with
  | 'b' => return '\x08'
  | 't' => return '\t'
  | 'n' => return '\n'
  | 'f' => return '\x0c'
  | 'r' => return '\r'
  | '"' => return '"'
  | '\\' => return '\\'
  | 'u' => numbered 4
  | 'U' => numbered 8
  | _ => failure

/-- A string on one line, made of the given characters. -/
def line (quote : String) (character : Scan Char) : Scan String := do
  expect quote
  let s ← many character
  expect quote
  return String.ofList s

def plainBut (excluded : List Char) : Scan Char :=
  satisfy fun c => isPlain c && !excluded.contains c

def basicString : Scan String := line "\"" (plainBut ['"', '\\'] <|> escape)

def literalString : Scan String := line "'" (plainBut ['\''])

/-- One or two quotes, which do not yet end a string over several lines. -/
def quotesInside (quote : Char) : Scan (List Char) := do
  let run ← takeWhile (· == quote)
  if run.length = 1 ∨ run.length = 2 then return run else failure

/-- The end of a string over several lines. Two quotes before it still belong to the string. -/
def closing (quote : Char) : Scan (List Char) := do
  let run ← takeWhile (· == quote)
  if 3 ≤ run.length ∧ run.length ≤ 5 then return run.drop 3 else failure

/-- A string over several lines, made of the given pieces. A line break right after the opening
quotes does not count. -/
def block (quote : Char) (piece : Scan (List Char)) : Scan String := do
  expect (String.ofList [quote, quote, quote])
  discard (skips "\n")
  let body ← many (piece <|> quotesInside quote)
  return String.ofList (body.flatten ++ (← closing quote))

/-- A backslash at the end of a line takes the white space behind it away. -/
def continuation : Scan (List Char) := do
  expect "\\"
  blanks
  expect "\n"
  discard (takeWhile isSpace)
  return []

def one (character : Scan Char) : Scan (List Char) := do return [← character]

def basicBlock : Scan String :=
  block '"' <| one (plainBut ['"', '\\']) <|> continuation <|> one escape <|>
    one (satisfy (· == '\n'))

def literalBlock : Scan String := block '\'' <| one (plainBut ['\'']) <|> one (satisfy (· == '\n'))

def string : Scan String := do
  match ← get with
  | '"' :: '"' :: '"' :: _ => basicBlock
  | '"' :: _ => basicString
  | '\'' :: '\'' :: '\'' :: _ => literalBlock
  | _ => literalString

/-! ## Keys -/

def isBare (c : Char) : Bool := c.isAlphanum || c == '-' || c == '_'

def simpleKey : Scan String := do
  match ← peek with
  | some '"' => basicString
  | some '\'' => literalString
  | _ =>
    let name ← takeWhile isBare
    if name.isEmpty then failure else return String.ofList name

def keyPart : Scan String := do
  blanks
  let name ← simpleKey
  blanks
  return name

/-- How deep values and dotted keys may lead. -/
def depthLimit : Nat := 79

/-- A dotted key: the path to a table and a key in it. -/
def key : Scan (List String × String) := do
  let first ← keyPart
  let rest ← many do
    expect "."
    keyPart
  if depthLimit ≤ rest.length then failure
  else
    let parts := first :: rest
    return (parts.dropLast, parts.getLast (by simp [parts]))

end PathPolicy.Toml.Scan
