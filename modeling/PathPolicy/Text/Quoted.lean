import PathPolicy.Text.Printable

/-!
# Quoted text

Text between double quotes, as diagnostics show it. A quote and a backslash get a backslash before
them, and a character that would not show is written by its number.
-/

namespace PathPolicy.Text.Quoted

def escape (c : Char) : List Char :=
  if c = '"' ∨ c = '\\' then ['\\', c]
  else if c = '\n' then ['\\', 'n']
  else if c = '\r' then ['\\', 'r']
  else if c = '\t' then ['\\', 't']
  else if c.toNat = 0 then ['\\', '0']
  else if isPrintable c then [c]
  else ['\\', 'u', '{'] ++ Nat.toDigits 16 c.toNat ++ ['}']

def quote (s : String) : String := String.ofList ('"' :: s.toList.flatMap escape ++ ['"'])

/-- The quoted text, or a word for its absence. -/
def quoteOption : Option String → String
  | none => "None"
  | some s => "Some(" ++ quote s ++ ")"

end PathPolicy.Text.Quoted
