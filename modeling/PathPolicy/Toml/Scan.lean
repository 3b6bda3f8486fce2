/-!
# Scanning

A `Scan` takes characters off the front of a text and answers with what they mean, or fails. An
alternative that fails gives back what it took.
-/

namespace PathPolicy.Toml

abbrev Scan : Type → Type := StateT (List Char) Option

namespace Scan

variable {α : Type}

/-- The character that comes next, which stays where it is. -/
def peek : Scan (Option Char) := return (← get).head?

def satisfy (p : Char → Bool) : Scan Char := do
  match ← get with
  | [] => failure
  | c :: rest =>
    if p c then
      set rest
      return c
    else failure

def takeWhile (p : Char → Bool) : Scan (List Char) :=
  modifyGet fun s => (s.takeWhile p, s.dropWhile p)

/-- Takes the text, which has to come next. -/
def expect (text : String) : Scan Unit := text.toList.forM fun c => discard (satisfy (· == c))

/-- Takes the text if it comes next, and tells whether it did. -/
def skips (text : String) : Scan Bool :=
  (do
    expect text
    return true) <|> return false

def manyUpTo (p : Scan α) : Nat → Scan (List α)
  | 0 => return []
  | n + 1 =>
    (do
      let a ← p
      return a :: (← manyUpTo p n)) <|> return []

/-- Takes as many in a row as there are. Each has to take a character at least. -/
def many (p : Scan α) : Scan (List α) := do manyUpTo p (← get).length

def exactly (n : Nat) (p : Scan α) : Scan (List α) := (List.replicate n p).mapM id

/-- What all of the text means. -/
def all? (p : Scan α) (text : List Char) : Option α :=
  match p.run text with
  | some (a, []) => some a
  | _ => none

end Scan

end PathPolicy.Toml
