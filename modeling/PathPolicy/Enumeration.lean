/-!
# Enumerations

A type with finitely many values in a fixed order, each with a name. The position of a value is its
number on the wire and its name stands for it in texts.
-/

namespace PathPolicy

class Enumeration (α : Type) where
  all : List α
  name : α → String

namespace Enumeration

variable {α : Type} [Enumeration α]

def ofName? (s : String) : Option α := (all : List α).find? fun a => name a == s

def position [DecidableEq α] (a : α) : Nat := (all : List α).idxOf a

def ofPosition? (n : Nat) : Option α := (all : List α)[n]?

end Enumeration

end PathPolicy
