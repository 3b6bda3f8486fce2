/-!
# Values and tables

A table grows line by line: a dotted key leads to a table inside it, and so does a header, each
making the tables on its way. `Origin` remembers how a table came to be, since that settles what may
still be added to it: no key twice, no table with two headers, nothing in a table written inline.
-/

namespace PathPolicy.Toml

inductive Origin
  /-- A header of its own. The document itself counts as such a table. -/
  | header
  /-- The header of a table inside it. -/
  | implied
  /-- A dotted key that leads through it. -/
  | dotted
  /-- Braces. -/
  | inline
  deriving DecidableEq

inductive Value
  | text (s : String)
  | integer (n : Int)
  /-- A number with a fraction or an exponent; which one does not matter here. -/
  | float
  | boolean (b : Bool)
  /-- A date, a time or both; which one does not matter here. -/
  | moment
  | array (items : List Value)
  /-- Tables under one header each, of which the last may still grow. -/
  | tables (earlier : List Value) (last : List (String × Value))
  | table (origin : Origin) (entries : List (String × Value))
  deriving Inhabited

structure Table where
  origin : Origin
  entries : List (String × Value) := []

namespace Table

def value (t : Table) : Value := .table t.origin t.entries

def get? (t : Table) (key : String) : Option Value := t.entries.lookup key

/-- The table with a value under a key, in place of the one there. -/
def set (t : Table) (key : String) (v : Value) : Table :=
  { t with entries := t.entries.filter (·.1 ≠ key) ++ [(key, v)] }

/--
Changes the table that a path leads to, making the tables on its way. A dotted key may not lead
through a table with a header of its own.
-/
def update (dotted : Bool) (f : Table → Option Table) : List String → Table → Option Table
  | [], t => f t
  | key :: path, t => do
    match t.get? key with
    | none =>
      let inner ← update dotted f path { origin := if dotted then .dotted else .implied }
      return t.set key inner.value
    | some (.table origin entries) =>
      if origin = .inline ∨ (dotted ∧ origin = .header) then none
      else return t.set key (← update dotted f path ⟨origin, entries⟩).value
    | some (.tables earlier last) =>
      return t.set key (.tables earlier (← update dotted f path ⟨.header, last⟩).entries)
    | some _ => none

/-- Adds a value under a dotted key. The last table on its way has to be there for dotted keys. -/
def insert (t : Table) (path : List String) (key : String) (v : Value) : Option Table :=
  t.update true
    (fun inner =>
      if (inner.origin == .dotted) == path.isEmpty then none
      else if (inner.get? key).isSome then none
      else some (inner.set key v))
    path

/-- Makes a table for a header. One that the header of an inner table implied takes its place. -/
def addTable (t : Table) (path : List String) (key : String) : Option Table :=
  t.update false
    (fun inner =>
      match inner.get? key with
      | none => some (inner.set key (.table .header []))
      | some (.table .implied entries) => some (inner.set key (.table .header entries))
      | some _ => none)
    path

def addElement (t : Table) (path : List String) (key : String) : Option Table :=
  t.update false
    (fun inner =>
      match inner.get? key with
      | none => some (inner.set key (.tables [] []))
      | some (.tables earlier last) =>
        some (inner.set key (.tables (earlier ++ [.table .header last]) []))
      | some _ => none)
    path

end Table

end PathPolicy.Toml
