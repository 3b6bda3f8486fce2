import PathPolicy.Dictionary
import PathPolicy.Selector.Basic

/-!
# Failover in the order offered

The selector used when nothing else is configured. For each remote it keeps the latest offer and
the position of the path in use. It stays with a path until that path fails, and then takes the
next one, going round, that the failure does not affect. A refresh that still offers the path in
use keeps it.
-/

namespace PathPolicy

structure Choice where
  paths : List PathObject
  current : Nat := 0
  deriving Inhabited

namespace Choice

def chosen (c : Choice) : Option PathObject := c.paths[c.current]?

/-- The positions behind the current one, in the order in which failover tries them. -/
def candidates (c : Choice) : List Nat :=
  (List.range (c.paths.length - 1)).map fun k => (c.current + (k + 1)) % c.paths.length

def isHealthy (c : Choice) (f : Fingerprint) (i : Interface) (position : Nat) : Bool :=
  match c.paths[position]? with
  | none => false
  | some o => !o.path.isAffected f i

/-- Moves on if the path in use is affected and some other is not. -/
def pathDown (c : Choice) (f : Fingerprint) (i : Interface) : Choice :=
  match c.chosen with
  | none => c
  | some o =>
    if o.path.isAffected f i then
      match c.candidates.find? (c.isHealthy f i) with
      | none => c
      | some next => { c with current := next }
    else c

/-- The new offer, at the first path with the fingerprint of the one in use, or at its start. -/
def refresh (c : Choice) (paths : List PathObject) : Choice :=
  match c.chosen with
  | none => { paths }
  | some o => { paths, current := (paths.findIdx? (·.fingerprint == o.fingerprint)).getD 0 }

end Choice

/-- The choices of all remotes. -/
structure FailoverState where
  choices : Dictionary RemoteAddress Choice := {}
  deriving Inhabited

namespace FailoverState

def start (s : FailoverState) (r : RemoteAddress) (paths : List PathObject) : FailoverState :=
  ⟨s.choices.insert r { paths }⟩

def path (s : FailoverState) (r : RemoteAddress) : Option PathObject :=
  (s.choices.get? r).bind Choice.chosen

def pathDown (s : FailoverState) (r : RemoteAddress) (f : Fingerprint) (i : Interface) :
    FailoverState :=
  ⟨s.choices.modify r (·.pathDown f i)⟩

def refresh (s : FailoverState) (r : RemoteAddress) (paths : List PathObject) : FailoverState :=
  ⟨s.choices.insert r (((s.choices.get? r).getD { paths := [] }).refresh paths)⟩

def close (s : FailoverState) (r : RemoteAddress) : FailoverState := ⟨s.choices.erase r⟩

end FailoverState

/-- Every operation is one stretch and none fails. -/
def failoverSelector : Selector FailoverState where
  start r ps := .stretch fun s => (.ok (), s.start r ps)
  path r := .stretch fun s => (.ok (s.path r), s)
  pathDown r f i := .stretch fun s => (.ok (), s.pathDown r f i)
  refresh r ps := .stretch fun s => (.ok (), s.refresh r ps)
  close r := .stretch fun s => (.ok (), s.close r)

end PathPolicy
