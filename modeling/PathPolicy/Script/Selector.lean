import PathPolicy.OfferTable
import PathPolicy.Script.Host
import PathPolicy.Script.Table
import PathPolicy.Selector.Basic
import PathPolicy.Selector.Lifecycle

/-!
# Selection by a script

The script is handed a table for each path on offer and answers with one of these tables. Which
path a table stands for is decided by its identity and never by its contents, so the caller gets
back the object it offered. The tables of the current offers are retained, and with them their
identities stay taken.

Whatever the script does, the selector's own state is updated the same way.
-/

namespace PathPolicy.Script

structure SelectorState where
  offers : OfferTable TableIdentity := {}
  retained : Dictionary RemoteAddress (List TableIdentity) := {}
  lifecycle : RemoteLifecycle := {}
  deriving Inhabited

namespace SelectorState

/-- Offers `paths` for `r` under the identities of their new tables. -/
def populate (s : SelectorState) (r : RemoteAddress) (identities : List TableIdentity)
    (paths : List PathObject) : SelectorState where
  offers := s.offers.replaceWith r (identities.zip paths)
  retained := s.retained.insert r identities
  lifecycle := s.lifecycle.markPopulated r

/-- Drops what is kept for `r`, which is closed from now on. -/
def release (s : SelectorState) (r : RemoteAddress) : SelectorState where
  offers := s.offers.removeRemote r
  retained := s.retained.erase r
  lifecycle := s.lifecycle.markClosed r

/-- The path a script chose with its first value. A table that is not on offer chooses nothing. -/
def resolve (s : SelectorState) (values : List Value) : Except PolicyError (Option PathObject) :=
  match values.headD .nil with
  | .nil => .ok none
  | .record (some identity) _ => .ok (s.offers.resolve identity)
  | .record none _ | .list _ => .ok none
  | v => .error (.script (.runtime "selectpath"
      ("expected a path table or nil, got " ++ v.typeName)))

end SelectorState

variable {σ : Type}

/-- The outcome of an entry point of which only success matters. -/
def outcome (r : Except ScriptError (List Value)) : Except PolicyError Unit :=
  match r with
  | .ok _ => .ok ()
  | .error e => .error (.script e)

/-- One stretch in which the script is told of an offer. -/
def offer (S : Script σ) (p : Procedure.Place σ SelectorState) (entry : String)
    (r : RemoteAddress) (paths : List PathObject) : Procedure σ (Except PolicyError Unit) :=
  .stretch fun s =>
    let (identities, s) := S.allocateMany paths.length s
    let s := p.modify (·.populate r identities paths) s
    let tables := (identities.zip paths).map fun (i, o) => o.path.table i
    let (result, s) := S.invoke selectorModule entry [.text r.text, .list tables] s
    (outcome result, s)

/-- Goes on with `next` unless `r` is closed. -/
def unlessClosed {α : Type} (p : Procedure.Place σ SelectorState) (r : RemoteAddress)
    (operation : String) (next : RemoteState → Procedure σ (Except PolicyError α)) :
    Procedure σ (Except PolicyError α) := do
  match ← .read fun s => (p.get s).lifecycle.ensureOpen r operation with
  | .error e => return .error e
  | .ok state => next state

/-- The selector that asks the script `S` and keeps its own state at `p`. -/
def selector (S : Script σ) (p : Procedure.Place σ SelectorState) : Selector σ where
  start r paths := offer S p "initialize" r paths
  path r := unlessClosed p r "path" fun state =>
    if state = .uninitialized then return .ok none
    else .stretch fun s =>
      match S.invoke selectorModule "selectpath" [.text r.text] s with
      | (.error e, s) => (.error (.script e), s)
      | (.ok values, s) => ((p.get s).resolve values, s)
  pathDown r f i := unlessClosed p r "path_down" fun _ => .stretch fun s =>
    let (result, s) :=
      S.invoke selectorModule "pathdown" [.text r.text, .text f.text, i.table] s
    (outcome result, s)
  refresh r paths := unlessClosed p r "refresh" fun _ => offer S p "refresh" r paths
  close r := unlessClosed p r "close" fun _ => .stretch fun s =>
    let (result, s) := S.invoke selectorModule "close" [.text r.text] s
    (outcome result, p.modify (·.release r) s)

end PathPolicy.Script
