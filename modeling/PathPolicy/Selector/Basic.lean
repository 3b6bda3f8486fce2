import PathPolicy.Error
import PathPolicy.Procedure

/-!
# Selectors

A selector is told which paths are on offer for each remote and which of them failed, and answers
which path to use. Its five operations run as procedures on a state `σ`. A `SelectorCall` is one of
them with its arguments.
-/

namespace PathPolicy

structure Selector (σ : Type) where
  /-- Opens the remote, or opens it again, with its first offer. -/
  start : RemoteAddress → List PathObject → Procedure σ (Except PolicyError Unit)
  /-- The path to use now; `none` is no opinion. -/
  path : RemoteAddress → Procedure σ (Except PolicyError (Option PathObject))
  pathDown : RemoteAddress → Fingerprint → Interface → Procedure σ (Except PolicyError Unit)
  refresh : RemoteAddress → List PathObject → Procedure σ (Except PolicyError Unit)
  close : RemoteAddress → Procedure σ (Except PolicyError Unit)

inductive SelectorCall
  | start (remote : RemoteAddress) (paths : List PathObject)
  | path (remote : RemoteAddress)
  | pathDown (remote : RemoteAddress) (fingerprint : Fingerprint) (interface : Interface)
  | refresh (remote : RemoteAddress) (paths : List PathObject)
  | close (remote : RemoteAddress)
  deriving DecidableEq

def SelectorCall.remote : SelectorCall → RemoteAddress
  | .start r _ | .path r | .pathDown r .. | .refresh r _ | .close r => r

inductive SelectorAnswer
  | done (outcome : Except PolicyError Unit)
  | chosen (outcome : Except PolicyError (Option PathObject))

namespace Selector

variable {σ τ : Type}

def call (S : Selector σ) : SelectorCall → Procedure σ SelectorAnswer
  | .start r ps => do return .done (← S.start r ps)
  | .path r => do return .chosen (← S.path r)
  | .pathDown r f i => do return .done (← S.pathDown r f i)
  | .refresh r ps => do return .done (← S.refresh r ps)
  | .close r => do return .done (← S.close r)

/-- The selector on a larger state that keeps its own at `p`. -/
def within (p : Procedure.Place τ σ) (S : Selector σ) : Selector τ where
  start r ps := (S.start r ps).within p
  path r := (S.path r).within p
  pathDown r f i := (S.pathDown r f i).within p
  refresh r ps := (S.refresh r ps).within p
  close r := (S.close r).within p

/-- Answers of a run of calls issued one after another, and the state they leave. -/
def runAll (elapse : Nat → σ → σ) (S : Selector σ) :
    List SelectorCall → σ → List SelectorAnswer × σ
  | [], s => ([], s)
  | c :: cs, s =>
    let (a, s) := (S.call c).run elapse s
    let (rest, s) := runAll elapse S cs s
    (a :: rest, s)

theorem length_runAll (elapse : Nat → σ → σ) (S : Selector σ) (cs : List SelectorCall) (s : σ) :
    (S.runAll elapse cs s).1.length = cs.length := by
  induction cs generalizing s with
  | nil => rfl
  | cons c cs ih => simp [runAll, ih]

theorem runAll_append (elapse : Nat → σ → σ) (S : Selector σ) (cs ds : List SelectorCall) (s : σ) :
    S.runAll elapse (cs ++ ds) s =
      ((S.runAll elapse cs s).1 ++ (S.runAll elapse ds (S.runAll elapse cs s).2).1,
        (S.runAll elapse ds (S.runAll elapse cs s).2).2) := by
  induction cs generalizing s with
  | nil => rfl
  | cons c cs ih => simp [runAll, ih]

/-- What is answered to a call depends on the calls before it only. -/
theorem getElem?_runAll (elapse : Nat → σ → σ) (S : Selector σ) (cs ds : List SelectorCall)
    (c : SelectorCall) (s : σ) :
    (S.runAll elapse (cs ++ c :: ds) s).1[cs.length]? =
      some ((S.call c).run elapse (S.runAll elapse cs s).2).1 := by
  rw [runAll_append]
  dsimp only
  rw [List.getElem?_append_right (Nat.le_of_eq (length_runAll elapse S cs s)), length_runAll,
    Nat.sub_self]
  rfl

end Selector

/-- Which selector decides, where a choice is configured. -/
inductive SelectorKind
  | default
  | remote
  | script
  deriving DecidableEq, Inhabited

namespace SelectorKind

def name : SelectorKind → String
  | .default => "default"
  | .remote => "remote"
  | .script => "script"

def title : SelectorKind → String
  | .default => "Default"
  | .remote => "Remote"
  | .script => "Script"

end SelectorKind

end PathPolicy
