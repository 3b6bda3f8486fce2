import PathPolicy.Error
import PathPolicy.Procedure
import PathPolicy.Script.Value

/-!
# Entering a script

A `Script` is known by what its names lead to: a global name, or a name in a module table. An entry
point is looked for in its module and then among the global names, and only a function will do.
`Script.invoke` finds and calls one. Looking up a name may change the state or fail, as calling may.
-/

namespace PathPolicy.Script

/-- A function of a script: called with arguments, it answers values or raises a text. -/
abbrev Body (σ : Type) := List Value → σ → Except String (List Value) × σ

/-- What a name leads to. -/
inductive Binding (σ : Type)
  | function (body : Body σ)
  | table
  | other

variable {σ τ : Type}

def Body.within (p : Procedure.Place σ τ) (body : Body τ) : Body σ := fun arguments s =>
  let (result, t) := body arguments (p.get s)
  (result, p.set t s)

namespace Binding

def function? : Binding σ → Option (Body σ)
  | .function body => some body
  | _ => none

/-- The binding on a larger state that keeps its own at `p`. -/
def within (p : Procedure.Place σ τ) : Binding τ → Binding σ
  | .function body => .function (body.within p)
  | .table => .table
  | .other => .other

end Binding

end PathPolicy.Script

namespace PathPolicy

/-- A loaded script with state `σ`. A failed lookup or call gives the text raised. -/
structure Script (σ : Type) where
  global : String → σ → Except String (Script.Binding σ) × σ
  /-- What a name leads to in the table of a module. -/
  member : String → String → σ → Except String (Script.Binding σ) × σ
  /-- The identity of a table made just now. -/
  allocate : σ → Script.TableIdentity × σ

namespace Script

variable {σ : Type}

/-- The module of a selector's entry points. -/
def selectorModule : String := "panapi"

/-- The module of a tracer's entry points. -/
def tracerModule : String := "stats"

/-- How an error names the text a script raised. -/
def raisedReason (text : String) : String := "runtime error: " ++ text

/-- The global function of a name, if there is one. -/
def globalFunction (S : Script σ) (name : String) (s : σ) :
    Except String (Option (Script.Body σ)) × σ :=
  let (found, s) := S.global name s
  (found.map Script.Binding.function?, s)

/-- The function that serves as `entry` of `module`, if there is one. -/
def entryPoint (S : Script σ) (module entry : String) (s : σ) :
    Except String (Option (Script.Body σ)) × σ :=
  match S.global module s with
  | (.error e, s) => (.error e, s)
  | (.ok .table, s) =>
    match S.member module entry s with
    | (.error e, s) => (.error e, s)
    | (.ok found, s) =>
      match found.function? with
      | some body => (.ok (some body), s)
      | none => S.globalFunction entry s
  | (.ok _, s) => S.globalFunction entry s

def invoke (S : Script σ) (module entry : String) (arguments : List Value) (s : σ) :
    Except ScriptError (List Value) × σ :=
  match S.entryPoint module entry s with
  | (.error e, s) => (.error (.runtime entry (raisedReason e)), s)
  | (.ok none, s) => (.error (.notImplemented entry), s)
  | (.ok (some body), s) =>
    match body arguments s with
    | (.error e, s) => (.error (.runtime entry (raisedReason e)), s)
    | (.ok values, s) => (.ok values, s)

/-- Identities for a number of new tables. -/
def allocateMany (S : Script σ) : Nat → σ → List TableIdentity × σ
  | 0, s => ([], s)
  | n + 1, s =>
    let (i, s) := S.allocate s
    let (rest, s) := allocateMany S n s
    (i :: rest, s)

theorem length_allocateMany (S : Script σ) (n : Nat) (s : σ) :
    (S.allocateMany n s).1.length = n := by
  induction n generalizing s with
  | zero => rfl
  | succ n ih => simp [allocateMany, ih]

/-- The script on a larger state that keeps its own at `p`. -/
def within {τ : Type} (p : Procedure.Place σ τ) (S : Script τ) : Script σ where
  global name s :=
    let (result, t) := S.global name (p.get s)
    (result.map (Binding.within p), p.set t s)
  member module name s :=
    let (result, t) := S.member module name (p.get s)
    (result.map (Binding.within p), p.set t s)
  allocate s :=
    let (identity, t) := S.allocate (p.get s)
    (identity, p.set t s)

theorem allocateMany_within {τ : Type} (S : Script τ) (n : Nat) (s : σ × τ) :
    (S.within .second).allocateMany n s =
      ((S.allocateMany n s.2).1, (s.1, (S.allocateMany n s.2).2)) := by
  induction n generalizing s with
  | zero => rfl
  | succ n ih =>
    simp only [allocateMany, within, Procedure.Place.second] at ih ⊢
    rw [ih]

theorem globalFunction_within {τ : Type} (S : Script τ) (name : String) (c : σ) (t : τ) :
    (S.within .second).globalFunction name (c, t) =
      ((S.globalFunction name t).1.map (Option.map (Body.within .second)),
        (c, (S.globalFunction name t).2)) := by
  simp only [globalFunction, within, Procedure.Place.second]
  cases (S.global name t).1 with
  | error e => rfl
  | ok b => cases b <;> rfl

theorem entryPoint_within {τ : Type} (S : Script τ) (module entry : String) (c : σ) (t : τ) :
    (S.within .second).entryPoint module entry (c, t) =
      ((S.entryPoint module entry t).1.map (Option.map (Body.within .second)),
        (c, (S.entryPoint module entry t).2)) := by
  have hglobal : (S.within .second).global module (c, t) =
      ((S.global module t).1.map (Binding.within .second), (c, (S.global module t).2)) := rfl
  have hmember (t : τ) : (S.within .second).member module entry (c, t) =
      ((S.member module entry t).1.map (Binding.within .second),
        (c, (S.member module entry t).2)) := rfl
  simp only [entryPoint, hglobal]
  rcases S.global module t with ⟨_ | ⟨_ | _ | _⟩, t⟩
  · rfl
  · exact globalFunction_within S entry c t
  · simp only [Except.map, Binding.within, hmember]
    rcases S.member module entry t with ⟨_ | ⟨_ | _ | _⟩, t⟩
    · rfl
    · rfl
    · exact globalFunction_within S entry c t
    · exact globalFunction_within S entry c t
  · exact globalFunction_within S entry c t

/-- A script that keeps its state in a second component changes nothing else. -/
theorem invoke_within {τ : Type} (S : Script τ) (module entry : String) (arguments : List Value)
    (s : σ × τ) :
    (S.within .second).invoke module entry arguments s =
      ((S.invoke module entry arguments s.2).1,
        (s.1, (S.invoke module entry arguments s.2).2)) := by
  obtain ⟨c, t⟩ := s
  simp only [invoke, entryPoint_within]
  rcases S.entryPoint module entry t with ⟨_ | _ | body, t⟩
  · rfl
  · rfl
  · simp only [Except.map, Option.map, Body.within, Procedure.Place.second]
    rcases body arguments t with ⟨_ | values, t⟩ <;> rfl

end Script

end PathPolicy
