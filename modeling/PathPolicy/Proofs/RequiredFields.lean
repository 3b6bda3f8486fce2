import PathPolicy.Remote.SelectorService
import PathPolicy.Remote.TracerService
import Mathlib.Tactic.Common

/-!
# Fields that a method requires

A method looks at the fields it requires one after another, and a message that lacks some is turned
away with the name of the first that is absent. `Checks` says so of a computation; it is built up
field by field, as the computations are.
-/

namespace PathPolicy.Remote

open Telemetry

/-- The computation fails with the first of the fields that is absent, and succeeds if none is. -/
def Checks {φ α : Type} (has : φ → Bool) (name : φ → String) (method : String) (fields : List φ)
    (x : Except MethodError α) : Prop :=
  match fields.find? fun f => !has f with
  | some f => x = .error (.missingField method (name f))
  | none => ∃ a, x = .ok a

section Checks

variable {φ α β : Type} {has : φ → Bool} {name : φ → String} {method : String} {fields : List φ}

lemma checks_pure (a : α) : Checks has name method [] (pure a) := ⟨a, rfl⟩

/-- One more field is looked at before. -/
lemma Checks.need {f : φ} {value : Option α} {k : α → Except MethodError β}
    (hf : has f = value.isSome) (hk : ∀ a, Checks has name method fields (k a)) :
    Checks has name method (f :: fields) (MethodError.required method (name f) value >>= k) := by
  unfold Checks
  rw [List.find?_cons]
  cases value with
  | none =>
    rw [Option.isSome_none] at hf
    simp only [hf, Bool.not_false]
    rfl
  | some a =>
    rw [Option.isSome_some] at hf
    simp only [hf, Bool.not_true]
    exact hk a

lemma Checks.exists_eq_ok_iff {x : Except MethodError α} (h : Checks has name method fields x) :
    (∃ a, x = .ok a) ↔ ∀ f ∈ fields, has f := by
  unfold Checks at h
  split at h
  · rename_i f hf
    have hmem := List.mem_of_find?_eq_some hf
    have habsent := List.find?_some hf
    constructor
    · rintro ⟨a, ha⟩
      rw [h] at ha
      contradiction
    · intro hall
      simp [hall f hmem] at habsent
  · rename_i hnone
    refine ⟨fun _ f hf => ?_, fun _ => h⟩
    simpa using List.find?_eq_none.mp hnone f hf

/-- What fails names the first field that is absent. -/
lemma Checks.eq_error_iff {x : Except MethodError α} (h : Checks has name method fields x)
    (e : MethodError) :
    x = .error e ↔ ∃ before f after, fields = before ++ f :: after ∧ (∀ g ∈ before, has g) ∧
      ¬has f ∧ e = .missingField method (name f) := by
  unfold Checks at h
  split at h
  · rename_i f hf
    rw [h]
    constructor
    · intro he
      obtain ⟨habsent, before, after, rfl, hbefore⟩ := List.find?_eq_some_iff_append.mp hf
      exact ⟨before, f, after, rfl, by simpa using hbefore, by simpa using habsent,
        (Except.error.inj he).symm⟩
    · rintro ⟨before, g, after, rfl, hbefore, habsent, rfl⟩
      have hg : (before ++ g :: after).find? (fun f => !has f) = some g :=
        List.find?_eq_some_iff_append.mpr
          ⟨by simpa using habsent, before, after, rfl, by simpa using hbefore⟩
      rw [hf] at hg
      rw [Option.some.inj hg]
  · rename_i hnone
    obtain ⟨a, rfl⟩ := h
    constructor
    · intro he
      contradiction
    · rintro ⟨before, f, after, rfl, -, habsent, -⟩
      have := List.find?_eq_none.mp hnone f (by simp)
      simp [habsent] at this

end Checks

/-! ### Selectors -/

inductive SelectorField
  | remote
  | paths
  | fingerprint
  | interface
  deriving DecidableEq

def SelectorField.name : SelectorField → String
  | .remote => "remote"
  | .paths => "paths"
  | .fingerprint => "fingerprint"
  | .interface => "interface"

def SelectorMessage.has (m : SelectorMessage) : SelectorField → Bool
  | .remote => m.remote.isSome
  | .paths => m.paths.isSome
  | .fingerprint => m.fingerprint.isSome
  | .interface => m.interface.isSome

/-- The fields without which the method does nothing, in the order they are checked. -/
def SelectorMethod.requiredFields : SelectorMethod → List SelectorField
  | .start | .refresh => [.remote, .paths]
  | .path | .close => [.remote]
  | .pathDown => [.remote, .fingerprint, .interface]

section Selector

variable (m : SelectorMessage)

lemma checks_offer (method : SelectorMethod) :
    Checks m.has SelectorField.name method.name [.remote, .paths]
      (do return (← method.required "remote" m.remote, ← method.required "paths" m.paths)) :=
  .need rfl fun _ => .need rfl fun _ => checks_pure _

lemma checks_pathDown :
    Checks m.has SelectorField.name SelectorMethod.pathDown.name
      SelectorMethod.pathDown.requiredFields
      (do return (← SelectorMethod.pathDown.required "remote" m.remote,
        ← SelectorMethod.pathDown.required "fingerprint" m.fingerprint,
        ← SelectorMethod.pathDown.required "interface" m.interface)) :=
  .need rfl fun _ => .need rfl fun _ => .need rfl fun _ => checks_pure _

lemma checks_remote (method : SelectorMethod) :
    Checks m.has SelectorField.name method.name [.remote]
      (method.required "remote" m.remote) := by
  have h : Checks m.has SelectorField.name method.name [.remote]
      (method.required "remote" m.remote >>= pure) := .need rfl fun _ => checks_pure _
  rwa [bind_pure] at h

end Selector

/-! ### Tracers -/

namespace TracerMessage

variable (m : TracerMessage)

def registrationFields : List MessageField := [.tracingId, .perspective, .odcid]

/-- The fields that the method for events of a kind requires, the caller's id before the others. -/
def eventFields (k : EventKind) : List MessageField := .tracingId :: requiredFields k

lemma checks_registration :
    Checks m.has MessageField.name registrationMethod registrationFields
      (do return (← MethodError.required registrationMethod "tracing_id" m.tracingId,
        ← MethodError.required registrationMethod "perspective" m.perspective,
        ← MethodError.required registrationMethod "odcid" m.odcid)) :=
  .need rfl fun _ => .need rfl fun _ => .need rfl fun _ => checks_pure _

/-- An event is rebuilt just when no field is absent that its kind requires. -/
theorem checks_toEvent? (k : EventKind) :
    Checks m.has MessageField.name (methodFor k) (requiredFields k) (m.toEvent? k) := by
  cases k <;> repeat' first | exact checks_pure _ | refine Checks.need rfl fun _ => ?_

lemma checks_event (k : EventKind) :
    Checks m.has MessageField.name (methodFor k) (eventFields k)
      (do
        let callerId ← MethodError.required (methodFor k) "tracing_id" m.tracingId
        return (callerId, ← m.toEvent? k)) := by
  refine Checks.need rfl fun callerId => ?_
  have h := m.checks_toEvent? k
  unfold Checks at h ⊢
  split at h
  · rw [h]
    rfl
  · obtain ⟨e, he⟩ := h
    rw [he]
    exact ⟨(callerId, e), rfl⟩

end TracerMessage

end PathPolicy.Remote
