import PathPolicy.Proofs.Interleaving
import PathPolicy.Service

/-!
# Layers around a selector

A selector may stand in layers. Some wait before each operation, others stand for the selector of a
policy. A call that comes through layers is the selector's own call, put off: so whatever the layers
are, the selector is asked each call once and as it was made, and what it answers at that moment is
the answer.
-/

namespace PathPolicy

variable {σ : Type}

inductive Layer
  | debug (ms : Nat)
  | policy (kind : Option SelectorKind)
  deriving DecidableEq

namespace Layer

def around : Layer → Selector σ → Selector σ
  | debug ms, S => S.delayed ms
  | policy kind, S => PolicySelector.selector ⟨kind, S⟩

/-- How long a call sleeps in the layer, if it sleeps at all. -/
def delay? : Layer → Option Nat
  | debug ms => some ms
  | policy _ => none

/-- What becomes of a state while a call comes through layers, the outermost first. -/
def pass (elapse : Nat → σ → σ) (layers : List Layer) (s : σ) : σ :=
  (layers.filterMap delay?).foldl (fun s ms => elapse ms s) s

lemma pass_still (layers : List Layer) (s : σ) : pass (fun _ s => s) layers s = s := by
  unfold pass
  induction layers.filterMap delay? with
  | nil => rfl
  | cons ms delays ih => exact ih

lemma pass_beside {ρ : Type} (elapse : Nat → σ → σ) (layers : List Layer) (s : ρ × σ) :
    pass (Procedure.beside elapse) layers s = (s.1, pass elapse layers s.2) := by
  unfold pass
  induction layers.filterMap delay? generalizing s with
  | nil => rfl
  | cons ms delays ih => exact ih (Procedure.beside elapse ms s)

end Layer

namespace Selector

variable (S : Selector σ)

def inLayers (layers : List Layer) : Selector σ := layers.foldr Layer.around S

/-- Calls one after another, where `between` happens to the state before each of them. -/
def runAllAmid (between : σ → σ) (elapse : Nat → σ → σ) :
    List SelectorCall → σ → List SelectorAnswer × σ
  | [], s => ([], s)
  | c :: cs, s =>
    let (a, s) := (S.call c).run elapse (between s)
    let (rest, s) := runAllAmid between elapse cs s
    (a :: rest, s)

def note (c : SelectorCall) (s : List SelectorCall × σ) : List SelectorCall × σ :=
  (s.1 ++ [c], s.2)

/-- A selector of which it is noted down what it is asked. -/
def noting : Selector (List SelectorCall × σ) where
  start r ps := .act (note (.start r ps)) fun _ => (S.start r ps).within .second
  path r := .act (note (.path r)) fun _ => (S.path r).within .second
  pathDown r f i := .act (note (.pathDown r f i)) fun _ => (S.pathDown r f i).within .second
  refresh r ps := .act (note (.refresh r ps)) fun _ => (S.refresh r ps).within .second
  close r := .act (note (.close r)) fun _ => (S.close r).within .second

/-! ### One call -/

lemma call_around (l : Layer) (c : SelectorCall) :
    (l.around S).call c = l.delay?.elim (S.call c) fun ms => .sleep ms (S.call c) := by
  cases l <;> cases c <;> rfl

/-- In layers, a call sleeps through them and then goes on as the selector's own. -/
lemma call_inLayers (layers : List Layer) (c : SelectorCall) :
    (S.inLayers layers).call c =
      (layers.filterMap Layer.delay?).foldr Procedure.sleep (S.call c) := by
  induction layers with
  | nil => rfl
  | cons l layers ih =>
    have houter : (S.inLayers (l :: layers)).call c = _ := call_around (S.inLayers layers) l c
    rw [houter, ih]
    cases l <;> rfl

lemma run_call_inLayers (elapse : Nat → σ → σ) (layers : List Layer) (c : SelectorCall) (s : σ) :
    ((S.inLayers layers).call c).run elapse s =
      (S.call c).run elapse (Layer.pass elapse layers s) := by
  rw [call_inLayers, Layer.pass]
  induction layers.filterMap Layer.delay? generalizing s with
  | nil => rfl
  | cons ms delays ih => exact ih (elapse ms s)

lemma run_call_noting (elapse : Nat → σ → σ) (c : SelectorCall) (notes : List SelectorCall)
    (s : σ) :
    (S.noting.call c).run (Procedure.beside elapse) (notes, s) =
      (((S.call c).run elapse s).1, (notes ++ [c], ((S.call c).run elapse s).2)) := by
  have hnoted {α : Type} (p : Procedure σ α) (answer : α → SelectorAnswer) :
      ((Procedure.act (note c) fun _ => p.within .second) >>= fun a => pure (answer a)).run
          (Procedure.beside elapse) (notes, s) =
        (((p >>= fun a => pure (answer a)).run elapse s).1,
          (notes ++ [c], ((p >>= fun a => pure (answer a)).run elapse s).2)) := by
    have hwithin := Procedure.run_within_second elapse p (notes ++ [c], s)
    rw [Procedure.run_bind, Procedure.run_bind, Procedure.run, note, hwithin]
    rfl
  cases c <;> exact hnoted _ _

/-! ### Any number of calls -/

lemma runAll_inLayers (elapse : Nat → σ → σ) (layers : List Layer) (calls : List SelectorCall)
    (s : σ) :
    (S.inLayers layers).runAll elapse calls s =
      S.runAllAmid (Layer.pass elapse layers) elapse calls s := by
  induction calls generalizing s with
  | nil => rfl
  | cons c calls ih => simp only [runAll, runAllAmid, run_call_inLayers, ih]

lemma runAllAmid_still {between : σ → σ} (hstill : ∀ s, between s = s) (elapse : Nat → σ → σ)
    (calls : List SelectorCall) (s : σ) :
    S.runAllAmid between elapse calls s = S.runAll elapse calls s := by
  induction calls generalizing s with
  | nil => rfl
  | cons c calls ih => simp only [runAll, runAllAmid, hstill, ih]

/-- Nothing is noted but the calls, whatever happens between them to the selector's own state. -/
lemma runAllAmid_noting {between : List SelectorCall × σ → List SelectorCall × σ}
    {inner : σ → σ} (hinner : ∀ s, between s = (s.1, inner s.2)) (elapse : Nat → σ → σ)
    (calls notes : List SelectorCall) (s : σ) :
    S.noting.runAllAmid between (Procedure.beside elapse) calls (notes, s) =
      ((S.runAllAmid inner elapse calls s).1,
        (notes ++ calls, (S.runAllAmid inner elapse calls s).2)) := by
  induction calls generalizing notes s with
  | nil => simp [runAllAmid]
  | cons c calls ih =>
    simp only [runAllAmid, hinner, run_call_noting, ih, List.append_cons notes c calls]

/-- Whatever time does to the state of a selector, calls through layers are answered what it answers
to these calls at the moments at which they have come through, and leave it as they leave it there;
it is asked just these calls, each once, in this order. So where the calls alone change its state,
the layers make no difference to answers and state. -/
theorem layers_are_transparent (layers : List Layer) (calls : List SelectorCall) (s : σ) :
    (∀ elapse : Nat → σ → σ,
      let layered := (S.inLayers layers).runAll elapse calls s
      layered = S.runAllAmid (Layer.pass elapse layers) elapse calls s ∧
      ∀ notes, (S.noting.inLayers layers).runAll (Procedure.beside elapse) calls (notes, s) =
        (layered.1, (notes ++ calls, layered.2))) ∧
    (S.inLayers layers).runAll (fun _ s => s) calls s = S.runAll (fun _ s => s) calls s := by
  constructor
  · intro elapse layered
    have hlayered : layered = S.runAllAmid (Layer.pass elapse layers) elapse calls s :=
      runAll_inLayers S elapse layers calls s
    refine ⟨hlayered, fun notes => ?_⟩
    rw [runAll_inLayers, hlayered]
    exact runAllAmid_noting S (Layer.pass_beside elapse layers) elapse calls notes s
  · rw [runAll_inLayers]
    exact runAllAmid_still S (Layer.pass_still layers) _ calls s

end Selector

/-! ### The layers of a policy -/

/-- What stands around the selector of a policy. -/
def Policy.layers (p : Policy) : List Layer :=
  match p.delay with
  | none => [.policy (some p.selectorKind)]
  | some ms => [.policy none, .debug ms.toNat, .policy (some p.selectorKind)]

theorem Service.selector_eq_inLayers (p : Policy) :
    Service.selector p =
      (failoverSelector.within ⟨failover, fun failover s => { s with failover }⟩).inLayers
        p.layers := by
  unfold Service.selector Service.policySelector Policy.layers
  cases p.delay <;> rfl

end PathPolicy
