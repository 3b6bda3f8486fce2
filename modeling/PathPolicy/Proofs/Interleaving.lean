import PathPolicy.Proofs.RemoteReference
import Mathlib.Data.List.Induction

/-!
# Calls under way at once

Procedures on one state take turns: a step carries one of them over its next stretch or sleep, and
the order of the steps is arbitrary. For a selector that keeps a lifecycle, a procedure is guarded
if it takes no closed remote into use but with the step by which it answers. When all calls of a
selector are guarded and a refresh looks at the lifecycle first, a closed remote comes into use
again only when it is started, or by a refresh that looked before the remote was closed.
-/

namespace PathPolicy

variable {σ τ α β : Type}

namespace Procedure

/-- What is left after the next stretch or sleep, and the state then. -/
def advance (elapse : Nat → σ → σ) : Procedure σ α → σ → Procedure σ α × σ
  | done a, s => (done a, s)
  | act update resume, s => (resume s, update s)
  | sleep ms rest, s => (rest, elapse ms s)

def answer? : Procedure σ α → Option α
  | done a => some a
  | _ => none

lemma answer?_eq_some_iff {p : Procedure σ α} {a : α} : p.answer? = some a ↔ p = done a := by
  cases p <;> simp [answer?]

lemma advance_bind {elapse : Nat → σ → σ} {p : Procedure σ α} (hp : p.answer? = none)
    (k : α → Procedure σ β) (s : σ) :
    (p.bind k).advance elapse s = ((p.advance elapse s).1.bind k, (p.advance elapse s).2) := by
  cases p with
  | done a => simp [answer?] at hp
  | act update resume => rfl
  | sleep ms rest => rfl

lemma answer?_bind_of_none {p : Procedure σ α} (h : p.answer? = none) (k : α → Procedure σ β) :
    (p.bind k).answer? = none := by
  cases p with
  | done a => cases h
  | act update resume => rfl
  | sleep ms rest => rfl

lemma bind_assoc {γ : Type} (p : Procedure σ α) (f : α → Procedure σ β) (g : β → Procedure σ γ) :
    (p.bind f).bind g = p.bind fun a => (f a).bind g := by
  induction p with
  | done a => rfl
  | act update resume ih => exact congrArg (act update) (funext fun s => ih s)
  | sleep ms rest ih => exact congrArg (sleep ms) ih

end Procedure

/-- Procedures that take turns on one state. -/
structure Pool (σ α : Type) where
  tasks : List (Procedure σ α)
  state : σ

namespace Pool

/-- Carries the `i`-th procedure one step further. -/
def step (elapse : Nat → σ → σ) (p : Pool σ α) (i : Nat) : Pool σ α :=
  match p.tasks[i]? with
  | none => p
  | some t => ⟨p.tasks.set i (t.advance elapse p.state).1, (t.advance elapse p.state).2⟩

def run (elapse : Nat → σ → σ) (p : Pool σ α) (turns : List Nat) : Pool σ α :=
  turns.foldl (step elapse) p

/-- What the `i`-th procedure has answered, once it has. -/
def answer? (p : Pool σ α) (i : Nat) : Option α := p.tasks[i]?.bind Procedure.answer?

lemma run_append_singleton (elapse : Nat → σ → σ) (p : Pool σ α) (turns : List Nat) (i : Nat) :
    p.run elapse (turns ++ [i]) = (p.run elapse turns).step elapse i := by
  simp only [run, List.foldl_append, List.foldl_cons, List.foldl_nil]

lemma step_of_some {elapse : Nat → σ → σ} {p : Pool σ α} {i : Nat} {t : Procedure σ α}
    (h : p.tasks[i]? = some t) :
    p.step elapse i =
      ⟨p.tasks.set i (t.advance elapse p.state).1, (t.advance elapse p.state).2⟩ := by
  simp only [step, h]

lemma step_of_none {elapse : Nat → σ → σ} {p : Pool σ α} {i : Nat} (h : p.tasks[i]? = none) :
    p.step elapse i = p := by
  simp only [step, h]

lemma getElem?_step (elapse : Nat → σ → σ) (p : Pool σ α) (i j : Nat) :
    (p.step elapse i).tasks[j]? =
      if i = j then p.tasks[j]?.map fun t => (t.advance elapse p.state).1 else p.tasks[j]? := by
  unfold step
  cases h : p.tasks[i]? with
  | none =>
    by_cases hij : i = j
    · subst hij
      simp [h]
    · simp [hij]
  | some t =>
    obtain ⟨hi, rfl⟩ := List.getElem?_eq_some_iff.mp h
    rw [List.getElem?_set]
    by_cases hij : i = j
    · subst hij
      simp [hi]
    · simp [hij]

/-- A procedure that has answered has nothing left to do. -/
lemma step_of_answered {elapse : Nat → σ → σ} {p : Pool σ α} {i : Nat} {a : α}
    (h : p.answer? i = some a) : p.step elapse i = p := by
  obtain ⟨t, ht, ha⟩ := Option.bind_eq_some_iff.mp h
  obtain rfl := Procedure.answer?_eq_some_iff.mp ha
  obtain ⟨hi, hget⟩ := List.getElem?_eq_some_iff.mp ht
  rw [step_of_some ht, Procedure.advance, ← hget, List.set_getElem_self]

lemma answer?_step {elapse : Nat → σ → σ} {p : Pool σ α} {i j : Nat} {a : α}
    (h : p.answer? j = some a) : (p.step elapse i).answer? j = some a := by
  by_cases hij : i = j
  · subst hij
    rw [step_of_answered h]
    exact h
  · rw [answer?, getElem?_step, if_neg hij]
    exact h

lemma answer?_run {elapse : Nat → σ → σ} {p : Pool σ α} {j : Nat} {a : α} (turns : List Nat)
    (h : p.answer? j = some a) : (p.run elapse turns).answer? j = some a := by
  induction turns generalizing p with
  | nil => exact h
  | cons i turns ih => exact ih (answer?_step h)

/-- A procedure that is given enough turns answers. -/
lemma exists_answered (elapse : Nat → σ → σ) {p : Pool σ α} {i : Nat} {t : Procedure σ α}
    (h : p.tasks[i]? = some t) : ∃ turns a, (p.run elapse turns).answer? i = some a := by
  have hnext (p : Pool σ α) (t : Procedure σ α) (h : p.tasks[i]? = some t) :
      (p.step elapse i).tasks[i]? = some (t.advance elapse p.state).1 := by
    rw [getElem?_step, if_pos rfl, h]
    rfl
  induction t generalizing p with
  | done a => exact ⟨[], a, by rw [run, List.foldl_nil, answer?, h]; rfl⟩
  | act update resume ih =>
    obtain ⟨turns, a, ha⟩ := ih p.state (hnext p _ h)
    exact ⟨i :: turns, a, ha⟩
  | sleep ms rest ih =>
    obtain ⟨turns, a, ha⟩ := ih (hnext p _ h)
    exact ⟨i :: turns, a, ha⟩

lemma length_tasks_step (elapse : Nat → σ → σ) (p : Pool σ α) (i : Nat) :
    (p.step elapse i).tasks.length = p.tasks.length := by
  unfold step
  split
  · rfl
  · rw [List.length_set]

lemma length_tasks_run (elapse : Nat → σ → σ) (p : Pool σ α) (turns : List Nat) :
    (p.run elapse turns).tasks.length = p.tasks.length := by
  induction turns generalizing p with
  | nil => rfl
  | cons i turns ih => exact (ih (p.step elapse i)).trans (length_tasks_step elapse p i)

/-- Turns can be given out so that all procedures answer. -/
theorem exists_all_answered (elapse : Nat → σ → σ) (p : Pool σ α) :
    ∃ turns, ∀ i < p.tasks.length, ∃ a, (p.run elapse turns).answer? i = some a := by
  suffices ∀ n ≤ p.tasks.length,
      ∃ turns, ∀ i < n, ∃ a, (p.run elapse turns).answer? i = some a from
    this _ (Nat.le_refl _)
  intro n hn
  induction n with
  | zero => exact ⟨[], fun i hi => absurd hi (Nat.not_lt_zero i)⟩
  | succ n ih =>
    obtain ⟨turns, hturns⟩ := ih (Nat.le_of_succ_le hn)
    have hlast : n < (p.run elapse turns).tasks.length := by
      rw [length_tasks_run]
      exact hn
    obtain ⟨more, a, ha⟩ := exists_answered elapse (List.getElem?_eq_getElem hlast)
    have hrun : p.run elapse (turns ++ more) = (p.run elapse turns).run elapse more :=
      List.foldl_append
    refine ⟨turns ++ more, fun i hi => ?_⟩
    rw [hrun]
    obtain hi | rfl := Nat.lt_succ_iff_lt_or_eq.mp hi
    · obtain ⟨b, hb⟩ := hturns i hi
      exact ⟨b, answer?_run more hb⟩
    · exact ⟨a, ha⟩

end Pool

/-- What the turns come to one after another, where `f` says what a turn comes to after others. -/
def account (f : List Nat → Nat → Option β) (turns : List Nat) : List β :=
  (List.range turns.length).filterMap fun n => turns[n]?.bind (f (turns.take n))

lemma account_append_singleton (f : List Nat → Nat → Option β) (turns : List Nat) (i : Nat) :
    account f (turns ++ [i]) = account f turns ++ (f turns i).toList := by
  have hbefore : (List.range turns.length).filterMap (fun n =>
      (turns ++ [i])[n]?.bind (f ((turns ++ [i]).take n))) = account f turns := by
    refine List.filterMap_congr fun n hn => ?_
    have hlt := List.mem_range.mp hn
    rw [List.getElem?_append_left hlt, List.take_append_of_le_length (Nat.le_of_lt hlt)]
  have hlast : ([turns.length] : List Nat).filterMap (fun n =>
      (turns ++ [i])[n]?.bind (f ((turns ++ [i]).take n))) = (f turns i).toList := by
    have htake : (turns ++ [i]).take turns.length = turns := List.take_left
    have hget : (turns ++ [i])[turns.length]? = some i := by simp
    simp only [List.filterMap_cons, List.filterMap_nil, htake, hget, Option.bind_some]
    cases f turns i <;> rfl
  rw [account, List.length_append, List.length_singleton, List.range_succ, List.filterMap_append,
    hbefore, hlast]

/-! ### Guarded procedures -/

section Guarded

variable (lifecycle : σ → RemoteLifecycle) (elapse : Nat → σ → σ)

/-- The next step takes a closed remote into use just when it comes to an answer that opens it. -/
def Procedure.OpensWith (opens : α → RemoteAddress → Prop) (p : Procedure σ α) (s : σ) : Prop :=
  ∀ r, (lifecycle s).state r = .closed →
    ((lifecycle (p.advance elapse s).2).state r = .populated ↔
      ∃ a, (p.advance elapse s).1 = .done a ∧ opens a r)

/-- Every step takes a closed remote into use just when it comes to an answer that opens it. -/
def Procedure.Guarded (opens : α → RemoteAddress → Prop) : Procedure σ α → Prop
  | .done _ => True
  | .act update resume => ∀ s, (act update resume).OpensWith lifecycle elapse opens s ∧
      (resume s).Guarded opens
  | .sleep ms rest => (∀ s, (sleep ms rest).OpensWith lifecycle elapse opens s) ∧
      rest.Guarded opens

/-- No step changes what is remembered of the remotes. -/
def Procedure.Unmoved : Procedure σ α → Prop
  | .done _ => True
  | .act update resume => (∀ s, lifecycle (update s) = lifecycle s) ∧ ∀ s, (resume s).Unmoved
  | .sleep ms rest => (∀ s, lifecycle (elapse ms s) = lifecycle s) ∧ rest.Unmoved

variable {lifecycle elapse} {opens : α → RemoteAddress → Prop}

namespace Procedure

lemma Guarded.advance {p : Procedure σ α} (h : p.Guarded lifecycle elapse opens) (s : σ) :
    (p.advance elapse s).1.Guarded lifecycle elapse opens := by
  cases p with
  | done a => trivial
  | act update resume => exact (h s).2
  | sleep ms rest => exact h.2

lemma Guarded.opensWith {p : Procedure σ α} (h : p.Guarded lifecycle elapse opens)
    (hp : p.answer? = none) (s : σ) : p.OpensWith lifecycle elapse opens s := by
  cases p with
  | done a => simp [answer?] at hp
  | act update resume => exact (h s).1
  | sleep ms rest => exact h.1 s

lemma answer?_bind {p : Procedure σ α} {k : α → Procedure σ β} (hk : ∀ a, (k a).answer? = none) :
    (p.bind k).answer? = none := by
  cases p with
  | done a => exact hk a
  | act update resume => rfl
  | sleep ms rest => rfl

/-- A step that changes nothing opens nothing, as long as it comes to no answer. -/
lemma opensWith_of_eq {p : Procedure σ α} {s : σ}
    (hl : lifecycle (p.advance elapse s).2 = lifecycle s)
    (ha : ∀ a r, (p.advance elapse s).1 = .done a → ¬opens a r) :
    p.OpensWith lifecycle elapse opens s := by
  intro r hr
  rw [hl, hr]
  constructor
  · intro h
    cases h
  · rintro ⟨a, hd, ho⟩
    exact absurd ho (ha a r hd)

lemma Unmoved.bind {p : Procedure σ α} {k : α → Procedure σ β}
    (hp : p.Unmoved lifecycle elapse) (hk : ∀ a, (k a).Unmoved lifecycle elapse) :
    (p.bind k).Unmoved lifecycle elapse := by
  induction p with
  | done a => exact hk a
  | act update resume ih => exact ⟨hp.1, fun s => ih s (hp.2 s)⟩
  | sleep ms rest ih => exact ⟨hp.1, ih hp.2⟩

lemma Unmoved.guarded {p : Procedure σ α} (hp : p.Unmoved lifecycle elapse)
    (ho : ∀ a r, ¬opens a r) : p.Guarded lifecycle elapse opens := by
  induction p with
  | done a => trivial
  | act update resume ih =>
    exact fun s => ⟨opensWith_of_eq (hp.1 s) fun a r _ => ho a r, ih s (hp.2 s)⟩
  | sleep ms rest ih =>
    exact ⟨fun s => opensWith_of_eq (hp.1 s) fun a r _ => ho a r, ih hp.2⟩

/-- What changes nothing may come before what is guarded, as long as that has a step to take. -/
lemma Unmoved.guarded_bind {p : Procedure σ β} {k : β → Procedure σ α}
    (hp : p.Unmoved lifecycle elapse) (hk : ∀ b, (k b).Guarded lifecycle elapse opens)
    (hn : ∀ b, (k b).answer? = none) : (p.bind k).Guarded lifecycle elapse opens := by
  have hnot (q : Procedure σ β) (a : α) : q.bind k ≠ .done a := by
    intro h
    have hq := answer?_bind (p := q) hn
    rw [h] at hq
    cases hq
  induction p with
  | done b => exact hk b
  | act update resume ih =>
    exact fun s => ⟨opensWith_of_eq (hp.1 s) fun a r h => absurd h (hnot _ a), ih s (hp.2 s)⟩
  | sleep ms rest ih =>
    exact ⟨fun s => opensWith_of_eq (hp.1 s) fun a r h => absurd h (hnot _ a), ih hp.2⟩

end Procedure

end Guarded

/-- Time passes for the second part of the state only. -/
def Procedure.beside {ρ : Type} (elapse : Nat → τ → τ) (ms : Nat) (s : ρ × τ) : ρ × τ :=
  (s.1, elapse ms s.2)

lemma Procedure.run_within_second {ρ α : Type} (elapse : Nat → τ → τ) (p : Procedure τ α)
    (s : ρ × τ) : (p.within .second).run (beside elapse) s =
      ((p.run elapse s.2).1, (s.1, (p.run elapse s.2).2)) := by
  induction p generalizing s with
  | done a => rfl
  | act update resume ih => exact ih s.2 _
  | sleep ms rest ih => exact ih _

lemma Procedure.unmoved_within_second {ρ : Type} {lifecycle : ρ → RemoteLifecycle}
    {elapse : Nat → τ → τ} (p : Procedure τ α) :
    (p.within (.second : Place (ρ × τ) τ)).Unmoved (fun s => lifecycle s.1) (beside elapse) := by
  induction p with
  | done a => trivial
  | act update resume ih => exact ⟨fun _ => rfl, fun s => ih s.2⟩
  | sleep ms rest ih => exact ⟨fun _ => rfl, ih⟩

/-! ### Selectors -/

namespace Selector

variable (S : Selector σ) (lifecycle : σ → RemoteLifecycle) (elapse : Nat → σ → σ)
  (settles : SelectorCall → SelectorAnswer → Prop)

def during (calls : List SelectorCall) (s : σ) (turns : List Nat) : Pool σ SelectorAnswer :=
  (Pool.mk (calls.map S.call) s).run elapse turns

/-- The `i`-th call took its first step when the remote was not closed. -/
def BeganOpen (calls : List SelectorCall) (s : σ) (turns : List Nat) (i : Nat)
    (r : RemoteAddress) : Prop :=
  ∃ before after, turns = before ++ i :: after ∧ i ∉ before ∧
    (lifecycle (S.during elapse calls s before).state).state r ≠ .closed

/-- A step takes a closed remote into use just when it settles a start of the remote, or a refresh
that began before the remote was closed. -/
def ReopensLate : Prop :=
  ∀ (calls : List SelectorCall) (s : σ) (turns : List Nat) (i : Nat) (r : RemoteAddress),
    (lifecycle (S.during elapse calls s turns).state).state r = .closed →
    ((lifecycle (S.during elapse calls s (turns ++ [i])).state).state r = .populated ↔
      ∃ call a, calls[i]? = some call ∧ (S.during elapse calls s turns).answer? i = none ∧
        (S.during elapse calls s (turns ++ [i])).answer? i = some a ∧ settles call a ∧
        ((∃ ps, call = .start r ps) ∨
          (∃ ps, call = .refresh r ps) ∧ S.BeganOpen lifecycle elapse calls s turns i r))

/-- Calls open remotes with their answers only, and a refresh of a closed remote is turned away at
once. -/
structure Disciplined : Prop where
  guarded : ∀ call, (S.call call).Guarded lifecycle elapse fun a r =>
    settles call a ∧ call.Offers r
  turnsAway : ∀ r ps s, (lifecycle s).state r = .closed →
    ∃ a, ((S.call (.refresh r ps)).advance elapse s).1 = .done a ∧ ¬settles (.refresh r ps) a

/-- What is known after some turns of a call that has come to `p`. -/
structure Stage (calls : List SelectorCall) (s : σ) (turns : List Nat) (i : Nat)
    (call : SelectorCall) (p : Procedure σ SelectorAnswer) : Prop where
  guarded : p.Guarded lifecycle elapse fun a r => settles call a ∧ call.Offers r
  fresh : i ∉ turns → p = S.call call
  beganOpen : ∀ r ps, call = .refresh r ps → i ∈ turns → p.answer? = none →
    S.BeganOpen lifecycle elapse calls s turns i r

variable {S lifecycle elapse settles} {calls : List SelectorCall} {s : σ} {turns : List Nat}
  {i : Nat} {call : SelectorCall}

lemma during_append_singleton (turns : List Nat) (i : Nat) :
    S.during elapse calls s (turns ++ [i]) = (S.during elapse calls s turns).step elapse i :=
  Pool.run_append_singleton elapse _ turns i

lemma BeganOpen.append {r : RemoteAddress} (h : S.BeganOpen lifecycle elapse calls s turns i r)
    (j : Nat) : S.BeganOpen lifecycle elapse calls s (turns ++ [j]) i r := by
  obtain ⟨before, after, rfl, hn, hr⟩ := h
  exact ⟨before, after ++ [j], by simp, hn, hr⟩

lemma Disciplined.stage (h : S.Disciplined lifecycle elapse settles)
    (hc : calls[i]? = some call) (turns : List Nat) :
    ∃ p, (S.during elapse calls s turns).tasks[i]? = some p ∧
      S.Stage lifecycle elapse settles calls s turns i call p := by
  induction turns using List.reverseRecOn with
  | nil =>
    refine ⟨S.call call, by simp [during, Pool.run, hc], h.guarded call, fun _ => rfl, ?_⟩
    intro r ps _ hi
    cases hi
  | append_singleton turns j ih =>
    obtain ⟨p, hp, hstage⟩ := ih
    rw [during_append_singleton, Pool.getElem?_step, hp]
    by_cases hj : j = i
    · subst hj
      rw [if_pos rfl, Option.map_some]
      refine ⟨_, rfl, hstage.guarded.advance _, by simp, ?_⟩
      rintro r ps rfl - hnone
      by_cases hi : j ∈ turns
      · -- A task that has a step left now had one before.
        refine (hstage.beganOpen r ps rfl hi ?_).append j
        cases p with
        | done a => simp [Procedure.advance, Procedure.answer?] at hnone
        | act update resume => rfl
        | sleep ms rest => rfl
      · -- This was its first step, so the remote was open: else it would have been turned away.
        refine ⟨turns, [], rfl, hi, fun hclosed => ?_⟩
        obtain ⟨a, ha, -⟩ := h.turnsAway r ps _ hclosed
        rw [hstage.fresh hi, ha] at hnone
        cases hnone
    · rw [if_neg hj]
      refine ⟨p, rfl, hstage.guarded, fun hi => hstage.fresh fun hm => hi (by simp [hm]), ?_⟩
      rintro r ps hr hi hnone
      have hm : i ∈ turns := by simpa [Ne.symm hj] using hi
      exact (hstage.beganOpen r ps hr hm hnone).append j

lemma tasks_during_of_none (hc : calls[i]? = none) (turns : List Nat) :
    (S.during elapse calls s turns).tasks[i]? = none := by
  induction turns using List.reverseRecOn with
  | nil => simpa [during, Pool.run] using hc
  | append_singleton turns j ih => simp [during_append_singleton, Pool.getElem?_step, ih]

theorem Disciplined.reopensLate (h : S.Disciplined lifecycle elapse settles) :
    S.ReopensLate lifecycle elapse settles := by
  intro calls s turns i r hclosed
  rw [during_append_singleton]
  have hanswer : ((S.during elapse calls s turns).step elapse i).answer? i =
      ((S.during elapse calls s turns).tasks[i]?.map fun p =>
        (p.advance elapse (S.during elapse calls s turns).state).1).bind Procedure.answer? := by
    rw [Pool.answer?, Pool.getElem?_step, if_pos rfl]
  cases hc : calls[i]? with
  | none =>
    have ht : (S.during elapse calls s turns).tasks[i]? = none := tasks_during_of_none hc turns
    simp [Pool.step, ht, hclosed]
  | some call =>
    obtain ⟨p, hp, hstage⟩ := h.stage (s := s) hc turns
    rw [hanswer, hp, Pool.step_of_some hp, Pool.answer?, hp]
    dsimp only [Option.map_some, Option.bind_some]
    cases hnone : p.answer? with
    | some a =>
      obtain rfl := Procedure.answer?_eq_some_iff.mp hnone
      simp [Procedure.advance, hclosed]
    | none =>
      rw [hstage.guarded.opensWith hnone _ r hclosed]
      constructor
      · rintro ⟨a, ha, hset, hoffers⟩
        refine ⟨call, a, rfl, rfl, Procedure.answer?_eq_some_iff.mpr ha, hset, ?_⟩
        cases call with
        | start r' ps => exact .inl ⟨ps, by rw [show r' = r from hoffers]⟩
        | path r' => exact hoffers.elim
        | pathDown r' f j => exact hoffers.elim
        | close r' => exact hoffers.elim
        | refresh r' ps =>
          obtain rfl : r' = r := hoffers
          refine .inr ⟨⟨ps, rfl⟩, ?_⟩
          by_cases hi : i ∈ turns
          · exact hstage.beganOpen r' ps rfl hi hnone
          · -- Taking its first step now, it would have been turned away.
            obtain ⟨b, hb, hnot⟩ := h.turnsAway r' ps _ hclosed
            rw [hstage.fresh hi, hb] at ha
            exact absurd (Procedure.done.inj ha ▸ hset) hnot
      · rintro ⟨call', a, hcall, -, ha, hset, hkind⟩
        obtain rfl := Option.some.inj hcall
        refine ⟨a, Procedure.answer?_eq_some_iff.mp ha, hset, ?_⟩
        obtain ⟨ps, rfl⟩ | ⟨⟨ps, rfl⟩, -⟩ := hkind
        · rfl
        · rfl

end Selector

end PathPolicy
