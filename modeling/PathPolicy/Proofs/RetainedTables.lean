import PathPolicy.Proofs.ClosedReports
import PathPolicy.Proofs.CurrentOffers

/-!
# The tables that a script's selector retains

Tables are kept in two places: those of the current offers are retained, so that their identities
stay taken, and the identities are mapped to the paths offered. The lifecycle tells a third time
which remotes are in use. However the calls on a script's selector take turns, and whatever the
script does, the three tell the same: what is mapped are the retained tables, each to its own path
of the list that its remote was told of last. So no identity outlives its table in the map.
-/

namespace PathPolicy

namespace Selector

variable {σ : Type}

/-- A call with its answer, and the state in which its last step found the selector. -/
structure Answered (σ : Type) where
  call : SelectorCall
  answer : SelectorAnswer
  state : σ

variable (S : Selector σ) (elapse : Nat → σ → σ) (calls : List SelectorCall) (s : σ)

/-- The call that is answered with the turn of the `i`-th that comes after the other turns. -/
def answered? (turns : List Nat) (i : Nat) : Option (Answered σ) :=
  match calls[i]?, (S.during elapse calls s turns).answer? i,
    (S.during elapse calls s (turns ++ [i])).answer? i with
  | some call, none, some answer => some ⟨call, answer, (S.during elapse calls s turns).state⟩
  | _, _, _ => none

/-- The calls that are answered, in this order. -/
def answered (turns : List Nat) : List (Answered σ) := account (S.answered? elapse calls s) turns

variable {S elapse calls s}

lemma answered_append_singleton (turns : List Nat) (i : Nat) :
    S.answered elapse calls s (turns ++ [i]) =
      S.answered elapse calls s turns ++ (S.answered? elapse calls s turns i).toList :=
  account_append_singleton (S.answered? elapse calls s) turns i

lemma answered?_of_none {i : Nat} (hc : calls[i]? = none) (turns : List Nat) :
    S.answered? elapse calls s turns i = none := by
  rw [answered?, hc]

lemma answered?_of_some {turns : List Nat} {i : Nat} {call : SelectorCall}
    {p : Procedure σ SelectorAnswer} (hc : calls[i]? = some call)
    (hp : (S.during elapse calls s turns).tasks[i]? = some p) :
    S.answered? elapse calls s turns i =
      if p.answer? = none then
        (p.advance elapse (S.during elapse calls s turns).state).1.answer?.map
          fun a => ⟨call, a, (S.during elapse calls s turns).state⟩
      else none := by
  have hbefore : (S.during elapse calls s turns).answer? i = p.answer? := by
    rw [Pool.answer?, hp, Option.bind_some]
  have hafter : (S.during elapse calls s (turns ++ [i])).answer? i =
      (p.advance elapse (S.during elapse calls s turns).state).1.answer? := by
    rw [during_append_singleton, Pool.answer?, Pool.getElem?_step, if_pos rfl, hp]
    rfl
  rw [answered?, hc, hbefore, hafter]
  cases p.answer? <;> cases (p.advance elapse (S.during elapse calls s turns).state).1.answer? <;>
    rfl

end Selector

namespace Script

open Selector (Answered)

variable {τ : Type}

namespace SelectorState

/-- The lifecycle, the retained tables and the mapped ones tell the same of every remote. -/
structure Tallies (s : SelectorState) (told : RemoteAddress → Option (List PathObject)) : Prop where
  inUse : ∀ r, s.lifecycle.state r = .populated ↔ (s.retained.get? r).isSome
  known : ∀ r, s.offers.containsRemote r ↔ (s.retained.get? r).isSome
  mapped : ∀ k, (s.offers.resolve k).isSome ↔ ∃ r, ∃ ks ∈ s.retained.get? r, k ∈ ks
  keyed : ∀ r k, (∃ f, s.offers.keyOf r f = some k) ↔ ∃ ks ∈ s.retained.get? r, k ∈ ks
  nodup : ∀ r, ∀ ks ∈ s.retained.get? r, ks.Nodup
  apart : ∀ r r', r ≠ r' → ∀ ks ∈ s.retained.get? r, ∀ ks' ∈ s.retained.get? r', ks.Disjoint ks'
  stands : ∀ r, (s.retained.get? r).map (·.map s.offers.resolve) = (told r).map (·.map some)

end SelectorState

/-! ### Calls that are not turned away -/

section Entered

variable (clock : Nat → SelectorState × τ → SelectorState × τ) (S : Script τ)
  (calls : List SelectorCall) (t : τ) (turns : List Nat)

/-- The calls that were answered and not turned away. -/
def entered : List (Answered (SelectorState × τ)) :=
  ((hosted S).answered clock calls ({}, t) turns).filter fun e => Entered e.call e.answer

/-- The list that `r` was told of last, unless it was closed since. -/
def told (r : RemoteAddress) : Option (List PathObject) :=
  lastPassed r ((entered clock S calls t turns).map Answered.call)

/-- The tables that are made for a call in its last step. -/
def newTables (e : Answered (SelectorState × τ)) : List TableIdentity :=
  (S.allocateMany e.call.paths.length e.state.2).1

/-- New tables are told apart from each other and from the tables retained when they are made. -/
def LiveApart : Prop := ∀ e ∈ entered clock S calls t turns, e.state.1.Apart (newTables S e)

instance : Decidable (LiveApart clock S calls t turns) :=
  inferInstanceAs (Decidable (∀ e ∈ entered clock S calls t turns, e.state.1.Apart (newTables S e)))

end Entered

/-! ### What one call leaves -/

open OfferTable (Change AllFresh onOffer latest)

/-- The state is the one that the changes lead to, and the changes are those of the calls. -/
structure Accounted (s : SelectorState) (cs : List (Change TableIdentity))
    (calls : List SelectorCall) : Prop extends Reflects s cs where
  fresh : AllFresh cs
  distinct : ∀ c ∈ cs, c.Distinct
  known : ∀ r, s.offers.containsRemote r ↔ (latest r cs).isSome
  passed : ∀ r, (latest r cs).map (·.map Prod.snd) = lastPassed r calls

variable {s : SelectorState} {cs : List (Change TableIdentity)} {calls : List SelectorCall}

lemma accounted_empty : Accounted {} [] [] where
  toReflects := reflects_empty
  fresh := OfferTable.allFresh_nil
  distinct := by simp
  known _ := by simp [OfferTable.containsRemote, Dictionary.contains, latest]
  passed _ := rfl

lemma lastPassed_append_singleton (r : RemoteAddress) (calls : List SelectorCall)
    (call : SelectorCall) :
    lastPassed r (calls ++ [call]) = passedAfter r (lastPassed r calls) call :=
  List.foldl_append

namespace Accounted

lemma populate (h : Accounted s cs calls) {call : SelectorCall} {r : RemoteAddress}
    {paths : List PathObject} (hcall : call = .start r paths ∨ call = .refresh r paths)
    (hpaths : (paths.map PathObject.fingerprint).Nodup) {ks : List TableIdentity}
    (hl : ks.length = paths.length) (ha : s.Apart ks) :
    Accounted (s.populate r ks paths) (cs ++ [.offer r (ks.zip paths)]) (calls ++ [call]) where
  toReflects := h.toReflects.populate r hl
  fresh := by
    have hkeys : (Change.offer r (ks.zip paths)).keys = ks := List.map_fst_zip (Nat.le_of_eq hl)
    rw [← hkeys] at ha
    exact h.fresh.append_singleton (h.toReflects.fresh ha)
  distinct := by
    have hsnd : (ks.zip paths).map Prod.snd = paths := List.map_snd_zip (Nat.le_of_eq hl.symm)
    rw [← hsnd, List.map_map] at hpaths
    exact List.forall_mem_append.mpr ⟨h.distinct, List.forall_mem_singleton.mpr hpaths⟩
  known r' := by
    refine (OfferTable.containsRemote_apply s.offers (.offer r _) r').trans ?_
    rw [h.known, OfferTable.latest_append_singleton]
    by_cases hr : r = r' <;> simp [hr]
  passed r' := by
    rw [lastPassed_append_singleton, OfferTable.latest_append_singleton, ← h.passed]
    have hpassed (passed : Option (List PathObject)) :
        passedAfter r' passed call = if r = r' then some paths else passed := by
      rcases hcall with rfl | rfl <;> rfl
    rw [hpassed]
    dsimp only
    split_ifs
    · exact congrArg some (List.map_snd_zip (Nat.le_of_eq hl.symm))
    · rfl

lemma release (h : Accounted s cs calls) (r : RemoteAddress) :
    Accounted (s.release r) (cs ++ [.forget r]) (calls ++ [.close r]) where
  toReflects := h.toReflects.release r
  fresh := h.fresh.append_singleton ⟨List.nodup_nil, by simp [Change.keys, Change.batch]⟩
  distinct :=
    List.forall_mem_append.mpr ⟨h.distinct, List.forall_mem_singleton.mpr List.nodup_nil⟩
  known r' := by
    refine (OfferTable.containsRemote_apply s.offers (.forget r) r').trans ?_
    rw [h.known, OfferTable.latest_append_singleton]
    by_cases hr : r = r' <;> simp [hr]
  passed r' := by
    rw [lastPassed_append_singleton, OfferTable.latest_append_singleton, ← h.passed, passedAfter]
    dsimp only
    split_ifs <;> rfl

/-- A call that makes its tables with identities of their own. -/
lemma settle (h : Accounted s cs calls) (call : SelectorCall)
    (hpaths : (call.paths.map PathObject.fingerprint).Nodup) {ks : List TableIdentity}
    (hl : ks.length = call.paths.length) (ha : s.Apart ks) :
    ∃ cs, Accounted (s.settle call ks) cs (calls ++ [call]) := by
  have hsame (hpassed : ∀ r passed, passedAfter r passed call = passed) :
      Accounted s cs (calls ++ [call]) :=
    { h with passed := fun r => by rw [lastPassed_append_singleton, hpassed, h.passed] }
  cases call with
  | start r paths => exact ⟨_, h.populate (.inl rfl) hpaths hl ha⟩
  | path r => exact ⟨cs, hsame fun _ _ => rfl⟩
  | pathDown r f i => exact ⟨cs, hsame fun _ _ => rfl⟩
  | refresh r paths => exact ⟨_, h.populate (.inr rfl) hpaths hl ha⟩
  | close r => exact ⟨_, h.release r⟩

lemma mem_retained_iff (h : Accounted s cs calls) (r : RemoteAddress) (k : TableIdentity) :
    (∃ ks ∈ s.retained.get? r, k ∈ ks) ↔ ∃ o, (k, o) ∈ onOffer r cs := by
  rw [h.retained, onOffer]
  cases latest r cs <;> simp

theorem tallies (h : Accounted s cs calls) : s.Tallies fun r => lastPassed r calls where
  inUse r := by rw [h.inUse, h.retained, Option.isSome_map]
  known r := by rw [h.known, h.retained, Option.isSome_map]
  mapped k := by
    simp only [h.mem_retained_iff, Option.isSome_iff_exists, h.offers,
      h.fresh.resolve_iff h.distinct]
    exact exists_comm
  keyed r k := by
    simp only [h.mem_retained_iff, h.offers, OfferTable.keyOf_eq_some_iff h.distinct]
    constructor
    · rintro ⟨f, o, ho, -⟩
      exact ⟨o, ho⟩
    · rintro ⟨o, ho⟩
      exact ⟨_, o, ho, rfl⟩
  nodup r ks hks := by
    have hn := h.fresh.nodup_keys r
    rw [h.retained] at hks
    obtain ⟨batch, hb, rfl⟩ := Option.map_eq_some_iff.mp hks
    rwa [onOffer, hb] at hn
  apart r r' hr ks hks ks' hks' k hk hk' := by
    obtain ⟨o, ho⟩ := (h.mem_retained_iff r k).mp ⟨ks, hks, hk⟩
    obtain ⟨o', ho'⟩ := (h.mem_retained_iff r' k).mp ⟨ks', hks', hk'⟩
    rw [OfferTable.mem_onOffer_iff] at ho ho'
    exact hr (h.fresh.remote_eq ho ho')
  stands r := by
    rw [← h.passed, h.retained, Option.map_map, Option.map_map]
    cases hb : latest r cs with
    | none => rfl
    | some batch =>
      have hstands : ∀ e ∈ batch, s.offers.resolve e.1 = some e.2 := by
        intro e he
        rw [h.offers, h.fresh.resolve_iff h.distinct]
        exact ⟨r, by rwa [onOffer, hb]⟩
      simpa using hstands

end Accounted

/-! ### The steps of a call -/

section Steps

variable (S : Script τ) (call : SelectorCall)

/-- What a step leaves that finds `s` and comes to the answer, if to any. -/
def afterStep (s : SelectorState × τ) : Option SelectorAnswer → SelectorState
  | none => s.1
  | some a =>
    if Entered call a then s.1.settle call (S.allocateMany call.paths.length s.2).1 else s.1

/-- The call is settled by the step that answers it, unless that turns it away. -/
def Settles : Procedure (SelectorState × τ) SelectorAnswer → Prop
  | .done _ => True
  | .act update resume =>
    ∀ s, Settles (resume s) ∧ (update s).1 = afterStep S call s (resume s).answer?
  | .sleep .. => False

variable {S call}

lemma settles_unlessClosed {α : Type} (answer : Except PolicyError α → SelectorAnswer)
    {r : RemoteAddress} {operation : String}
    {next : RemoteState → Procedure (SelectorState × τ) (Except PolicyError α)}
    (hrefusal : answer (.error (.selector (.remoteClosed r operation))) = call.refusal)
    (hnext : ∀ state, Settles S call ((next state).bind fun o => .done (answer o)))
    (hsame : ∀ state, (next state).answer? ≠ none → ∀ s ks, SelectorState.settle s call ks = s) :
    Settles S call ((unlessClosed .first r operation next).bind fun o => .done (answer o)) := by
  rw [unlessClosed_bind]
  intro s
  simp only [looked]
  split_ifs
  · exact ⟨trivial, by simp [Procedure.answer?, afterStep, Entered, hrefusal]⟩
  · refine ⟨hnext _, ?_⟩
    cases hp : next (s.1.lifecycle.state r) with
    | done a =>
      -- What is answered without the script being asked settles nothing.
      have hs := hsame (s.1.lifecycle.state r) (by simp [hp, Procedure.answer?])
      simp [Procedure.bind, Procedure.answer?, afterStep, hs]
    | act update resume => rfl
    | sleep ms rest => rfl

lemma settles_stretch {α : Type} {answer : α → SelectorAnswer}
    {f : SelectorState × τ → α × SelectorState × τ}
    (h : ∀ s, (f s).2.1 = afterStep S call s (some (answer (f s).1))) :
    Settles S call ((Procedure.stretch f).bind fun o => .done (answer o)) :=
  fun s => ⟨trivial, h s⟩

lemma settles_offer {entry : String} {r : RemoteAddress} {paths : List PathObject}
    (hcall : call = .start r paths ∨ call = .refresh r paths) :
    Settles S call ((offer (S.within .second) .first entry r paths).bind fun o =>
      .done (SelectorAnswer.done o)) := by
  refine settles_stretch fun s => (run_offer (fun _ s => s) S entry r paths s).trans ?_
  rcases hcall with rfl | rfl <;> exact (if_pos (entered_outcome _ _)).symm

lemma settles_call (S : Script τ) (call : SelectorCall) :
    Settles S call ((hosted S).call call) := by
  cases call with
  | start r paths => exact settles_offer (.inl rfl)
  | path r =>
    refine settles_unlessClosed .chosen rfl (fun state => ?_) fun _ _ _ _ => rfl
    split_ifs
    · trivial
    · refine settles_stretch fun s => ?_
      simp only [invoke_within, afterStep, SelectorState.settle, ite_self]
      cases (S.invoke selectorModule "selectpath" [.text r.text] s.2).1 <;> rfl
  | pathDown r f i =>
    refine settles_unlessClosed .done rfl (fun _ => settles_stretch fun s => ?_)
      fun _ _ _ _ => rfl
    simp only [invoke_within, afterStep, SelectorState.settle, ite_self]
  | refresh r paths =>
    exact settles_unlessClosed .done rfl (fun _ => settles_offer (.inr rfl))
      fun _ hnone => absurd rfl hnone
  | close r =>
    refine settles_unlessClosed .done rfl (fun _ => settles_stretch fun s => ?_)
      fun _ hnone => absurd rfl hnone
    simp only [invoke_within]
    exact (if_pos (entered_outcome _ _)).symm

lemma Settles.advance {p : Procedure (SelectorState × τ) SelectorAnswer} (h : Settles S call p)
    (clock : Nat → SelectorState × τ → SelectorState × τ) (s : SelectorState × τ) :
    Settles S call (p.advance clock s).1 ∧
      (p.answer? = none →
        (p.advance clock s).2.1 = afterStep S call s (p.advance clock s).1.answer?) := by
  cases p with
  | done a => exact ⟨trivial, fun hnone => by cases hnone⟩
  | act update resume => exact ⟨(h s).1, fun _ => (h s).2⟩
  | sleep ms rest => exact h.elim

end Steps

/-! ### Runs -/

section Runs

variable (clock : Nat → SelectorState × τ → SelectorState × τ) (S : Script τ)
  (calls : List SelectorCall) (t : τ) (turns : List Nat)

lemma exists_settles {i : Nat} {call : SelectorCall} (hc : calls[i]? = some call) :
    ∃ p, ((hosted S).during clock calls ({}, t) turns).tasks[i]? = some p ∧ Settles S call p := by
  induction turns using List.reverseRecOn with
  | nil =>
    refine ⟨(hosted S).call call, ?_, settles_call S call⟩
    simp [Selector.during, Pool.run, hc]
  | append_singleton turns j ih =>
    obtain ⟨p, hp, hsettles⟩ := ih
    rw [Selector.during_append_singleton, Pool.getElem?_step, hp]
    split_ifs
    · exact ⟨_, rfl, (hsettles.advance clock _).1⟩
    · exact ⟨p, rfl, hsettles⟩

/-- A turn settles the call that it answers, unless that is turned away, and nothing else. -/
lemma state_turn (i : Nat) :
    let found := ((hosted S).during clock calls ({}, t) turns).state
    let left := ((hosted S).during clock calls ({}, t) (turns ++ [i])).state
    left.1 = found.1 ∧ entered clock S calls t (turns ++ [i]) = entered clock S calls t turns ∨
      ∃ e, calls[i]? = some e.call ∧ e.state = found ∧
        left.1 = found.1.settle e.call (newTables S e) ∧
        entered clock S calls t (turns ++ [i]) = entered clock S calls t turns ++ [e] := by
  intro found left
  have hentered : entered clock S calls t (turns ++ [i]) = entered clock S calls t turns ++
      ((hosted S).answered? clock calls ({}, t) turns i).toList.filter
        fun e => Entered e.call e.answer := by
    rw [entered, Selector.answered_append_singleton, List.filter_append]
    rfl
  have hleft : left = (((hosted S).during clock calls ({}, t) turns).step clock i).state := by
    rw [← Selector.during_append_singleton]
  cases hc : calls[i]? with
  | none =>
    have ht : ((hosted S).during clock calls ({}, t) turns).tasks[i]? = none :=
      Selector.tasks_during_of_none hc turns
    rw [hentered, Selector.answered?_of_none hc, hleft, Pool.step_of_none ht]
    exact .inl ⟨rfl, by simp⟩
  | some call =>
    obtain ⟨p, hp, hsettles⟩ := exists_settles clock S calls t turns hc
    obtain ⟨-, hstep⟩ := hsettles.advance clock found
    rw [hentered, Selector.answered?_of_some hc hp, hleft, Pool.step_of_some hp]
    cases hnone : p.answer? with
    | some a =>
      -- A call that was answered before has no step left.
      obtain rfl := Procedure.answer?_eq_some_iff.mp hnone
      exact .inl ⟨rfl, by simp⟩
    | none =>
      have hafter : (p.advance clock found).2.1 =
          afterStep S call found (p.advance clock found).1.answer? := hstep hnone
      rw [if_pos rfl]
      cases ha : (p.advance clock found).1.answer? with
      | none =>
        rw [ha] at hafter
        exact .inl ⟨hafter, by simp⟩
      | some a =>
        rw [ha, afterStep] at hafter
        by_cases he : Entered call a
        · rw [if_pos he] at hafter
          exact .inr ⟨⟨call, a, found⟩, rfl, rfl, hafter, by simp [he, found]⟩
        · rw [if_neg he] at hafter
          exact .inl ⟨hafter, by simp [he]⟩

variable {clock S calls t turns}

lemma LiveApart.of_append {i : Nat} (h : LiveApart clock S calls t (turns ++ [i])) :
    LiveApart clock S calls t turns := by
  obtain ⟨-, hentered⟩ | ⟨e, -, -, -, hentered⟩ := state_turn clock S calls t turns i
  · rwa [LiveApart, hentered] at h
  · rw [LiveApart, hentered] at h
    exact fun e' he' => h e' (List.mem_append_left _ he')

lemma exists_accounted (hpaths : ∀ call ∈ calls, (call.paths.map PathObject.fingerprint).Nodup)
    (hlive : LiveApart clock S calls t turns) :
    ∃ cs, Accounted ((hosted S).during clock calls ({}, t) turns).state.1 cs
      ((entered clock S calls t turns).map Answered.call) := by
  induction turns using List.reverseRecOn with
  | nil => exact ⟨[], accounted_empty⟩
  | append_singleton turns i ih =>
    obtain ⟨cs, hcs⟩ := ih hlive.of_append
    obtain ⟨hstate, hentered⟩ | ⟨e, hc, hfound, hstate, hentered⟩ :=
      state_turn clock S calls t turns i
    · rw [hstate, hentered]
      exact ⟨cs, hcs⟩
    · rw [LiveApart, hentered] at hlive
      have ha := hlive e (by simp)
      rw [hfound] at ha
      rw [hstate, hentered, List.map_append]
      exact hcs.settle e.call (hpaths _ (List.mem_of_getElem? hc)) (length_allocateMany S _ _) ha

variable (clock S t turns)

/-- However calls on a script's selector take turns and whatever the script does, as long as no
list has a fingerprint twice and new tables have identities of their own: at every turn the remotes
in use are those with retained tables and those with mapped ones, and the identities mapped are
those of the retained tables, each of one remote, and stand for the paths of the list that the
remote was told of last, in its order. -/
theorem retained_tables_tally
    (hpaths : ∀ call ∈ calls, (call.paths.map PathObject.fingerprint).Nodup)
    (hlive : LiveApart clock S calls t turns) :
    ((hosted S).during clock calls ({}, t) turns).state.1.Tallies (told clock S calls t turns) := by
  obtain ⟨cs, hcs⟩ := exists_accounted hpaths hlive
  exact hcs.tallies

/-- A script of no functions, whose tables take up the identities of tables that are gone. The offer
of `r1` is replaced after `r1` was closed, by a refresh that looked before, and the tables of `r2`
have the identities that stood for the first offer of `r1`. -/
theorem retained_tables_tally_reused :
    let path (label : Nat) (f : String) : PathObject :=
      ⟨some label, ⟨⟨"1-ff00:0:110"⟩, ⟨"1-ff00:0:112"⟩, ⟨f⟩, .epoch, none⟩⟩
    let S : Script Nat := ⟨fun _ n => (.ok .other, n), fun _ _ n => (.ok .other, n),
      fun n => (⟨n % 3⟩, n + 1)⟩
    let calls : List SelectorCall := [.start ⟨"r1"⟩ [path 0 "a", path 1 "b"],
      .refresh ⟨"r1"⟩ [path 2 "a"], .close ⟨"r1"⟩, .start ⟨"r2"⟩ [path 3 "a", path 4 "c"]]
    let turns := [0, 1, 2, 2, 1, 3]
    let state := ((hosted S).during (fun _ s => s) calls ({}, 0) turns).state.1
    (∀ call ∈ calls, (call.paths.map PathObject.fingerprint).Nodup) ∧
      LiveApart (fun _ s => s) S calls 0 turns ∧
      state.Tallies (told (fun _ s => s) S calls 0 turns) ∧
      state.retained.get? ⟨"r1"⟩ = some [⟨2⟩] ∧ state.retained.get? ⟨"r2"⟩ = some [⟨0⟩, ⟨1⟩] ∧
      [⟨0⟩, ⟨1⟩, ⟨2⟩].map state.offers.resolve =
        [some (path 3 "a"), some (path 4 "c"), some (path 2 "a")] := by
  intro path S calls turns state
  have hpaths : ∀ call ∈ calls, (call.paths.map PathObject.fingerprint).Nodup := by decide
  have hlive : LiveApart (fun _ s => s) S calls 0 turns := by decide +kernel
  exact ⟨hpaths, hlive, retained_tables_tally (fun _ s => s) S 0 turns hpaths hlive,
    by decide +kernel, by decide +kernel, by decide +kernel⟩

end Runs

end Script

end PathPolicy
