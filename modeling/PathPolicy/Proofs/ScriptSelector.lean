import PathPolicy.Proofs.LatestOffer
import PathPolicy.Proofs.Lifecycle
import PathPolicy.Script.Program
import PathPolicy.Script.Selector

/-!
# What a script can choose

A script is arbitrary: it may keep every table it was ever handed and answer any of them. The
tables handed out in a run and the remotes closed in it make up its history, and the selector's
own state is a function of the history alone. So which table chooses which path is read off the
history. The remote asked about has to be in use, but its offer need not be the one the chosen
table is from.
-/

namespace PathPolicy.Script

open OfferTable (Change)

variable {τ : Type}

/-- The selector that asks `S`, which keeps its state apart. -/
def hosted (S : Script τ) : Selector (SelectorState × τ) := selector (S.within .second) .first

/-- The tables handed out in a call, or the remote it closes. -/
def change (S : Script τ) (s : SelectorState × τ) : SelectorCall → Option (Change TableIdentity)
  | .start r paths => some (.offer r ((S.allocateMany paths.length s.2).1.zip paths))
  | .refresh r paths =>
    if s.1.lifecycle.state r = .closed then none
    else some (.offer r ((S.allocateMany paths.length s.2).1.zip paths))
  | .close r => if s.1.lifecycle.state r = .closed then none else some (.forget r)
  | .path _ | .pathDown .. => none

def history (elapse : Nat → SelectorState × τ → SelectorState × τ) (S : Script τ)
    (s : SelectorState × τ) : List SelectorCall → List (Change TableIdentity)
  | [] => []
  | c :: cs => (change S s c).toList ++ history elapse S (((hosted S).call c).run elapse s).2 cs

/-- The table that the script, asked about `r`, answers with, if it answers with one. -/
def chosen (S : Script τ) (t : τ) (r : RemoteAddress) : Option TableIdentity :=
  match (S.invoke selectorModule "selectpath" [.text r.text] t).1 with
  | .ok values =>
    match values.headD .nil with
    | .record identity _ => identity
    | _ => none
  | .error _ => none

/-- What was last passed for `r`, once `c` is issued. -/
def passedAfter (r : RemoteAddress) (passed : Option (List PathObject)) :
    SelectorCall → Option (List PathObject)
  | .start r' paths | .refresh r' paths => if r' = r then some paths else passed
  | .close r' => if r' = r then none else passed
  | .path _ | .pathDown .. => passed

/-- The list last passed for `r`, unless `r` was closed after. -/
def lastPassed (r : RemoteAddress) (cs : List SelectorCall) : Option (List PathObject) :=
  cs.foldl (passedAfter r) none

/-- New tables with these identities are told apart from each other and from the tables retained. -/
def SelectorState.Apart (s : SelectorState) (identities : List TableIdentity) : Prop :=
  identities.Nodup ∧ ∀ k ∈ identities, ∀ ks ∈ s.retained.values, k ∉ ks

instance (s : SelectorState) (identities : List TableIdentity) : Decidable (s.Apart identities) :=
  inferInstanceAs (Decidable (_ ∧ ∀ k ∈ identities, ∀ ks ∈ s.retained.values, k ∉ ks))

/-- Tables made in the run are told apart from each other and from the tables retained then. -/
def ToldApart (elapse : Nat → SelectorState × τ → SelectorState × τ) (S : Script τ)
    (s : SelectorState × τ) : List SelectorCall → Prop
  | [] => True
  | c :: cs =>
    (∀ d ∈ change S s c, s.1.Apart d.keys) ∧
    ToldApart elapse S (((hosted S).call c).run elapse s).2 cs

instance decidableToldApart (elapse : Nat → SelectorState × τ → SelectorState × τ) (S : Script τ) :
    (s : SelectorState × τ) → (calls : List SelectorCall) → Decidable (ToldApart elapse S s calls)
  | _, [] => .isTrue trivial
  | s, c :: cs =>
    have := decidableToldApart elapse S (((hosted S).call c).run elapse s).2 cs
    inferInstanceAs (Decidable ((∀ d ∈ change S s c, s.1.Apart d.keys) ∧ _))

/-! ### The state follows the history -/

/-- The state is the one that the changes lead to. -/
structure Reflects (s : SelectorState) (cs : List (Change TableIdentity)) : Prop where
  offers : s.offers = ({} : OfferTable TableIdentity).applyAll cs
  retained : ∀ r, s.retained.get? r = (OfferTable.latest r cs).map (·.map Prod.fst)
  consistent : s.lifecycle.Consistent
  inUse : ∀ r, s.lifecycle.state r = .populated ↔ (OfferTable.latest r cs).isSome

lemma reflects_empty : Reflects {} [] where
  offers := rfl
  retained _ := rfl
  consistent := RemoteLifecycle.consistent_empty _
  inUse _ := by simp [RemoteLifecycle.state, OfferTable.latest]

lemma Reflects.populate {s : SelectorState} {cs : List (Change TableIdentity)} (h : Reflects s cs)
    (r : RemoteAddress) {identities : List TableIdentity} {paths : List PathObject}
    (hl : identities.length = paths.length) :
    Reflects (s.populate r identities paths) (cs ++ [.offer r (identities.zip paths)]) where
  offers := by
    rw [OfferTable.applyAll_append, ← h.offers]
    rfl
  retained r' := by
    simp only [SelectorState.populate, Dictionary.get?_insert, OfferTable.latest_append_singleton]
    by_cases hr : r' = r
    · simp [hr, List.map_fst_zip (Nat.le_of_eq hl)]
    · simp [hr, Ne.symm hr, h.retained]
  consistent := h.consistent.markPopulated r
  inUse r' := by
    simp only [SelectorState.populate, RemoteLifecycle.state_markPopulated,
      OfferTable.latest_append_singleton]
    by_cases hr : r' = r
    · simp [hr]
    · simp [hr, Ne.symm hr, h.inUse]

lemma Reflects.release {s : SelectorState} {cs : List (Change TableIdentity)} (h : Reflects s cs)
    (r : RemoteAddress) : Reflects (s.release r) (cs ++ [.forget r]) where
  offers := by
    rw [OfferTable.applyAll_append, ← h.offers]
    rfl
  retained r' := by
    simp only [SelectorState.release, Dictionary.get?_erase, OfferTable.latest_append_singleton]
    by_cases hr : r' = r
    · simp [hr]
    · simp [hr, Ne.symm hr, h.retained]
  consistent := h.consistent.markClosed r
  inUse r' := by
    simp only [SelectorState.release, OfferTable.latest_append_singleton,
      RemoteLifecycle.state_markClosed_eq_populated_iff h.consistent]
    by_cases hr : r' = r
    · simp [hr]
    · simp [hr, Ne.symm hr, h.inUse]

lemma Reflects.latest_of_closed {s : SelectorState} {cs : List (Change TableIdentity)}
    (h : Reflects s cs) {r : RemoteAddress} (hc : s.lifecycle.state r = .closed) :
    OfferTable.latest r cs = none := by
  rw [← Option.not_isSome_iff_eq_none, ← h.inUse, hc]
  simp

/-- Keys apart from the tables retained are fresh: what is on offer is retained. -/
lemma Reflects.fresh {s : SelectorState} {cs : List (Change TableIdentity)} (h : Reflects s cs)
    {c : Change TableIdentity} (ha : s.Apart c.keys) : OfferTable.Fresh cs c := by
  refine ⟨ha.1, ?_⟩
  rintro k hm r o ⟨batch, hb, ho⟩
  refine ha.2 k hm (batch.map Prod.fst) (Dictionary.mem_values.mpr ⟨r, ?_⟩) (List.mem_map_of_mem ho)
  rw [h.retained, hb]
  rfl

/-! ### One call -/

variable (elapse : Nat → SelectorState × τ → SelectorState × τ) (S : Script τ)

lemma run_offer (entry : String) (r : RemoteAddress) (paths : List PathObject)
    (s : SelectorState × τ) :
    ((offer (S.within .second) .first entry r paths).run elapse s).2.1 =
      s.1.populate r (S.allocateMany paths.length s.2).1 paths := by
  simp only [offer, Procedure.run_stretch, allocateMany_within, Procedure.Place.modify,
    Procedure.Place.first, invoke_within]

lemma run_unlessClosed {α : Type} (r : RemoteAddress) (operation : String)
    (next : RemoteState → Procedure (SelectorState × τ) (Except PolicyError α))
    (s : SelectorState × τ) :
    (unlessClosed .first r operation next).run elapse s =
      if s.1.lifecycle.state r = .closed then
        (.error (.selector (.remoteClosed r operation)), s)
      else (next (s.1.lifecycle.state r)).run elapse s := by
  simp only [unlessClosed, Procedure.run_bind, Procedure.run_read, Procedure.Place.first,
    RemoteLifecycle.ensureOpen_eq]
  split_ifs <;> rfl

lemma run_path (r : RemoteAddress) (s : SelectorState × τ) :
    ((hosted S).path r).run elapse s =
      if s.1.lifecycle.state r = .closed then
        (.error (.selector (.remoteClosed r "path")), s)
      else if s.1.lifecycle.state r = .uninitialized then (.ok none, s)
      else
        let (result, t) := S.invoke selectorModule "selectpath" [.text r.text] s.2
        (match result with
          | .error e => .error (.script e)
          | .ok values => s.1.resolve values, (s.1, t)) := by
  simp only [hosted, selector, run_unlessClosed]
  split_ifs with hc hu
  · rfl
  · rfl
  · simp only [Procedure.run_stretch, invoke_within, Procedure.Place.first]
    cases (S.invoke selectorModule "selectpath" [.text r.text] s.2).1 <;> rfl

lemma resolve_eq_some_iff (s : SelectorState) (values : List Value) (p : PathObject) :
    s.resolve values = .ok (some p) ↔
      ∃ k fields, values.headD .nil = .record (some k) fields ∧ s.offers.resolve k = some p := by
  unfold SelectorState.resolve
  split <;> simp_all

lemma run_path_eq_some_iff (r : RemoteAddress) (s : SelectorState × τ) (p : PathObject) :
    (((hosted S).path r).run elapse s).1 = .ok (some p) ↔
      s.1.lifecycle.state r = .populated ∧
        ∃ k, chosen S s.2 r = some k ∧ s.1.offers.resolve k = some p := by
  rw [run_path]
  unfold chosen
  cases s.1.lifecycle.state r with
  | uninitialized => simp
  | closed => simp
  | populated =>
    simp only [reduceCtorEq, if_false, true_and]
    cases (S.invoke selectorModule "selectpath" [.text r.text] s.2).1 with
    | error e => simp
    | ok values =>
      simp only [resolve_eq_some_iff]
      cases values.headD .nil <;> simp

lemma Reflects.call {s : SelectorState × τ} {cs : List (Change TableIdentity)}
    (h : Reflects s.1 cs) (c : SelectorCall) :
    Reflects (((hosted S).call c).run elapse s).2.1 (cs ++ (change S s c).toList) := by
  have hl (paths : List PathObject) : (S.allocateMany paths.length s.2).1.length = paths.length :=
    length_allocateMany S _ _
  have hsame {s' : SelectorState} (hs : s' = s.1) : Reflects s' (cs ++ []) := by
    rw [hs, List.append_nil]
    exact h
  cases c with
  | start r paths =>
    simp only [Selector.call, hosted, selector, Procedure.run_bind, Procedure.run_pure, run_offer]
    exact h.populate r (hl paths)
  | path r =>
    refine hsame ?_
    simp only [Selector.call, Procedure.run_bind, Procedure.run_pure, run_path]
    split_ifs <;> rfl
  | pathDown r f i =>
    refine hsame ?_
    simp only [Selector.call, hosted, selector, Procedure.run_bind, Procedure.run_pure,
      run_unlessClosed]
    split_ifs
    · rfl
    · simp only [Procedure.run_stretch, invoke_within]
  | refresh r paths =>
    simp only [Selector.call, hosted, selector, Procedure.run_bind, Procedure.run_pure,
      run_unlessClosed, change]
    split_ifs
    · exact hsame rfl
    · rw [run_offer]
      exact h.populate r (hl paths)
  | close r =>
    simp only [Selector.call, hosted, selector, Procedure.run_bind, Procedure.run_pure,
      run_unlessClosed, change]
    split_ifs
    · exact hsame rfl
    · simp only [Procedure.run_stretch, invoke_within]
      exact h.release r

/-! ### Runs -/

lemma Reflects.runAll (calls : List SelectorCall) {s : SelectorState × τ}
    {cs : List (Change TableIdentity)} (h : Reflects s.1 cs) :
    Reflects ((hosted S).runAll elapse calls s).2.1 (cs ++ history elapse S s calls) := by
  induction calls generalizing s cs with
  | nil => simpa [Selector.runAll, history] using h
  | cons c calls ih =>
    have hc := ih (h.call elapse S c)
    rw [List.append_assoc] at hc
    exact hc

/-- Tables told apart are fresh in every offer of the history. -/
lemma ToldApart.allFresh {calls : List SelectorCall} {s : SelectorState × τ}
    {cs : List (Change TableIdentity)} (ht : ToldApart elapse S s calls) (h : Reflects s.1 cs)
    (hf : OfferTable.AllFresh cs) : OfferTable.AllFresh (cs ++ history elapse S s calls) := by
  induction calls generalizing s cs with
  | nil => simpa [history] using hf
  | cons c calls ih =>
    obtain ⟨hnew, hrest⟩ := ht
    have hstep : OfferTable.AllFresh (cs ++ (change S s c).toList) := by
      cases hd : change S s c with
      | none => simpa using hf
      | some d =>
        exact hf.append_singleton (h.fresh (hnew d hd))
    have := ih hrest (h.call elapse S c) hstep
    rwa [List.append_assoc] at this

/-- An offer in force is of the list last passed. -/
lemma Reflects.passedAfter {s : SelectorState × τ} {cs : List (Change TableIdentity)}
    (h : Reflects s.1 cs) (c : SelectorCall) (r : RemoteAddress)
    {passed : Option (List PathObject)}
    (hp : ∀ batch, OfferTable.latest r cs = some batch → passed = some (batch.map Prod.snd))
    {batch : List (TableIdentity × PathObject)}
    (hb : OfferTable.latest r (cs ++ (change S s c).toList) = some batch) :
    Script.passedAfter r passed c = some (batch.map Prod.snd) := by
  have hoffer (r' : RemoteAddress) (paths : List PathObject)
      (hb : OfferTable.latest r (cs ++ [.offer r' ((S.allocateMany paths.length s.2).1.zip paths)]) =
        some batch) :
      (if r' = r then some paths else passed) = some (batch.map Prod.snd) := by
    rw [OfferTable.latest_append_singleton] at hb
    dsimp only at hb
    split_ifs at hb ⊢ with hr
    · obtain rfl := Option.some.inj hb
      rw [List.map_snd_zip (Nat.le_of_eq (length_allocateMany S _ _).symm)]
    · exact hp batch hb
  cases c with
  | start r' paths => exact hoffer r' paths hb
  | path r' => exact hp batch (by simpa [change] using hb)
  | pathDown r' f i => exact hp batch (by simpa [change] using hb)
  | refresh r' paths =>
    by_cases hc : s.1.lifecycle.state r' = .closed
    · have hb' : OfferTable.latest r cs = some batch := by simpa [change, hc] using hb
      have hr : r' ≠ r := by
        rintro rfl
        rw [h.latest_of_closed hc] at hb'
        contradiction
      simpa [Script.passedAfter, hr] using hp batch hb'
    · exact hoffer r' paths (by simpa [change, hc] using hb)
  | close r' =>
    have hb' : r' ≠ r ∧ OfferTable.latest r cs = some batch := by
      by_cases hc : s.1.lifecycle.state r' = .closed
      · have hb' : OfferTable.latest r cs = some batch := by simpa [change, hc] using hb
        refine ⟨?_, hb'⟩
        rintro rfl
        rw [h.latest_of_closed hc] at hb'
        contradiction
      · simpa [change, hc, OfferTable.latest_append_singleton] using hb
    simpa [Script.passedAfter, hb'.1] using hp batch hb'.2

lemma Reflects.foldl_passedAfter (calls : List SelectorCall) {s : SelectorState × τ}
    {cs : List (Change TableIdentity)} (h : Reflects s.1 cs) (r : RemoteAddress)
    {passed : Option (List PathObject)}
    (hp : ∀ batch, OfferTable.latest r cs = some batch → passed = some (batch.map Prod.snd))
    {batch : List (TableIdentity × PathObject)}
    (hb : OfferTable.latest r (cs ++ history elapse S s calls) = some batch) :
    calls.foldl (Script.passedAfter r) passed = some (batch.map Prod.snd) := by
  induction calls generalizing s cs passed with
  | nil => exact hp batch (by simpa [history] using hb)
  | cons c calls ih =>
    rw [history, ← List.append_assoc] at hb
    exact ih (h.call elapse S c) (fun batch hb => h.passedAfter S c r hp hb) hb

/-- The list last passed for a remote in use is the one on offer. -/
theorem lastPassed_eq {t : τ} {calls : List SelectorCall} {r : RemoteAddress}
    {batch : List (TableIdentity × PathObject)}
    (h : OfferTable.latest r (history elapse S ({}, t) calls) = some batch) :
    lastPassed r calls = some (batch.map Prod.snd) := by
  refine Reflects.foldl_passedAfter elapse S calls (s := ({}, t)) reflects_empty r ?_ h
  simp [OfferTable.latest]

/-- A script asked about a remote in use chooses a path with a table of the remote's own offer,
with a table of another remote's offer, or with one left from an offer that had its fingerprint
twice. A remote not in use has no path chosen for it. -/
theorem path_eq_some_iff (t : τ) (calls : List SelectorCall)
    (h : ToldApart elapse S ({}, t) calls) (later : List SelectorCall) (r : RemoteAddress)
    (p : PathObject) :
    ((hosted S).runAll elapse (calls ++ .path r :: later) ({}, t)).1[calls.length]? =
        some (.chosen (.ok (some p))) ↔
      ∃ batch k, OfferTable.latest r (history elapse S ({}, t) calls) = some batch ∧
        lastPassed r calls = some (batch.map Prod.snd) ∧
        chosen S ((hosted S).runAll elapse calls ({}, t)).2.2 r = some k ∧
        ((k, p) ∈ batch ∨
          (∃ r', r' ≠ r ∧ OfferTable.Current (history elapse S ({}, t) calls) r' k p) ∨
          OfferTable.Leftover (history elapse S ({}, t) calls) k p) := by
  have hs : Reflects ((hosted S).runAll elapse calls ({}, t)).2.1 (history elapse S ({}, t) calls) :=
    Reflects.runAll elapse S calls (s := ({}, t)) reflects_empty
  have hf : OfferTable.AllFresh (history elapse S ({}, t) calls) :=
    h.allFresh elapse S reflects_empty OfferTable.allFresh_nil
  have hlast : ∀ batch, OfferTable.latest r (history elapse S ({}, t) calls) = some batch →
      lastPassed r calls = some (batch.map Prod.snd) := fun _ => lastPassed_eq elapse S
  rw [Selector.getElem?_runAll]
  generalize history elapse S ({}, t) calls = cs at *
  generalize ((hosted S).runAll elapse calls ({}, t)).2 = s at *
  simp only [Option.some.injEq, Selector.call, Procedure.run_bind, Procedure.run_pure,
    SelectorAnswer.chosen.injEq]
  rw [run_path_eq_some_iff, hs.inUse, Option.isSome_iff_exists, hs.offers]
  simp only [OfferTable.resolve_eq_some_iff hf]
  constructor
  · rintro ⟨⟨batch, hb⟩, k, hk, ⟨r', hc⟩ | hl⟩
    · refine ⟨batch, k, hb, hlast batch hb, hk, ?_⟩
      by_cases hr : r' = r
      · obtain ⟨batch', hb', hm⟩ := hc
        rw [hr, hb] at hb'
        obtain rfl := Option.some.inj hb'
        exact .inl hm
      · exact .inr (.inl ⟨r', hr, hc⟩)
    · exact ⟨batch, k, hb, hlast batch hb, hk, .inr (.inr hl)⟩
  · rintro ⟨batch, k, hb, -, hk, hm | ⟨r', -, hc⟩ | hl⟩
    · exact ⟨⟨batch, hb⟩, k, hk, .inl ⟨r, batch, hb, hm⟩⟩
    · exact ⟨⟨batch, hb⟩, k, hk, .inl ⟨r', hc⟩⟩
    · exact ⟨⟨batch, hb⟩, k, hk, .inr hl⟩

/-- Asked about one remote, a script answers a table of another: its path is chosen. -/
theorem path_from_other_remote :
    let path (label : Nat) (f : String) : PathObject :=
      ⟨some label, ⟨⟨"1-ff00:0:110"⟩, ⟨"1-ff00:0:112"⟩, ⟨f⟩, .epoch, none⟩⟩
    let P : Program := { entries := [⟨.selector, "initialize", .function [.store]⟩,
      ⟨.selector, "selectpath", .function [.pick (some (.text "r2")) 1]⟩] }
    let S : Script Memory := P.script ⟨.self, fun _ m => m, fun _ m => m⟩
    let calls : List SelectorCall := [.start ⟨"r1"⟩ [path 0 "a"], .start ⟨"r2"⟩ [path 1 "b"]]
    ToldApart (fun _ s => s) S ({}, {}) calls ∧ lastPassed ⟨"r1"⟩ calls = some [path 0 "a"] ∧
      ((hosted S).runAll (fun _ s => s) (calls ++ [.path ⟨"r1"⟩]) ({}, {})).1[calls.length]? =
        some (.chosen (.ok (some (path 1 "b")))) := by
  intro path P S calls
  have happart : ToldApart (fun _ s => s) S ({}, {}) calls := by decide
  refine ⟨happart, rfl, ?_⟩
  refine (path_eq_some_iff (fun _ s => s) S {} calls happart [] ⟨"r1"⟩ (path 1 "b")).mpr ?_
  exact ⟨[(⟨0⟩, path 0 "a")], ⟨1⟩, by rfl, by rfl, by rfl,
    .inr (.inl ⟨⟨"r2"⟩, by decide, [(⟨1⟩, path 1 "b")], by rfl, by simp⟩)⟩

end PathPolicy.Script
