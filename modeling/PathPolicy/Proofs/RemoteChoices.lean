import PathPolicy.Proofs.Failover
import PathPolicy.Proofs.ScriptSelector

/-!
# Choices remote by remote

Failover keeps the choices for all remotes in one place, but a call reads and changes the choice for
its own remote only. So a run for many remotes is a run for each of them. In every state a choice
has its paths from the offer that counts for its remote, and its position is that of one of them
unless there is none.
-/

namespace PathPolicy

open Script (lastPassed passedAfter)

namespace Choice

variable {c : Choice}

/-- The position is that of a path, unless there is none. -/
def InRange (c : Choice) : Prop :=
  c.current < c.paths.length ∨ c.current = 0 ∧ c.paths = []

lemma inRange_offer (paths : List PathObject) : InRange { paths } := by
  cases paths with
  | nil => exact .inr ⟨rfl, rfl⟩
  | cons o rest => exact .inl (Nat.zero_lt_succ _)

lemma InRange.chosen_eq_none_iff (h : c.InRange) : c.chosen = none ↔ c.paths = [] := by
  rw [chosen, List.getElem?_eq_none_iff]
  constructor
  · intro hle
    rcases h with hlt | ⟨-, he⟩
    · omega
    · exact he
  · intro he
    simp [he]

lemma lt_of_mem_candidates {position : Nat} (h : position ∈ c.candidates) :
    position < c.paths.length := by
  obtain ⟨k, hk, rfl⟩ := List.mem_map.mp h
  have hpos : 0 < c.paths.length := by
    have := List.mem_range.mp hk
    omega
  exact Nat.mod_lt _ hpos

lemma InRange.pathDown (h : c.InRange) (f : Fingerprint) (i : Interface) :
    (c.pathDown f i).InRange := by
  unfold Choice.pathDown
  split
  · exact h
  · split
    · split
      · exact h
      · rename_i next hnext
        have hlt : next < c.paths.length :=
          lt_of_mem_candidates (List.mem_of_find?_eq_some hnext)
        exact .inl hlt
    · exact h

lemma inRange_refresh (c : Choice) (paths : List PathObject) : (c.refresh paths).InRange := by
  unfold refresh
  split
  · exact inRange_offer paths
  · rename_i o _
    cases hfound : paths.findIdx? (·.fingerprint == o.fingerprint) with
    | none => exact inRange_offer paths
    | some position => exact .inl (List.findIdx?_eq_some_iff_getElem.mp hfound).1

/-- What a call for the remote makes of the choice for it. -/
def after : Option Choice → SelectorCall → Option Choice
  | _, .start _ paths => some { paths }
  | c, .path _ => c
  | c, .pathDown _ f i => c.map (·.pathDown f i)
  | c, .refresh _ paths => some ((c.getD { paths := [] }).refresh paths)
  | _, .close _ => none

/-- What a call for the remote is answered. -/
def answer (c : Option Choice) : SelectorCall → SelectorAnswer
  | .path _ => .chosen (.ok (c.bind chosen))
  | _ => .done (.ok ())

lemma inRange_after {o : Option Choice} (h : ∀ c ∈ o, c.InRange) (call : SelectorCall) :
    ∀ c ∈ after o call, c.InRange := by
  intro c hc
  cases call with
  | start r paths =>
    obtain rfl := Option.some.inj hc
    exact inRange_offer paths
  | path r => exact h c hc
  | pathDown r f i =>
    obtain ⟨c', hc', rfl⟩ := Option.map_eq_some_iff.mp hc
    exact (h c' hc').pathDown f i
  | refresh r paths =>
    obtain rfl := Option.some.inj hc
    exact inRange_refresh _ paths
  | close r => cases hc

/-- The paths of the choice are the ones last offered. -/
lemma paths_after (o : Option Choice) (call : SelectorCall) :
    (after o call).map paths = passedAfter call.remote (o.map paths) call := by
  cases call with
  | start r paths => simp [after, passedAfter, SelectorCall.remote]
  | path r => rfl
  | pathDown r f i => cases o <;> simp [after, passedAfter, paths_pathDown]
  | refresh r paths => simp [after, passedAfter, SelectorCall.remote, paths_refresh]
  | close r => simp [after, passedAfter, SelectorCall.remote]

end Choice

namespace FailoverState

variable (elapse : Nat → FailoverState → FailoverState)

/-! ### One call -/

lemma run_call_fst (call : SelectorCall) (s : FailoverState) :
    ((failoverSelector.call call).run elapse s).1 =
      Choice.answer (s.choices.get? call.remote) call := by
  cases call <;> rfl

/-- A call changes nothing for other remotes. -/
lemma get?_call (call : SelectorCall) (s : FailoverState) (r : RemoteAddress) :
    ((failoverSelector.call call).run elapse s).2.choices.get? r =
      if r = call.remote then Choice.after (s.choices.get? r) call else s.choices.get? r := by
  cases call with
  | start r' paths => exact Dictionary.get?_insert ..
  | path r' => exact (ite_self _).symm
  | pathDown r' f i =>
    refine (Dictionary.get?_modify ..).trans ?_
    by_cases h : r = r'
    · subst h
      rfl
    · rw [if_neg h]
      exact (if_neg h).symm
  | refresh r' paths =>
    refine (Dictionary.get?_insert ..).trans ?_
    by_cases h : r = r'
    · subst h
      rfl
    · rw [if_neg h]
      exact (if_neg h).symm
  | close r' => exact Dictionary.get?_erase ..

/-! ### Runs -/

lemma inRange_runAll (calls : List SelectorCall) {s : FailoverState}
    (h : ∀ r, ∀ c ∈ s.choices.get? r, c.InRange) (r : RemoteAddress) :
    ∀ c ∈ (failoverSelector.runAll elapse calls s).2.choices.get? r, c.InRange := by
  induction calls generalizing s with
  | nil => exact h r
  | cons call calls ih =>
    refine ih fun r' => ?_
    rw [get?_call]
    split_ifs
    · exact Choice.inRange_after (h r') call
    · exact h r'

/-- The paths on offer after a run are the ones last passed in it. -/
lemma paths_runAll (calls : List SelectorCall) (s : FailoverState) (r : RemoteAddress) :
    ((failoverSelector.runAll elapse calls s).2.choices.get? r).map Choice.paths =
      calls.foldl (passedAfter r) ((s.choices.get? r).map Choice.paths) := by
  induction calls generalizing s with
  | nil => rfl
  | cons call calls ih =>
    rw [Selector.runAll, ih, get?_call, List.foldl_cons]
    congr 1
    split_ifs with h
    · rw [h]
      exact Choice.paths_after _ call
    · cases call <;> simp_all [passedAfter, SelectorCall.remote, eq_comm]

/-- The answers to the calls for a remote. -/
def answersFor (r : RemoteAddress) (calls : List SelectorCall) (answers : List SelectorAnswer) :
    List SelectorAnswer :=
  ((calls.zip answers).filter (·.1.remote = r)).map Prod.snd

/-- The calls for a remote are answered as if there were no others. -/
lemma answersFor_runAll (calls : List SelectorCall) {s t : FailoverState} {r : RemoteAddress}
    (h : s.choices.get? r = t.choices.get? r) :
    answersFor r calls (failoverSelector.runAll elapse calls s).1 =
      (failoverSelector.runAll elapse (calls.filter (·.remote = r)) t).1 := by
  induction calls generalizing s t with
  | nil => rfl
  | cons call calls ih =>
    by_cases hr : call.remote = r
    · subst hr
      have hrest := ih (s := ((failoverSelector.call call).run elapse s).2)
        (t := ((failoverSelector.call call).run elapse t).2) (by rw [get?_call, get?_call, h])
      simp only [answersFor, Selector.runAll, List.zip_cons_cons, decide_true,
        List.filter_cons_of_pos, List.map_cons] at hrest ⊢
      rw [hrest, run_call_fst, run_call_fst, h]
    · have hrest := ih (s := ((failoverSelector.call call).run elapse s).2) (t := t)
        (by rw [get?_call, if_neg (Ne.symm hr), h])
      simpa [answersFor, Selector.runAll, hr] using hrest

/-- In every state reached, the position of each choice and those that failover tries are of its
paths. Asked for a path, the selector answers one of the list last offered for the remote, and none
if there is no such list or it is empty. The answers for a remote are those of a run in which
nothing is done for any other. -/
theorem answers_from_latest_offer (calls : List SelectorCall) :
    (∀ r, ∀ c ∈ (failoverSelector.runAll elapse calls {}).2.choices.get? r,
      c.InRange ∧ ∀ position ∈ c.candidates, position < c.paths.length) ∧
    (∀ r later, ∃ chosen,
      (failoverSelector.runAll elapse (calls ++ .path r :: later) {}).1[calls.length]? =
          some (.chosen (.ok chosen)) ∧
        (chosen = none ↔ lastPassed r calls = none ∨ lastPassed r calls = some []) ∧
        ∀ o ∈ chosen, ∃ paths ∈ lastPassed r calls, o ∈ paths) ∧
    ∀ r, answersFor r calls (failoverSelector.runAll elapse calls {}).1 =
      (failoverSelector.runAll elapse (calls.filter (·.remote = r)) {}).1 := by
  have hrange := inRange_runAll elapse calls (s := {}) (fun r c hc => by cases hc)
  refine ⟨fun r c hc => ⟨hrange r c hc, fun _ h => Choice.lt_of_mem_candidates h⟩, ?_,
    fun r => answersFor_runAll elapse calls rfl⟩
  intro r later
  have hpaths : ((failoverSelector.runAll elapse calls {}).2.choices.get? r).map Choice.paths =
      lastPassed r calls := paths_runAll elapse calls {} r
  refine ⟨((failoverSelector.runAll elapse calls {}).2.choices.get? r).bind Choice.chosen,
    ?_, ?_, ?_⟩
  · rw [Selector.getElem?_runAll, run_call_fst]
    rfl
  · rw [← hpaths]
    cases hc : (failoverSelector.runAll elapse calls {}).2.choices.get? r with
    | none => simp
    | some c => simpa using (hrange r c hc).chosen_eq_none_iff
  · intro o ho
    obtain ⟨c, hc, hchosen⟩ := Option.bind_eq_some_iff.mp ho
    rw [hc] at hpaths
    exact ⟨c.paths, hpaths.symm, List.mem_of_getElem? hchosen⟩

/-- A refresh keeps to the path in use where its fingerprint comes first in the new list. -/
theorem answers_from_latest_offer_refreshed :
    let path (label : Nat) (f : String) : PathObject :=
      ⟨some label, ⟨⟨"1-ff00:0:110"⟩, ⟨"1-ff00:0:112"⟩, ⟨f⟩, .epoch, none⟩⟩
    let latest := [path 2 "c", path 3 "b", path 4 "b"]
    let calls : List SelectorCall := [.start ⟨"r"⟩ [path 0 "a", path 1 "b"], .start ⟨"q"⟩ [],
      .pathDown ⟨"r"⟩ ⟨"a"⟩ ⟨⟨"1-ff00:0:111"⟩, 7⟩, .refresh ⟨"r"⟩ latest]
    let run (calls : List SelectorCall) := failoverSelector.runAll (fun _ s => s) calls {}
    let choice : Choice := { paths := latest, current := 1 }
    choice ∈ (run calls).2.choices.get? ⟨"r"⟩ ∧ choice.InRange ∧ 0 ∈ choice.candidates ∧
      0 < choice.paths.length ∧
      (run (calls ++ [.path ⟨"r"⟩])).1[calls.length]? = some (.chosen (.ok (some (path 3 "b")))) ∧
      (∃ paths ∈ lastPassed ⟨"r"⟩ calls, path 3 "b" ∈ paths) ∧
      answersFor ⟨"r"⟩ calls (run calls).1 = (run (calls.filter (·.remote = ⟨"r"⟩))).1 := by
  intro path latest calls run choice
  obtain ⟨hrange, hanswer, halone⟩ := answers_from_latest_offer (fun _ s => s) calls
  have hchoice : choice ∈ (run calls).2.choices.get? ⟨"r"⟩ := by rfl
  have hcandidate : 0 ∈ choice.candidates := by decide
  have hchosen : (run (calls ++ [.path ⟨"r"⟩])).1[calls.length]? =
      some (.chosen (.ok (some (path 3 "b")))) := by
    rfl
  obtain ⟨hinRange, hcandidates⟩ := hrange ⟨"r"⟩ choice hchoice
  obtain ⟨chosen, hanswered, -, hmem⟩ := hanswer ⟨"r"⟩ []
  obtain rfl : some (path 3 "b") = chosen := by
    have h := hchosen.symm.trans hanswered
    simpa using h
  exact ⟨hchoice, hinRange, hcandidate, hcandidates 0 hcandidate, hchosen, hmem _ rfl,
    halone ⟨"r"⟩⟩

end FailoverState

end PathPolicy
