import PathPolicy.Proofs.RemoteChoices

/-!
# The path in use

Failover leaves the path in use only when a failure affects it, and then for the first one that the
failure does not affect, going round from there; if there is none it stays. A refresh goes to the
first path with the fingerprint of the one in use. So a run that spares this fingerprint never
leaves it, wherever the offers have it, and the first offer without it is taken from its start.
-/

namespace PathPolicy

open Script (lastPassed passedAfter)

/-- The path is the one that failed, or its metadata lists the interface that did. -/
def Path.Affected (p : Path) (f : Fingerprint) (i : Interface) : Prop :=
  p.fingerprint = f ∨ ∃ m ∈ p.metadata, i ∈ m.interfaces

lemma Path.isAffected_iff {p : Path} {f : Fingerprint} {i : Interface} :
    p.isAffected f i = true ↔ p.Affected f i := by
  unfold isAffected crosses Affected
  cases p.metadata <;> simp

namespace Choice

variable {c : Choice} {f : Fingerprint} {i : Interface}

/-! ### A failure -/

/-- The position so many steps ahead of the current one, going round. -/
def ahead (c : Choice) (steps : Nat) : Nat := (c.current + steps) % c.paths.length

/-- So many steps ahead is a path that the failure spares, and it affects all on the way there. -/
structure Skips (c : Choice) (f : Fingerprint) (i : Interface) (steps : Nat) : Prop where
  steps_lt : steps < c.paths.length
  spared : ∃ o ∈ c.paths[c.ahead steps]?, ¬o.path.Affected f i
  affected : ∀ k < steps, ∃ o ∈ c.paths[c.ahead k]?, o.path.Affected f i

/-- What a failure makes of a choice: it moves on if it has to and can, and only then. -/
structure MovesOn (f : Fingerprint) (i : Interface) (before after : Choice) : Prop where
  paths : after.paths = before.paths
  spared : (∀ o ∈ before.chosen, ¬o.path.Affected f i) → after = before
  next : (∃ o ∈ before.chosen, o.path.Affected f i) →
    (∃ o ∈ before.paths, ¬o.path.Affected f i) →
    ∃ steps, before.Skips f i steps ∧ after = { before with current := before.ahead steps }
  stuck : (∀ o ∈ before.paths, o.path.Affected f i) → after = before

lemma isHealthy_iff {position : Nat} :
    c.isHealthy f i position = true ↔ ∃ o ∈ c.paths[position]?, ¬o.path.Affected f i := by
  unfold isHealthy
  cases c.paths[position]? <;> simp [← Path.isAffected_iff]

lemma ahead_lt (h : c.current < c.paths.length) (steps : Nat) : c.ahead steps < c.paths.length :=
  Nat.mod_lt _ (Nat.zero_lt_of_lt h)

lemma ahead_zero (h : c.current < c.paths.length) : c.ahead 0 = c.current := Nat.mod_eq_of_lt h

/-- Going round reaches every position. -/
lemma exists_ahead (h : c.current < c.paths.length) {position : Nat}
    (hp : position < c.paths.length) : ∃ steps < c.paths.length, c.ahead steps = position := by
  by_cases hle : c.current ≤ position
  · refine ⟨position - c.current, by omega, ?_⟩
    rw [ahead, Nat.add_sub_cancel' hle, Nat.mod_eq_of_lt hp]
  · refine ⟨position + c.paths.length - c.current, by omega, ?_⟩
    rw [ahead, Nat.add_sub_cancel' (by omega), Nat.add_mod_right, Nat.mod_eq_of_lt hp]

lemma find?_candidates_eq (c : Choice) (f : Fingerprint) (i : Interface) :
    c.candidates.find? (c.isHealthy f i) =
      ((List.range (c.paths.length - 1)).find? fun k => c.isHealthy f i (c.ahead (k + 1))).map
        fun k => c.ahead (k + 1) :=
  List.find?_map

lemma lt_of_mem_chosen {o : PathObject} (ho : o ∈ c.chosen) : c.current < c.paths.length :=
  (List.getElem?_eq_some_iff.mp ho).1

/-- The candidate that failover takes comes after affected ones only. -/
lemma exists_skips {o : PathObject} (ho : o ∈ c.chosen) (ha : o.path.Affected f i) {next : Nat}
    (h : c.candidates.find? (c.isHealthy f i) = some next) :
    ∃ steps, c.Skips f i steps ∧ next = c.ahead steps := by
  have hlt := lt_of_mem_chosen ho
  rw [find?_candidates_eq] at h
  obtain ⟨k, hk, rfl⟩ := Option.map_eq_some_iff.mp h
  obtain ⟨hhealthy, hmem, hearlier⟩ := List.find?_range_eq_some.mp hk
  have hk : k < c.paths.length - 1 := List.mem_range.mp hmem
  refine ⟨k + 1, ⟨by omega, isHealthy_iff.mp hhealthy, fun j hj => ?_⟩, rfl⟩
  cases j with
  | zero => exact ⟨o, by rwa [ahead_zero hlt], ha⟩
  | succ j =>
    have hsick : ¬c.isHealthy f i (c.ahead (j + 1)) = true := by
      simpa using hearlier j (Nat.lt_of_succ_lt_succ hj)
    refine ⟨_, List.getElem?_eq_getElem (ahead_lt hlt (j + 1)), ?_⟩
    by_contra hnot
    exact hsick (isHealthy_iff.mpr ⟨_, List.getElem?_eq_getElem (ahead_lt hlt (j + 1)), hnot⟩)

/-- Without a candidate to take, every path is affected. -/
lemma affected_of_find?_eq_none {o : PathObject} (ho : o ∈ c.chosen) (ha : o.path.Affected f i)
    (h : c.candidates.find? (c.isHealthy f i) = none) : ∀ p ∈ c.paths, p.path.Affected f i := by
  have hlt := lt_of_mem_chosen ho
  rw [find?_candidates_eq, Option.map_eq_none_iff, List.find?_range_eq_none] at h
  intro p hp
  obtain ⟨position, hposition⟩ := List.mem_iff_getElem?.mp hp
  obtain ⟨steps, hsteps, rfl⟩ := exists_ahead hlt (List.getElem?_eq_some_iff.mp hposition).1
  cases steps with
  | zero =>
    rw [ahead_zero hlt] at hposition
    obtain rfl : o = p := Option.some.inj (ho.symm.trans hposition)
    exact ha
  | succ k =>
    by_contra hnot
    have hhealthy := isHealthy_iff.mpr ⟨p, hposition, hnot⟩
    have hsick := h k (by omega)
    rw [hhealthy] at hsick
    cases hsick

/-- Failover stays where it is spared or has nowhere to go, and else goes to the next spared path. -/
lemma pathDown_cases (c : Choice) (f : Fingerprint) (i : Interface) :
    (c.pathDown f i = c ∧ ∀ o ∈ c.chosen, ¬o.path.Affected f i) ∨
      (∃ o ∈ c.chosen, o.path.Affected f i) ∧
        (c.pathDown f i = c ∧ (∀ p ∈ c.paths, p.path.Affected f i) ∨
          ∃ steps, c.Skips f i steps ∧ c.pathDown f i = { c with current := c.ahead steps }) := by
  unfold pathDown
  cases ho : c.chosen with
  | none => simp
  | some o =>
    by_cases ha : o.path.isAffected f i = true
    · have haffected : o.path.Affected f i := Path.isAffected_iff.mp ha
      refine .inr ⟨⟨o, rfl, haffected⟩, ?_⟩
      simp only [ha, if_true]
      cases hn : c.candidates.find? (c.isHealthy f i) with
      | none => exact .inl ⟨rfl, affected_of_find?_eq_none ho haffected hn⟩
      | some next =>
        obtain ⟨steps, hskips, rfl⟩ := exists_skips ho haffected hn
        exact .inr ⟨steps, hskips, rfl⟩
    · simp [ha, ← Path.isAffected_iff]

lemma pathDown_eq_self (h : ∀ o ∈ c.chosen, ¬o.path.Affected f i) : c.pathDown f i = c := by
  obtain ⟨hsame, -⟩ | ⟨⟨o, ho, ha⟩, -⟩ := c.pathDown_cases f i
  · exact hsame
  · exact absurd ha (h o ho)

lemma Skips.not_all_affected {steps : Nat} (h : c.Skips f i steps) :
    ¬∀ o ∈ c.paths, o.path.Affected f i := by
  intro hall
  obtain ⟨o, ho, hspared⟩ := h.spared
  exact hspared (hall o (List.mem_of_getElem? ho))

lemma movesOn_pathDown (c : Choice) (f : Fingerprint) (i : Interface) :
    MovesOn f i c (c.pathDown f i) where
  paths := paths_pathDown c f i
  spared := pathDown_eq_self
  next := by
    rintro ⟨o, ho, ha⟩ ⟨p, hp, hspared⟩
    obtain ⟨-, hnot⟩ | ⟨-, ⟨-, hall⟩ | hmoved⟩ := c.pathDown_cases f i
    · exact absurd ha (hnot o ho)
    · exact absurd (hall p hp) hspared
    · exact hmoved
  stuck := by
    intro hall
    obtain ⟨hsame, -⟩ | ⟨-, ⟨hsame, -⟩ | ⟨steps, hskips, -⟩⟩ := c.pathDown_cases f i
    · exact hsame
    · exact hsame
    · exact absurd hall hskips.not_all_affected

/-- A failure that is reported again finds the path in use spared, or nowhere to go. -/
lemma pathDown_pathDown (c : Choice) (f : Fingerprint) (i : Interface) :
    (c.pathDown f i).pathDown f i = c.pathDown f i := by
  obtain ⟨hsame, -⟩ | ⟨-, ⟨hsame, -⟩ | ⟨steps, hskips, hmoved⟩⟩ := c.pathDown_cases f i
  · rw [hsame, hsame]
  · rw [hsame, hsame]
  · refine pathDown_eq_self fun o ho => ?_
    obtain ⟨p, hp, hspared⟩ := hskips.spared
    rw [hmoved] at ho
    obtain rfl : p = o := Option.some.inj (hp.symm.trans ho)
    exact hspared

/-! ### A refresh -/

/-- A refresh goes to the first path with the fingerprint of the one in use, or to the first. -/
lemma chosen_refresh {o : PathObject} (ho : o ∈ c.chosen) (paths : List PathObject) :
    (c.refresh paths).chosen =
      (paths.find? (·.fingerprint == o.fingerprint)).or paths.head? := by
  unfold refresh
  rw [show c.chosen = some o from ho, List.find?_eq_bind_findIdx?_getElem?]
  dsimp only [chosen]
  cases hfound : paths.findIdx? (·.fingerprint == o.fingerprint) with
  | none => simp [List.head?_eq_getElem?]
  | some position =>
    have hlt : position < paths.length := (List.findIdx?_eq_some_iff_getElem.mp hfound).1
    simp [List.getElem?_eq_getElem hlt]

end Choice

namespace FailoverState

variable (elapse : Nat → FailoverState → FailoverState)

/-- A failure reported for a remote leaves the path in use for it only if it affects that path and
spares another on offer. The next path in use is then the first that is spared, going round from
the old one. The offer stays as it is, and so does all that is kept for other remotes. The same
failure reported again changes nothing. -/
theorem pathDown_goes_to_next_spared (s : FailoverState) (r : RemoteAddress) (f : Fingerprint)
    (i : Interface) :
    let down (s : FailoverState) := (failoverSelector.call (.pathDown r f i)).run elapse s
    (down s).1 = .done (.ok ()) ∧
      (s.choices.get? r = none → (down s).2.choices.get? r = none) ∧
      (∀ before ∈ s.choices.get? r,
        ∃ after ∈ (down s).2.choices.get? r, before.MovesOn f i after) ∧
      (∀ r', r' ≠ r → (down s).2.choices.get? r' = s.choices.get? r') ∧
      ∀ r', (down (down s).2).2.choices.get? r' = (down s).2.choices.get? r' := by
  intro down
  have hdown (s : FailoverState) (r' : RemoteAddress) : (down s).2.choices.get? r' =
      if r' = r then (s.choices.get? r').map (·.pathDown f i) else s.choices.get? r' :=
    get?_call elapse (.pathDown r f i) s r'
  refine ⟨rfl, fun hnone => ?_, fun before hbefore => ?_, fun r' hr' => ?_, fun r' => ?_⟩
  · rw [hdown, if_pos rfl, hnone, Option.map_none]
  · refine ⟨before.pathDown f i, ?_, before.movesOn_pathDown f i⟩
    rw [hdown, if_pos rfl, show s.choices.get? r = some before from hbefore]
    rfl
  · rw [hdown, if_neg hr']
  · rw [hdown (down s).2, hdown s]
    split_ifs
    · rw [Option.map_map]
      exact congrArg (fun g => Option.map g (s.choices.get? r'))
        (funext fun c => c.pathDown_pathDown f i)
    · rfl

/-- The last of three paths is in use. The failure affects it and the first by their fingerprint, of
which the last has no metadata, so the second is next, around the end of the list. -/
theorem pathDown_goes_around :
    let path (label : Nat) (f : String) (metadata : Option PathMetadata) : PathObject :=
      ⟨some label, ⟨⟨"1-ff00:0:110"⟩, ⟨"1-ff00:0:112"⟩, ⟨f⟩, .epoch, metadata⟩⟩
    let i : Interface := ⟨⟨"1-ff00:0:111"⟩, 7⟩
    let paths := [path 0 "a" (some { interfaces := [i] }), path 1 "b" (some {}), path 2 "a" none]
    let before : Choice := { paths, current := 2 }
    let s : FailoverState := ⟨Dictionary.insert {} ⟨"r"⟩ before⟩
    let down := (failoverSelector.call (.pathDown ⟨"r"⟩ ⟨"a"⟩ i)).run (fun _ s => s) s
    before ∈ s.choices.get? ⟨"r"⟩ ∧
      (∃ after ∈ down.2.choices.get? ⟨"r"⟩, before.MovesOn ⟨"a"⟩ i after ∧ after.current = 1) ∧
      down.2.path ⟨"r"⟩ = some (path 1 "b" (some {})) := by
  intro path i paths before s down
  have hbefore : before ∈ s.choices.get? ⟨"r"⟩ := rfl
  obtain ⟨after, hafter, hmoves⟩ :=
    (pathDown_goes_to_next_spared (fun _ s => s) s ⟨"r"⟩ ⟨"a"⟩ i).2.2.1 before hbefore
  have hcurrent : (down.2.choices.get? ⟨"r"⟩).map Choice.current = some 1 := by decide +kernel
  rw [show down.2.choices.get? ⟨"r"⟩ = some after from hafter] at hcurrent
  exact ⟨hbefore, ⟨after, hafter, hmoves, Option.some.inj hcurrent⟩, by decide +kernel⟩

/-! ### Runs that spare a fingerprint -/

/-- To hold at every entry of a list, with those in front of it, is to hold at the first, with nothing
in front, and at the others. -/
lemma forall_split_cons_iff {α : Type} {P : List α → α → Prop} {a : α} {l : List α} :
    (∀ front b rest, a :: l = front ++ b :: rest → P front b) ↔
      P [] a ∧ ∀ front b rest, l = front ++ b :: rest → P (a :: front) b := by
  constructor
  · intro h
    exact ⟨h [] a l rfl, fun front b rest hl => h (a :: front) b rest (by rw [hl]; rfl)⟩
  · rintro ⟨hfirst, hrest⟩ front b rest hl
    cases front with
    | nil =>
      obtain ⟨rfl, -⟩ := List.cons.inj hl
      exact hfirst
    | cons a' front =>
      obtain ⟨rfl, htail⟩ := List.cons.inj hl
      exact hrest front b rest htail

/-- The call does not start or close `r`, offers it a path with fingerprint `f` if it offers any, and
reports no failure that affects the path in use, as far as that has fingerprint `f`. -/
def Spares (s : FailoverState) (r : RemoteAddress) (f : Fingerprint) : SelectorCall → Prop
  | .start r' _ | .close r' => r' ≠ r
  | .path _ => True
  | .pathDown r' g i => r' = r → g ≠ f ∧ ∀ o ∈ s.path r, ∀ m ∈ o.path.metadata, i ∉ m.interfaces
  | .refresh r' paths => r' = r → ∃ o ∈ paths, o.fingerprint = f

/-- The path in use, when it was `before` and `passed` was offered since. -/
def kept (f : Fingerprint) (before : Option PathObject) :
    Option (List PathObject) → Option PathObject
  | none => before
  | some paths => paths.find? (·.fingerprint == f)

variable {elapse} {s : FailoverState} {r : RemoteAddress} {f : Fingerprint}

lemma path_call (call : SelectorCall) : ((failoverSelector.call call).run elapse s).2.path r =
    if r = call.remote then (Choice.after (s.choices.get? r) call).bind Choice.chosen
    else s.path r := by
  rw [path, get?_call]
  split_ifs <;> rfl

lemma answer_path (elapse : Nat → FailoverState → FailoverState) (s : FailoverState)
    (calls later : List SelectorCall) (r : RemoteAddress) :
    (failoverSelector.runAll elapse (calls ++ .path r :: later) s).1[calls.length]? =
      some (.chosen (.ok ((failoverSelector.runAll elapse calls s).2.path r))) := by
  rw [Selector.getElem?_runAll, run_call_fst]
  rfl

lemma exists_find?_fingerprint {paths : List PathObject} {o : PathObject} (ho : o ∈ paths)
    (hf : o.fingerprint = f) :
    ∃ p, paths.find? (·.fingerprint == f) = some p ∧ p.fingerprint = f := by
  have hfound : (paths.find? (·.fingerprint == f)).isSome := by
    rw [List.find?_isSome]
    exact ⟨o, ho, by simpa using hf⟩
  obtain ⟨p, hp⟩ := Option.isSome_iff_exists.mp hfound
  have hpf := List.find?_some hp
  exact ⟨p, hp, by simpa using hpf⟩

lemma path_refresh {o : PathObject} (ho : o ∈ s.path r) (paths : List PathObject) :
    (s.refresh r paths).path r =
      (paths.find? (·.fingerprint == o.fingerprint)).or paths.head? := by
  obtain ⟨c, hc, hchosen⟩ := Option.bind_eq_some_iff.mp ho
  rw [path, refresh, hc, Dictionary.get?_insert_self]
  exact Choice.chosen_refresh hchosen paths

variable (elapse)

/-- A call that spares the fingerprint in use leaves the path, or has it anew from its offer. -/
lemma path_call_of_spares {call : SelectorCall} (hs : s.Spares r f call)
    {before : Option PathObject} {passed : Option (List PathObject)}
    (h : s.path r = kept f before passed) (hf : ∃ o ∈ s.path r, o.fingerprint = f) :
    let s' := ((failoverSelector.call call).run elapse s).2
    s'.path r = kept f before (passedAfter r passed call) ∧ ∃ o ∈ s'.path r, o.fingerprint = f := by
  obtain ⟨o, ho, rfl⟩ := hf
  intro s'
  suffices hpath : s'.path r = s.path r ∧ passedAfter r passed call = passed ∨
      ∃ paths, s'.path r = paths.find? (·.fingerprint == o.fingerprint) ∧
        passedAfter r passed call = some paths ∧ ∃ p ∈ paths, p.fingerprint = o.fingerprint by
    obtain ⟨hpath, hpassed⟩ | ⟨paths, hpath, hpassed, p, hp, hpf⟩ := hpath
    · rw [hpath, hpassed]
      exact ⟨h, o, ho, rfl⟩
    · rw [hpath, hpassed]
      exact ⟨rfl, exists_find?_fingerprint hp hpf⟩
  have hother (hr : r ≠ call.remote) : s'.path r = s.path r := by rw [path_call, if_neg hr]
  cases call with
  | start r' paths => exact .inl ⟨hother (Ne.symm hs), if_neg hs⟩
  | path r' => exact .inl ⟨(path_call _).trans (ite_self _), rfl⟩
  | pathDown r' g i =>
    refine .inl ⟨?_, rfl⟩
    by_cases hr : r = r'
    · subst hr
      obtain ⟨hg, hi⟩ := hs rfl
      obtain ⟨c, hc, hchosen⟩ := Option.bind_eq_some_iff.mp ho
      have hspared : ∀ p ∈ c.chosen, ¬p.path.Affected g i := by
        intro p hp
        obtain rfl : p = o := Option.some.inj (hp.symm.trans hchosen)
        rintro (hpg | ⟨m, hm, hmi⟩)
        · exact hg hpg.symm
        · exact hi p ho m hm hmi
      have hsame : (s.choices.get? r).map (·.pathDown g i) = s.choices.get? r := by
        rw [hc, Option.map_some, Choice.pathDown_eq_self hspared]
      exact (path_call _).trans ((if_pos rfl).trans (congrArg (·.bind Choice.chosen) hsame))
    · exact hother hr
  | refresh r' paths =>
    by_cases hr : r' = r
    · subst hr
      refine .inr ⟨paths, ?_, if_pos rfl, hs rfl⟩
      obtain ⟨p, hp, hpf⟩ := hs rfl
      obtain ⟨q, hq, -⟩ := exists_find?_fingerprint hp hpf
      refine (path_refresh ho paths).trans ?_
      rw [hq, Option.some_or]
    · exact .inl ⟨hother (Ne.symm hr), if_neg hr⟩
  | close r' => exact .inl ⟨hother (Ne.symm hs), if_neg hs⟩

lemma path_runAll_of_spares (calls : List SelectorCall)
    (hs : ∀ front call rest, calls = front ++ call :: rest →
      (failoverSelector.runAll elapse front s).2.Spares r f call)
    {before : Option PathObject} {passed : Option (List PathObject)}
    (h : s.path r = kept f before passed) (hf : ∃ o ∈ s.path r, o.fingerprint = f) :
    let s' := (failoverSelector.runAll elapse calls s).2
    s'.path r = kept f before (calls.foldl (passedAfter r) passed) ∧
      ∃ o ∈ s'.path r, o.fingerprint = f := by
  induction calls generalizing s passed with
  | nil => exact ⟨h, hf⟩
  | cons call calls ih =>
    obtain ⟨hcall, hcalls⟩ := forall_split_cons_iff.mp hs
    obtain ⟨hpath, hf'⟩ := path_call_of_spares elapse hcall h hf
    exact ih hcalls hpath hf'

/-- As long as a path with fingerprint `f` is in use for a remote and the calls spare `f`, the remote
keeps to it: to the same path until it gets another offer, and then to the first path of its latest
offer that has the fingerprint. The first offer without the fingerprint is taken from its start. -/
theorem keeps_to_fingerprint (s : FailoverState) (r : RemoteAddress) (f : Fingerprint)
    (hf : ∃ o ∈ s.path r, o.fingerprint = f) (calls : List SelectorCall)
    (hs : ∀ front call rest, calls = front ++ call :: rest →
      (failoverSelector.runAll elapse front s).2.Spares r f call) (later : List SelectorCall) :
    (∃ o, (failoverSelector.runAll elapse (calls ++ .path r :: later) s).1[calls.length]? =
        some (.chosen (.ok (some o))) ∧
      o.fingerprint = f ∧
      (lastPassed r calls = none → o ∈ s.path r) ∧
      ∀ paths ∈ lastPassed r calls, o ∈ paths.find? (·.fingerprint == f)) ∧
    ∀ paths : List PathObject, (∀ o ∈ paths, o.fingerprint ≠ f) →
      (failoverSelector.runAll elapse (calls ++ .refresh r paths :: .path r :: later) s).1[
        calls.length + 1]? = some (.chosen (.ok paths.head?)) := by
  have hstart : s.path r = kept f (s.path r) none := rfl
  obtain ⟨hpath, o, ho, hof⟩ := path_runAll_of_spares elapse calls hs hstart hf
  have hkept : kept f (s.path r) (lastPassed r calls) = some o := hpath.symm.trans ho
  refine ⟨⟨o, ?_, hof, fun hnone => ?_, fun paths hpaths => ?_⟩, fun paths hpaths => ?_⟩
  · rw [answer_path, show _ = some o from ho]
  · rwa [hnone] at hkept
  · rwa [show lastPassed r calls = some paths from hpaths] at hkept
  · have hnone : paths.find? (·.fingerprint == o.fingerprint) = none := by
      rw [List.find?_eq_none, hof]
      exact fun p hp => by simpa using hpaths p hp
    have hrefreshed : (failoverSelector.runAll elapse (calls ++ [.refresh r paths]) s).2.path r =
        paths.head? := by
      rw [Selector.runAll_append]
      refine (path_refresh ho paths).trans ?_
      rw [hnone, Option.none_or]
    have hanswer := answer_path elapse s (calls ++ [.refresh r paths]) later r
    rwa [hrefreshed, List.append_assoc, List.length_append] at hanswer

/-- The second of three paths is in use, and its fingerprint comes later and twice in the next
offer, while another remote is closed and a path that is not in use fails. -/
theorem keeps_to_fingerprint_moved :
    let path (label : Nat) (f : String) : PathObject :=
      ⟨some label, ⟨⟨"1-ff00:0:110"⟩, ⟨"1-ff00:0:112"⟩, ⟨f⟩, .epoch, none⟩⟩
    let i : Interface := ⟨⟨"1-ff00:0:111"⟩, 7⟩
    let choice : Choice := { paths := [path 0 "a", path 1 "b"], current := 1 }
    let s : FailoverState := ⟨Dictionary.insert {} ⟨"r"⟩ choice⟩
    let latest := [path 2 "a", path 3 "c", path 4 "b", path 5 "b"]
    let calls : List SelectorCall :=
      [.close ⟨"q"⟩, .pathDown ⟨"r"⟩ ⟨"a"⟩ i, .refresh ⟨"r"⟩ latest]
    let run (calls : List SelectorCall) := failoverSelector.runAll (fun _ s => s) calls s
    (∃ o ∈ s.path ⟨"r"⟩, o.fingerprint = ⟨"b"⟩) ∧
      (∀ front call rest, calls = front ++ call :: rest → (run front).2.Spares ⟨"r"⟩ ⟨"b"⟩ call) ∧
      (run (calls ++ [.path ⟨"r"⟩])).1[calls.length]? = some (.chosen (.ok (some (path 4 "b")))) ∧
      (run (calls ++ [.refresh ⟨"r"⟩ [path 6 "a"], .path ⟨"r"⟩])).1[calls.length + 1]? =
        some (.chosen (.ok (some (path 6 "a")))) := by
  intro path i choice s latest calls run
  have hf : ∃ o ∈ s.path ⟨"r"⟩, o.fingerprint = ⟨"b"⟩ := ⟨path 1 "b", rfl, rfl⟩
  have hs : ∀ front call rest, calls = front ++ call :: rest →
      (run front).2.Spares ⟨"r"⟩ ⟨"b"⟩ call := by
    refine forall_split_cons_iff.mpr ⟨show (⟨"q"⟩ : RemoteAddress) ≠ ⟨"r"⟩ by decide, ?_⟩
    refine forall_split_cons_iff.mpr ⟨fun _ => ⟨by decide, fun o ho m hm => ?_⟩, ?_⟩
    · obtain rfl : path 1 "b" = o := Option.some.inj ho
      cases hm
    · refine forall_split_cons_iff.mpr ⟨fun _ => ⟨path 4 "b", by decide, rfl⟩, ?_⟩
      simp
  obtain ⟨⟨o, hanswer, -, -, hlatest⟩, hother⟩ :=
    keeps_to_fingerprint (fun _ s => s) s ⟨"r"⟩ ⟨"b"⟩ hf calls hs []
  obtain rfl : path 4 "b" = o := Option.some.inj ((hlatest latest rfl).symm.trans (by rfl)).symm
  exact ⟨hf, hs, hanswer, hother [path 6 "a"] (by decide)⟩

end FailoverState

end PathPolicy
