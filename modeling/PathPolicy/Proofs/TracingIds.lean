import PathPolicy.Proofs.TracerRun
import Mathlib.Data.List.Perm.Subperm

/-!
# Traced connections of different clients stay apart

Clients choose their tracing ids without knowing of each other. The invariant `Kept` of a run
records the ids that were issued for them so far, with the calls they were issued for: a turn
issues at most one, and never one twice. From it `Traffic.keepsApart`: no two known ids stand for
the same one, an event reaches the tracer once and under the id of the latest registration that
succeeded, and only successful registrations and departures change what is known.
-/

namespace PathPolicy.Remote

open Telemetry Procedure

variable {τ : Type}

/-- The `i`-th call is a registration of the client's id that succeeded, and the tracer was told of
it under the id issued. -/
def Traffic.Granted (X : Traffic τ) (r : TracerRun τ) (i : Nat) (c : ClientId)
    (id issued : TracingId) : Prop :=
  ∃ m side odcid, X.calls[i]? = some (.register c m) ∧ m.tracingId = some id ∧
    .registered issued side odcid ∈ r.told i ∧ r.answer? i = some (.ok ())

/-- The id issued with the latest registration of a client's id that succeeded since the client was
last released. -/
def latest (c : ClientId) (id : TracingId) : List Change → Option TracingId
  | [] => none
  | .registered c' id' issued :: rest =>
    if c' = c ∧ id' = id then some issued else latest c id rest
  | .released c' :: rest => if c' = c then none else latest c id rest

/-- What a tracer service guarantees in every run. -/
structure Traffic.KeepsApart (X : Traffic τ) : Prop where
  known_eq_latest : ∀ turns c id, (X.run turns).known c id = latest c id (X.run turns).changes
  /-- Every registration that succeeds is among the changes, under the id the tracer was told. -/
  success_recorded : ∀ turns i c m, X.calls[i]? = some (.register c m) →
    (X.run turns).answer? i = some (.ok ()) →
    ∃ id issued, .registered c id issued ∈ (X.run turns).changes ∧
      X.Granted (X.run turns) i c id issued
  /-- No two clients' ids share an issued one. -/
  known_injective : ∀ turns c c' id id' issued, (X.run turns).known c id = some issued →
    (X.run turns).known c' id' = some issued → c = c' ∧ id = id'
  /-- An id is known by a registration of just this id, and the tracer was told of no other
  registration under the id that was issued for it. -/
  known_granted : ∀ turns c id issued, (X.run turns).known c id = some issued →
    ∃ i, X.Granted (X.run turns) i c id issued ∧
      ∀ j side odcid, .registered issued side odcid ∈ (X.run turns).told j → j = i
  /-- With its first turn an event finds the id it goes under, and with its second it goes to the
  tracer, once and for all. -/
  event_known : ∀ before i after c k m id e issued, X.calls[i]? = some (.event c k m) →
    Reports m k id e → i ∉ before → latest c id (X.run before).changes = some issued →
    if i ∈ after then (X.run (before ++ i :: after)).told i = [.recorded issued e]
    else (X.run (before ++ i :: after)).told i = [] ∧
      (X.run (before ++ i :: after)).answer? i = none
  /-- An event under an id that is not known is refused and not told to the tracer. -/
  event_unknown : ∀ before i after c k m id e, X.calls[i]? = some (.event c k m) →
    Reports m k id e → i ∉ before → latest c id (X.run before).changes = none →
    (X.run (before ++ i :: after)).told i = [] ∧ (X.run (before ++ i :: after)).answer? i =
      some (.error ⟨.unknownTracingId, TracerMessage.methodFor k ++ ": tracing id " ++
        Nat.repr id.number.toNat ++ " was never registered"⟩)
  /-- No kind of event makes an id known or unknown, `EventKind.close` included. -/
  event_keeps : ∀ turns i c k m, X.calls[i]? = some (.event c k m) →
    ∀ c' id', (X.run (turns ++ [i])).known c' id' = (X.run turns).known c' id'
  /-- A registration changes what is known only with the turn that grants it. -/
  failure_keeps : ∀ turns i c m, X.calls[i]? = some (.register c m) →
    (X.run (turns ++ [i])).answer? i ≠ some (.ok ()) →
    ∀ c' id', (X.run (turns ++ [i])).known c' id' = (X.run turns).known c' id'
  /-- When a client is released all its ids are forgotten, and no other client's. -/
  released : ∀ turns i c, X.calls[i]? = some (.release c) → i ∉ turns →
    ∀ c' id', (X.run (turns ++ [i])).known c' id' =
      if c' = c then none else (X.run turns).known c' id'

/-! ### The ids issued -/

lemma length_le_countP {α : Type} {p : α → Bool} {calls : List α} {l : List Nat} (hl : l.Nodup)
    (h : ∀ i ∈ l, ∃ call, calls[i]? = some call ∧ p call) : l.length ≤ calls.countP p := by
  have hsub : l ⊆ calls.findIdxs p 0 := by
    intro i hi
    obtain ⟨call, hcall, hp⟩ := h i hi
    obtain ⟨hlt, rfl⟩ := List.getElem?_eq_some_iff.mp hcall
    exact (List.mem_findIdxs_iff_pos_getElem hlt).mpr hp
  calc l.length ≤ (calls.findIdxs p 0).length := (List.subperm_of_subset hl hsub).length_le
    _ = calls.countP p := List.length_findIdxs

/-- The calls that were issued ids, with these, the latest first: each is a registration and was
issued one, and the ids count up from one. -/
structure Mints (calls : List TracerCall) (mints : List (Nat × TracingId))
    (ids : TracingIdAllocator) : Prop where
  registration : ∀ i ∈ mints.map Prod.fst, ∃ call, calls[i]? = some call ∧ call.isRegistration
  once : (mints.map Prod.fst).Nodup
  bounded : ∀ issued ∈ mints.map Prod.snd, issued.number.toNat ≤ mints.length
  distinct : (mints.map Prod.snd).Nodup
  next : ids.next.number = UInt64.ofNat (mints.length + 1)

namespace Mints

variable {calls : List TracerCall} {mints : List (Nat × TracingId)} {ids : TracingIdAllocator}
  {i j : Nat}

lemma initial : Mints calls [] {} where
  registration := by simp
  once := List.nodup_nil
  bounded := by simp
  distinct := List.nodup_nil
  next := rfl

/-- As long as there are numbers left, the next one was not issued before. -/
lemma issue (h : Mints calls mints ids)
    (hcalls : calls.countP TracerCall.isRegistration < UInt64.size) (hi : mints.lookup i = none)
    {call : TracerCall} (hc : calls[i]? = some call) (hreg : call.isRegistration) :
    Mints calls ((i, ids.allocate.1) :: mints) ids.allocate.2 := by
  have honce : (((i, ids.allocate.1) :: mints).map Prod.fst).Nodup := by
    refine List.nodup_cons.mpr ⟨fun hmem => ?_, h.once⟩
    obtain ⟨p, hp, hpi⟩ := List.mem_map.mp hmem
    exact bne_iff_ne.mp (List.lookup_eq_none_iff.mp hi p hp) hpi.symm
  have hregistration : ∀ j ∈ ((i, ids.allocate.1) :: mints).map Prod.fst,
      ∃ call, calls[j]? = some call ∧ call.isRegistration := by
    rw [List.map_cons, List.forall_mem_cons]
    exact ⟨⟨call, hc, hreg⟩, h.registration⟩
  -- With this one there are still no more ids than registrations, so the number did not wrap.
  have hlength : mints.length + 1 < UInt64.size := by
    have hle := length_le_countP honce hregistration
    simp only [List.length_map, List.length_cons] at hle
    omega
  have hnumber : ids.allocate.1.number.toNat = mints.length + 1 := by
    show ids.next.number.toNat = _
    rw [h.next, UInt64.toNat_ofNat_of_lt' hlength]
  refine ⟨hregistration, honce, ?_, ?_, ?_⟩
  · rw [List.map_cons, List.forall_mem_cons, List.length_cons]
    exact ⟨Nat.le_of_eq hnumber, fun issued hmem => Nat.le_succ_of_le (h.bounded issued hmem)⟩
  · refine List.nodup_cons.mpr ⟨fun hmem => ?_, h.distinct⟩
    have hle := h.bounded ids.allocate.1 hmem
    omega
  · show ids.next.number + 1 = _
    rw [h.next, List.length_cons]
    simp [UInt64.ofNat_add]

/-- An id is issued once only. -/
lemma eq_of_lookup (h : Mints calls mints ids) {issued : TracingId}
    (hi : mints.lookup i = some issued) (hj : mints.lookup j = some issued) : i = j := by
  have hmem {k : Nat} (hk : mints.lookup k = some issued) : (k, issued) ∈ mints :=
    (Dictionary.lookup_eq_some_iff_mem h.once k issued).mp hk
  exact congrArg Prod.fst (List.inj_on_of_nodup_map h.distinct (hmem hi) (hmem hj) rfl)

/-- A turn issues at most one id, for its own call. -/
lemma turn (h : Mints calls mints ids)
    (hcalls : calls.countP TracerCall.isRegistration < UInt64.size) {call : TracerCall}
    (hc : calls[i]? = some call) {b b' : ConnectionBook} (hb : b.ids = ids)
    {minted : Option TracingId} {change : Option Change}
    (hturn : Turn call b (mints.lookup i) minted change b') :
    ∃ mints', Mints calls mints' b'.ids ∧ mints'.lookup i = minted ∧
      ∀ j, j ≠ i → mints'.lookup j = mints.lookup j := by
  subst hb
  generalize hlookup : mints.lookup i = before at hturn
  cases hturn with
  | issues hreg =>
    refine ⟨_, h.issue hcalls hlookup hc hreg, ?_, fun j hj => ?_⟩
    · simp only [List.lookup_cons, beq_self_eq_true]
      rfl
    · have hbeq : (j == i) = false := by simpa using hj
      simp only [List.lookup_cons, hbeq]
  | keeps => exact ⟨mints, h, hlookup, fun _ _ => rfl⟩
  | changes _ change =>
    refine ⟨mints, ?_, hlookup, fun _ _ => rfl⟩
    cases change with
    | registered c id issued => exact h
    | released c => exact h

end Mints

variable {X : Traffic τ} {r : TracerRun τ} {i : Nat} {call : TracerCall}
  {mints : List (Nat × TracingId)}

/-- What changes in the book is what changes the latest registration. -/
lemma Turn.get?_eq_latest {b b' : ConnectionBook} {minted minted' : Option TracingId}
    {change : Option Change} (h : Turn call b minted minted' change b') {rest : List Change}
    (hb : ∀ c id, b.connections.get? (c, id) = latest c id rest) (c : ClientId) (id : TracingId) :
    b'.connections.get? (c, id) = latest c id (change.toList ++ rest) := by
  cases h with
  | issues => exact hb c id
  | keeps => exact hb c id
  | changes _ change =>
    rw [Option.toList_some, List.singleton_append]
    cases change with
    | registered c' id' issued =>
      simp only [Change.apply, ConnectionBook.insert, Dictionary.get?_insert, latest, hb,
        Prod.mk.injEq, eq_comm]
    | released c' =>
      simp only [Change.apply, ConnectionBook.release, Dictionary.get?_restrict, latest, hb]
      by_cases h : c' = c
      · simp [h]
      · simp [h, Ne.symm h]

/-! ### The invariant of a run -/

/-- What is kept in a run, `mints` being the ids that were issued. -/
structure Kept (X : Traffic τ) (mints : List (Nat × TracingId)) (r : TracerRun τ) : Prop where
  minted : Mints X.calls mints r.book.ids
  stage : ∀ (i : Nat) (call : TracerCall), X.calls[i]? = some call →
    ∃ task, r.pool.tasks[i]? = some task ∧
      Stage X.tracer i call (mints.lookup i) (r.told i) task
  absent : ∀ i : Nat, X.calls[i]? = none → r.pool.tasks[i]? = none ∧ r.told i = []
  known : ∀ c id, r.known c id = latest c id r.changes
  granted : ∀ c id issued, .registered c id issued ∈ r.changes →
    ∃ i, X.Granted r i c id issued
  recorded : ∀ (i : Nat) (c : ClientId) (m : TracerMessage),
    X.calls[i]? = some (.register c m) → r.answer? i = some (.ok ()) →
    ∃ id issued, .registered c id issued ∈ r.changes ∧ X.Granted r i c id issued

lemma Kept.initial : Kept X [] X.initial where
  minted := Mints.initial
  stage i call hc := by
    refine ⟨call.serve X.tracer i, ?_, .fresh call⟩
    simp only [Traffic.initial, List.getElem?_mapIdx, hc, Option.map_some]
  absent i hc := by
    refine ⟨?_, rfl⟩
    simp only [Traffic.initial, List.getElem?_mapIdx, hc, Option.map_none]
  known _ _ := rfl
  granted _ _ _ h := nomatch h
  recorded i c m hc h := by
    simp only [TracerRun.answer?, Pool.answer?, Traffic.initial, List.getElem?_mapIdx, hc,
      Option.map_some, Option.bind_some] at h
    obtain ⟨id, issued, side, odcid, -, htold⟩ :=
      (Stage.fresh (T := X.tracer) (i := i) (.register c m)).told_of_granted h
    cases htold

lemma Stepped.granted {minted minted' : Option TracingId}
    (h : Stepped X r (X.step r i) i call minted minted') {j : Nat} {c : ClientId}
    {id issued : TracingId} (hg : X.Granted r j c id issued) :
    X.Granted (X.step r i) j c id issued := by
  obtain ⟨m, side, odcid, hc, hid, htold, hanswer⟩ := hg
  exact ⟨m, side, odcid, hc, hid, h.told_mono htold, Traffic.answer?_step hanswer⟩

/-- A change that makes an id known is due to a registration of it that was just granted. -/
lemma Traffic.granted_of_change? {o : Option (Except MethodError Unit)} {c : ClientId}
    {id issued : TracingId} (hc : X.calls[i]? = some call)
    (h : call.change? (r.told i) (arising o (r.answer? i)) = some (.registered c id issued)) :
    X.Granted r i c id issued := by
  cases call with
  | register c' m =>
    obtain ⟨id', issued', side, odcid, heq, hid, htold, hanswer⟩ := change?_register h
    cases heq
    exact ⟨m, side, odcid, hc, hid, htold ▸ List.mem_singleton_self _, arising_eq_some hanswer⟩
  | event c' k m => cases h
  | release c' =>
    cases ho : arising o (r.answer? i) with
    | none =>
      rw [ho] at h
      cases h
    | some a =>
      rw [ho] at h
      cases h

/-- The turn that grants a registration puts it among the changes. -/
lemma Stepped.recorded {c : ClientId} {m : TracerMessage} {minted minted' : Option TracingId}
    (h : Stepped X r (X.step r i) i (.register c m) minted minted')
    (hc : X.calls[i]? = some (.register c m)) (hbefore : r.answer? i ≠ some (.ok ()))
    (ho : (X.step r i).answer? i = some (.ok ())) :
    ∃ id issued, .registered c id issued ∈ (X.step r i).changes ∧
      X.Granted (X.step r i) i c id issued := by
  obtain ⟨task, ht, hstage⟩ := h.stage
  obtain ⟨change, -, hchange, hchanges⟩ := h.turn
  have htask : task.answer? = some (.ok ()) := by
    rwa [TracerRun.answer?, Pool.answer?, ht, Option.bind_some] at ho
  obtain ⟨id, issued, side, odcid, hid, htold⟩ := hstage.told_of_granted htask
  have hnone : r.answer? i = none := by
    refine Option.eq_none_iff_forall_ne_some.mpr fun o hsome => hbefore ?_
    rw [hsome, ← Traffic.answer?_step hsome, ho]
  have hnew : change = some (.registered c id issued) := by
    rw [hchange, hnone, ho, htold]
    simp [arising, TracerCall.change?, hid]
  exact ⟨id, issued, by simp [hchanges, hnew], Traffic.granted_of_change? hc (hchange ▸ hnew)⟩

lemma Kept.step (h : Kept X mints r)
    (hcalls : X.calls.countP TracerCall.isRegistration < UInt64.size) (i : Nat) :
    ∃ mints', Kept X mints' (X.step r i) := by
  cases hc : X.calls[i]? with
  | none =>
    refine ⟨mints, ?_⟩
    rw [Traffic.step_of_none hc (h.absent i hc).1]
    exact h
  | some call =>
    obtain ⟨task, ht, hstage⟩ := h.stage i call hc
    obtain ⟨minted', hstep⟩ := Traffic.stepped hc ht hstage
    obtain ⟨change, hturn, hchange, hchanges⟩ := hstep.turn
    obtain ⟨mints', hmints, hself, hother⟩ := h.minted.turn hcalls hc rfl hturn
    have htasks (j : Nat) (hj : j ≠ i) : (X.step r i).pool.tasks[j]? = r.pool.tasks[j]? := by
      rw [Traffic.tasks_step, if_neg hj.symm]
    refine ⟨mints', {
      minted := hmints
      stage := fun j call' hj => ?_
      absent := fun j hj => ?_
      known := fun c id => ?_
      granted := fun c id issued hmem => ?_
      recorded := fun j c m hj ho => ?_ }⟩
    · by_cases hji : j = i
      · subst hji
        obtain rfl := Option.some.inj (hc.symm.trans hj)
        rw [hself]
        exact hstep.stage
      · rw [hother j hji, hstep.told_of_ne j hji, htasks j hji]
        exact h.stage j call' hj
    · have hji : j ≠ i := by
        rintro rfl
        rw [hc] at hj
        cases hj
      rw [htasks j hji, hstep.told_of_ne j hji]
      exact h.absent j hj
    · rw [hchanges]
      exact hturn.get?_eq_latest h.known c id
    · rw [hchanges, List.mem_append] at hmem
      rcases hmem with hnew | hold
      · rw [Option.mem_toList, hchange] at hnew
        exact ⟨i, Traffic.granted_of_change? hc hnew⟩
      · obtain ⟨j, hj⟩ := h.granted c id issued hold
        exact ⟨j, hstep.granted hj⟩
    · -- A registration was granted before, or it is the one whose turn grants it now.
      by_cases hbefore : r.answer? j = some (.ok ())
      · obtain ⟨id, issued, hmem, hg⟩ := h.recorded j c m hj hbefore
        exact ⟨id, issued, hchanges ▸ List.mem_append_right _ hmem, hstep.granted hg⟩
      · have hji : j = i := by
          by_contra hji
          rw [TracerRun.answer?, Pool.answer?, htasks j hji] at ho
          exact hbefore ho
        subst hji
        obtain rfl := Option.some.inj (hc.symm.trans hj)
        exact hstep.recorded hc hbefore ho

lemma Traffic.kept (hcalls : X.calls.countP TracerCall.isRegistration < UInt64.size)
    (turns : List Nat) : ∃ mints, Kept X mints (X.run turns) := by
  induction turns using List.reverseRecOn with
  | nil => exact ⟨[], .initial⟩
  | append_singleton turns i ih =>
    obtain ⟨mints, h⟩ := ih
    rw [Traffic.run_append_singleton]
    exact h.step hcalls i

/-! ### Events -/

lemma Passing.of_known {T : Tracer τ} {k : EventKind} {id issued : TracingId}
    {e : ConnectionEvent} {turned : Bool} {told : List Notice}
    {task : ServiceTask τ} (h : Passing T i k id e (some issued) turned told task) :
    if turned then told = [.recorded issued e] else told = [] ∧ task.answer? = none := by
  cases h with
  | looked => exact ⟨rfl, rfl⟩
  | told => rfl

lemma Passing.of_unknown {T : Tracer τ} {k : EventKind} {id : TracingId} {e : ConnectionEvent}
    {turned : Bool} {told : List Notice}
    {task : ServiceTask τ} (h : Passing T i k id e none turned told task) :
    told = [] ∧
      task.answer? = some (.error (.unknownTracingId (TracerMessage.methodFor k) id)) := by
  cases h with
  | unknown => exact ⟨rfl, rfl⟩

lemma Kept.told_step_of_ne (h : Kept X mints r) {j : Nat} (hj : j ≠ i) :
    (X.step r i).told j = r.told j := by
  cases hc : X.calls[i]? with
  | none => rw [Traffic.step_of_none hc (h.absent i hc).1]
  | some call =>
    obtain ⟨task, ht, hstage⟩ := h.stage i call hc
    obtain ⟨minted', hstep⟩ := Traffic.stepped hc ht hstage
    exact hstep.told_of_ne j hj

/-- A call that had no turn yet has all before it. -/
lemma Traffic.fresh (hcalls : X.calls.countP TracerCall.isRegistration < UInt64.size)
    (hc : X.calls[i]? = some call) (turns : List Nat) (hi : i ∉ turns) :
    (X.run turns).pool.tasks[i]? = some (call.serve X.tracer i) ∧ (X.run turns).told i = [] := by
  induction turns using List.reverseRecOn with
  | nil =>
    refine ⟨?_, rfl⟩
    show X.initial.pool.tasks[i]? = _
    simp only [Traffic.initial, List.getElem?_mapIdx, hc, Option.map_some]
  | append_singleton turns j ih =>
    rw [List.mem_append, List.mem_singleton, not_or] at hi
    obtain ⟨mints, h⟩ := kept hcalls turns
    rw [run_append_singleton, tasks_step, if_neg (Ne.symm hi.2), h.told_step_of_ne hi.2]
    exact ih hi.1

/-- After its first turn an event stays on its way to the id it found then. -/
lemma Traffic.passing (hcalls : X.calls.countP TracerCall.isRegistration < UInt64.size)
    {c : ClientId} {k : EventKind} {m : TracerMessage} {id : TracingId} {e : ConnectionEvent}
    (hc : X.calls[i]? = some (.event c k m)) (hm : Reports m k id e) (before after : List Nat)
    (hi : i ∉ before) :
    ∃ task, (X.run (before ++ i :: after)).pool.tasks[i]? = some task ∧
      Passing X.tracer i k id e ((X.run before).known c id) (decide (i ∈ after))
        ((X.run (before ++ i :: after)).told i) task := by
  induction after using List.reverseRecOn with
  | nil =>
    obtain ⟨ht, htold⟩ := fresh hcalls hc before hi
    rw [serve_event hm] at ht
    have hjournal : (X.run before).pool.state.2.1 = (X.run before).pool.state.2.1 ++
        ([] : List Notice).map fun n => (i, n) := (List.append_nil _).symm
    rw [run_append_singleton, tasks_step, if_pos rfl, ht, told_step ht hjournal, htold, if_pos rfl]
    exact ⟨_, rfl, passing_pass ..⟩
  | append_singleton after j ih =>
    obtain ⟨task, ht, hpassing⟩ := ih
    have hturns : before ++ i :: (after ++ [j]) = (before ++ i :: after) ++ [j] := by simp
    rw [hturns, run_append_singleton, tasks_step]
    by_cases hj : j = i
    · subst hj
      obtain ⟨notices, hpassing', -, hjournal⟩ := hpassing.advance X.elapse
        (X.run (before ++ j :: after)).pool.state
      rw [if_pos rfl, ht, told_step ht hjournal, if_pos rfl]
      refine ⟨_, rfl, ?_⟩
      have hmem : decide (j ∈ after ++ [j]) = true := by simp
      rw [hmem]
      exact hpassing'
    · obtain ⟨mints, h⟩ := kept hcalls (before ++ i :: after)
      have hmem : decide (i ∈ after ++ [j]) = decide (i ∈ after) := by simp [Ne.symm hj]
      rw [if_neg hj, h.told_step_of_ne (Ne.symm hj), hmem]
      exact ⟨task, ht, hpassing⟩

/-! ### All runs -/

lemma mem_of_latest {c : ClientId} {id issued : TracingId} {changes : List Change}
    (h : latest c id changes = some issued) : .registered c id issued ∈ changes := by
  induction changes with
  | nil => cases h
  | cons change rest ih =>
    cases change with
    | registered c' id' issued' =>
      rw [latest] at h
      split_ifs at h with hkey
      · obtain ⟨rfl, rfl⟩ := hkey
        cases h
        exact List.mem_cons_self
      · exact List.mem_cons_of_mem _ (ih h)
    | released c' =>
      rw [latest] at h
      split_ifs at h
      exact List.mem_cons_of_mem _ (ih h)

lemma Kept.known_granted (h : Kept X mints r) {c : ClientId} {id issued : TracingId}
    (hknown : r.known c id = some issued) : ∃ i, X.Granted r i c id issued :=
  h.granted c id issued (mem_of_latest (h.known c id ▸ hknown))

lemma Kept.lookup_of_told (h : Kept X mints r) {issued : TracingId} {side : Perspective}
    {odcid : ConnectionId} (hi : .registered issued side odcid ∈ r.told i) :
    mints.lookup i = some issued := by
  cases hc : X.calls[i]? with
  | none =>
    rw [(h.absent i hc).2] at hi
    cases hi
  | some call =>
    obtain ⟨task, -, hstage⟩ := h.stage i call hc
    exact hstage.minted_of_mem hi

/-- The tracer is told of different registrations under different ids. -/
lemma Kept.eq_of_told (h : Kept X mints r) {i j : Nat} {issued : TracingId}
    {side side' : Perspective} {odcid odcid' : ConnectionId}
    (hi : .registered issued side odcid ∈ r.told i)
    (hj : .registered issued side' odcid' ∈ r.told j) : i = j :=
  h.minted.eq_of_lookup (h.lookup_of_told hi) (h.lookup_of_told hj)

lemma Kept.known_step (h : Kept X mints r) (hc : X.calls[i]? = some call)
    (hchange : call.change? ((X.step r i).told i)
      (arising (r.answer? i) ((X.step r i).answer? i)) = none) (c : ClientId) (id : TracingId) :
    (X.step r i).known c id = r.known c id := by
  obtain ⟨task, ht, hstage⟩ := h.stage i call hc
  obtain ⟨minted', hstep⟩ := Traffic.stepped hc ht hstage
  obtain ⟨change, hturn, rfl, -⟩ := hstep.turn
  rw [hchange] at hturn
  exact congrArg (fun d => d.get? (c, id)) hturn.connections_of_none

/-- Whatever becomes of the registrations and events of a tracer's clients, in whatever order they
take turns, the connections of different clients are never mixed up. -/
theorem Traffic.keepsApart (X : Traffic τ)
    (hcalls : X.calls.countP TracerCall.isRegistration < UInt64.size) : X.KeepsApart where
  known_eq_latest turns c id := by
    obtain ⟨mints, h⟩ := kept hcalls turns
    exact h.known c id
  success_recorded turns i c m hc ho := by
    obtain ⟨mints, h⟩ := kept hcalls turns
    exact h.recorded i c m hc ho
  known_injective turns c c' id id' issued hknown hknown' := by
    obtain ⟨mints, h⟩ := kept hcalls turns
    obtain ⟨i, m, side, odcid, hc, hid, htold, -⟩ := h.known_granted hknown
    obtain ⟨j, m', side', odcid', hc', hid', htold', -⟩ := h.known_granted hknown'
    obtain rfl := h.eq_of_told htold htold'
    cases hc.symm.trans hc'
    exact ⟨rfl, Option.some.inj (hid.symm.trans hid')⟩
  known_granted turns c id issued hknown := by
    obtain ⟨mints, h⟩ := kept hcalls turns
    obtain ⟨i, hi⟩ := h.known_granted hknown
    refine ⟨i, hi, fun j side odcid hj => ?_⟩
    obtain ⟨m, side', odcid', -, -, htold, -⟩ := hi
    exact h.eq_of_told hj htold
  event_known before i after c k m id e issued hc hm hi hlatest := by
    obtain ⟨mints, h⟩ := kept hcalls before
    obtain ⟨task, ht, hpassing⟩ := passing hcalls hc hm before after hi
    rw [h.known c id, hlatest] at hpassing
    have hknown := hpassing.of_known
    simp only [decide_eq_true_eq] at hknown
    rwa [TracerRun.answer?, Pool.answer?, ht]
  event_unknown before i after c k m id e hc hm hi hlatest := by
    obtain ⟨mints, h⟩ := kept hcalls before
    obtain ⟨task, ht, hpassing⟩ := passing hcalls hc hm before after hi
    rw [h.known c id, hlatest] at hpassing
    rw [TracerRun.answer?, Pool.answer?, ht, ← MethodError.unknownTracingId_eq]
    exact hpassing.of_unknown
  event_keeps turns i c k m hc c' id' := by
    obtain ⟨mints, h⟩ := kept hcalls turns
    rw [run_append_singleton]
    exact h.known_step hc rfl c' id'
  failure_keeps turns i c m hc hfail c' id' := by
    obtain ⟨mints, h⟩ := kept hcalls turns
    rw [run_append_singleton] at hfail ⊢
    exact h.known_step hc (change?_register_eq_none _ hfail) c' id'
  released turns i c hc hi c' id' := by
    obtain ⟨ht, -⟩ := fresh hcalls hc turns hi
    rw [run_append_singleton, TracerRun.known, TracerRun.book, state_step ht]
    show ((X.run turns).book.release c).connections.get? (c', id') = _
    rw [ConnectionBook.release, Dictionary.get?_restrict]
    by_cases h : c' = c
    · simp [h]
    · simp [h, TracerRun.known]

/-- A tracer that grants and refuses as listed. -/
def listedTracer : Tracer (List Bool) :=
  let answer : Procedure (List Bool) (Except PolicyError Unit) := .stretch fun verdicts =>
    (if verdicts.headD true then .ok () else .error (.call (.connectionLost "closed")),
      verdicts.tail)
  { register := fun _ _ _ => answer, record := fun _ _ => answer }

/-- Two clients with the same id, of which one registers it twice and the other leaves. -/
def twoClients : Traffic (List Bool) :=
  let m : TracerMessage :=
    { tracingId := some ⟨7⟩, perspective := some .client, odcid := some ⟨[]⟩ }
  { tracer := listedTracer
    elapse := fun _ s => s
    calls := [.register ⟨1⟩ m, .register ⟨2⟩ m, .register ⟨1⟩ m, .event ⟨1⟩ .close m, .release ⟨2⟩,
      .event ⟨2⟩ .close m, .event ⟨1⟩ .close m]
    start := [true, true, false] }

/-- The first client's second registration fails, and after the event that closes its connection
one more reaches the tracer, while the other client has left. -/
theorem Traffic.keepsApart_twoClients :
    let before := [0, 1, 1, 0, 0, 1, 1, 0, 2, 2, 2, 3, 3, 3, 4]
    twoClients.calls.countP TracerCall.isRegistration < UInt64.size ∧
    (twoClients.run before).known ⟨1⟩ ⟨7⟩ = some ⟨1⟩ ∧
    (twoClients.run before).known ⟨2⟩ ⟨7⟩ = none ∧
    (twoClients.run (before ++ 5 :: [])).answer? 5 =
      some (.error ⟨.unknownTracingId,
        "ConnectionTracer.Close: tracing id 7 was never registered"⟩) ∧
    (twoClients.run (before ++ 6 :: [6, 6])).told 6 = [.recorded ⟨1⟩ .close] := by
  intro before
  have hcalls : twoClients.calls.countP TracerCall.isRegistration < UInt64.size := by decide
  have h := twoClients.keepsApart hcalls
  refine ⟨hcalls, ?_, ?_, ?_, ?_⟩
  · exact (h.known_eq_latest before ⟨1⟩ ⟨7⟩).trans rfl
  · exact (h.known_eq_latest before ⟨2⟩ ⟨7⟩).trans rfl
  · exact (h.event_unknown before 5 [] ⟨2⟩ .close _ ⟨7⟩ .close rfl ⟨rfl, rfl⟩ (by decide) rfl).2
  · exact h.event_known before 6 [6, 6] ⟨1⟩ .close _ ⟨7⟩ .close ⟨1⟩ rfl ⟨rfl, rfl⟩ (by decide) rfl

end PathPolicy.Remote
