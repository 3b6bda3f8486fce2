import PathPolicy.Proofs.ClientMachine

/-!
# What the steps of a client keep

Each fact about one call is kept by the turns of the call, each fact about the tasks by their
shifts. A call that can be reached has no outcome yet, and only entering makes a call reachable. A
task that fails the connection has still to look at, or to fail, every call that it may reach.
-/

namespace PathPolicy.Call

variable {n : Nat}

/-! ### What the turns of a call keep -/

/-- The call has no outcome yet and was not refused. -/
def Ongoing.Pending (o : Ongoing) : Prop := o.outcome = none ∧ ∀ e, o.stage ≠ .refused e

/-- The call waits for room in the queue or for its response. -/
def Ongoing.Waits (o : Ongoing) : Prop := (∃ request, o.stage = .queueing request) ∨ o.stage = .awaiting

variable {m : Machine n} {s : Step} {id : UInt64} {v v' : View}

lemma Turn.routed_iff (h : Turn m s id v v')
    (hv : v.routed ↔ ∃ o, v.call = some o ∧ o.Pending) :
    v'.routed ↔ ∃ o, v'.call = some o ∧ o.Pending := by
  cases h with
  | kept => exact hv
  | entered => simp [Ongoing.Pending]
  | passed => simpa [Ongoing.Pending] using hv
  | queued => simpa [Ongoing.Pending] using hv
  | refused => simp [Ongoing.Pending]
  | answered => simp [Ongoing.Pending]
  | gone => simp

lemma Turn.passed_of_waits (h : Turn m s id v v')
    (hv : ∀ o, v.call = some o → o.Waits → v.passed) {o : Ongoing} (ho : v'.call = some o)
    (hw : o.Waits) : v'.passed := by
  cases h with
  | kept => exact hv o ho hw
  | entered =>
    obtain rfl := Option.some.inj ho
    simp [Ongoing.Waits] at hw
  | passed => trivial
  | queued => exact hv _ rfl (.inl ⟨_, rfl⟩)
  | refused =>
    obtain rfl := Option.some.inj ho
    simp [Ongoing.Waits] at hw
  | answered =>
    obtain ⟨o', ho', rfl⟩ := Option.map_eq_some_iff.mp ho
    exact hv o' ho' hw
  | gone => simp at ho

lemma Turn.passed_or (h : Turn m s id v v') (hp : v'.passed) : v.passed ∨ m.client.closed = false := by
  cases h with
  | passed hopen => exact .inr hopen
  | _ => exact .inl hp

lemma Turn.known_of_passed (h : Turn m s id v v') (hp : v'.passed) : v.call ≠ none ∨ v.passed := by
  cases h with
  | passed => exact .inl (by simp)
  | _ => exact .inr hp

lemma Turn.passed_mono (h : Turn m s id v v') (hp : v.passed) : v'.passed := by
  cases h with
  | passed => trivial
  | _ => exact hp

lemma Turn.routed_or (h : Turn m s id v v') (hr : v'.routed) :
    v.routed ∨ (∃ method payload, s = .enter method payload) ∧ id = m.client.nextId := by
  cases h with
  | entered _ hs hid => exact .inr ⟨⟨_, _, hs⟩, hid⟩
  | refused => exact hr.elim
  | answered => exact hr.elim
  | gone => exact hr.elim
  | _ => exact .inl hr

lemma Turn.call_eq_none (h : Turn m s id v v') (hv : v.call = none) :
    v'.call = none ∨ (∃ method payload, s = .enter method payload) ∧ id = m.client.nextId := by
  cases h with
  | kept => exact .inl hv
  | entered _ hs hid => exact .inr ⟨⟨_, _, hs⟩, hid⟩
  | answered => exact .inl (by simpa using hv)
  | gone => exact .inl rfl
  | passed => simp at hv
  | queued => simp at hv
  | refused => simp at hv

lemma Turn.known_or (h : Turn m s id v v') (hv : v'.call ≠ none ∨ v'.passed) :
    (v.call ≠ none ∨ v.passed) ∨
      (∃ method payload, s = .enter method payload) ∧ id = m.client.nextId := by
  by_cases hc : v.call = none
  · rcases h.call_eq_none hc with hc' | he
    · refine .inl (.inr ?_)
      have hp := hv.resolve_left (fun h => h hc')
      cases h with
      | passed => simp at hc
      | _ => exact hp
    · exact .inr he
  · exact .inl (.inl hc)

/-- The request that the call has still to hand over. -/
def Ongoing.request? (o : Ongoing) : Option Frame :=
  match o.stage with
  | .entered request | .queueing request => some request
  | _ => none

lemma Turn.request (h : Turn m s id v v') {o : Ongoing} {f : Frame} (ho : v'.call = some o)
    (hf : o.request? = some f) :
    (∃ o, v.call = some o ∧ o.request? = some f) ∨ ∃ method payload,
      s = .enter method payload ∧ id = m.client.nextId ∧ f = ⟨id, .request method payload⟩ := by
  cases h with
  | kept => exact .inl ⟨o, ho, hf⟩
  | entered _ hs hid =>
    obtain rfl := Option.some.inj ho
    exact .inr ⟨_, _, hs, hid, (Option.some.inj hf).symm⟩
  | passed =>
    obtain rfl := Option.some.inj ho
    exact .inl ⟨_, rfl, hf⟩
  | queued =>
    obtain rfl := Option.some.inj ho
    simp [Ongoing.request?] at hf
  | refused =>
    obtain rfl := Option.some.inj ho
    simp [Ongoing.request?] at hf
  | answered =>
    obtain ⟨o', ho', rfl⟩ := Option.map_eq_some_iff.mp ho
    exact .inl ⟨o', ho', hf⟩
  | gone => simp at ho

lemma Turn.outcome (h : Turn m s id v v') {o : Ongoing} {reply : Reply} (ho : v'.call = some o)
    (hr : o.outcome = some reply) :
    (∃ o, v.call = some o ∧ o.outcome = some reply) ∨ v.routed ∧ Gives m id s reply := by
  cases h with
  | kept => exact .inl ⟨o, ho, hr⟩
  | entered =>
    obtain rfl := Option.some.inj ho
    simp at hr
  | answered hg =>
    obtain ⟨o', ho', rfl⟩ := Option.map_eq_some_iff.mp ho
    obtain rfl := Option.some.inj hr
    exact .inr ⟨trivial, hg⟩
  | gone => simp at ho
  | _ =>
    obtain rfl := Option.some.inj ho
    exact .inl ⟨_, rfl, hr⟩

lemma Turn.refusal (h : Turn m s id v v') {o : Ongoing} {e : CallError} (ho : v'.call = some o)
    (he : o.stage = .refused e) :
    (∃ o, v.call = some o ∧ o.stage = .refused e) ∨
      e = m.client.lostError ∧ (m.client.closed = true ∨ m.client.writing = false) := by
  cases h with
  | kept => exact .inl ⟨o, ho, he⟩
  | refused h =>
    obtain rfl := Option.some.inj ho
    exact .inr ⟨(Stage.refused.inj he).symm, h.imp And.right And.right⟩
  | answered =>
    obtain ⟨o', ho', rfl⟩ := Option.map_eq_some_iff.mp ho
    exact .inl ⟨o', ho', he⟩
  | gone => simp at ho
  | _ =>
    obtain rfl := Option.some.inj ho
    simp at he

lemma Turn.not_passed (h : Turn m s id v v')
    (hnew : (∃ method payload, s = .enter method payload) → id = m.client.nextId → ¬v.passed)
    (hv : ∀ o f, v.call = some o → o.stage = .entered f → ¬v.passed) {o : Ongoing} {f : Frame}
    (ho : v'.call = some o) (hf : o.stage = .entered f) : ¬v'.passed := by
  cases h with
  | kept => exact hv o f ho hf
  | entered _ hs hid => exact hnew ⟨_, _, hs⟩ hid
  | answered =>
    obtain ⟨o', ho', rfl⟩ := Option.map_eq_some_iff.mp ho
    exact hv o' f ho' hf
  | gone => simp at ho
  | _ =>
    obtain rfl := Option.some.inj ho
    simp at hf

/-- A call that passed is refused only after it was given an outcome. -/
lemma Turn.outcome_of_refused (h : Turn m s id v v')
    (hv : ∀ o e, v.call = some o → o.stage = .refused e → v.passed → o.outcome ≠ none)
    (hnew : ∀ o f, v.call = some o → o.stage = .entered f → ¬v.passed)
    (hstop : m.client.writing = false → ∀ o f, v.call = some o → o.stage = .queueing f →
      v.passed → o.outcome ≠ none)
    {o : Ongoing} {e : CallError} (ho : v'.call = some o) (he : o.stage = .refused e)
    (hp : v'.passed) : o.outcome ≠ none := by
  cases h with
  | kept => exact hv o e ho he hp
  | refused h =>
    obtain rfl := Option.some.inj ho
    rcases h with ⟨rfl, -⟩ | ⟨rfl, hw⟩
    · exact absurd hp (hnew ⟨.entered _, _⟩ _ rfl rfl)
    · exact hstop hw ⟨.queueing _, _⟩ _ rfl rfl hp
  | answered =>
    obtain ⟨o', ho', rfl⟩ := Option.map_eq_some_iff.mp ho
    simp
  | gone => simp at ho
  | _ =>
    obtain rfl := Option.some.inj ho
    simp at he

/-! ### What the shifts of the tasks keep -/

variable {part : UInt64 → Fin n} {m' : Machine n}

def Step.entering : Step → Nat
  | .enter .. => 1
  | _ => 0

/-- What every step does to what the calls share. -/
structure Kept (m m' : Machine n) (s : Step) : Prop where
  nextId : m'.client.nextId = m.client.nextId + UInt64.ofNat s.entering
  frameLimit : m'.client.frameLimit = m.client.frameLimit
  closed : m.client.closed = true → m'.client.closed = true
  queues : m.Queues m'
  returns : m.Returns m'

lemma Shift.kept (h : Shift part m m' s) : Kept m m' s := by
  have hnext (c : UInt64) (hs : s.entering = 0) : c = c + UInt64.ofNat s.entering := by simp [hs]
  have hmem {c : List Frame} (f : Frame) (hf : f ∈ c) : f ∈ c ∨
      ∃ id outcome, m.client.ongoing.get? id = some ⟨.queueing f, outcome⟩ := .inl hf
  cases h with
  | quiet hs _ _ hc hq hr =>
    refine ⟨?_, hc.frameLimit, fun h => hc.closed.trans h, hq, hr⟩
    rw [hc.nextId]
    cases s with
    | enter method payload => exact absurd rfl (hs method payload)
    | _ => exact hnext _ rfl
  | entered hm =>
    rw [hm]
    exact ⟨rfl, rfl, id, hmem, .inl rfl⟩
  | @blamed side _ _ hm =>
    rw [hm]
    cases side <;> exact ⟨hnext _ rfl, rfl, id, hmem, .inl rfl⟩
  | @shut side _ hm =>
    rw [hm]
    cases side <;> exact ⟨hnext _ rfl, rfl, fun _ => rfl, hmem, .inl rfl⟩
  | @looked side _ _ _ _ hm =>
    rw [hm]
    cases side <;> exact ⟨hnext _ rfl, rfl, id, hmem, .inl rfl⟩
  | @failed side j _ _ hm =>
    have hc := m.client.alike_deliver j (.error m.client.lostError)
    have hq : ∀ f ∈ (m.client.failOne j).queue, f ∈ m.client.queue ∨
        ∃ id outcome, m.client.ongoing.get? id = some ⟨.queueing f, outcome⟩ := by
      rw [Client.failOne, Client.queue_deliver]
      exact hmem
    rw [hm]
    cases side <;> exact ⟨hc.nextId.trans (hnext _ rfl), hc.frameLimit, fun h => hc.closed.trans h,
      hq, .inl rfl⟩
  | @stopped side _ hm =>
    rw [hm]
    cases side with
    | writer => exact ⟨hnext _ rfl, rfl, id, by simp [Machine.Queues, Machine.setTask,
        Client.stop, Client.stopWriting], .inl rfl⟩
    | reader => exact ⟨hnext _ rfl, rfl, id, hmem, .inl rfl⟩

structure Flags (m : Machine n) : Prop where
  blamed : ∀ side, m.task side ≠ .running → m.client.reason.isSome
  failing : ∀ side unseen found, m.task side = .failing unseen found → m.client.closed = true
  stopped : ∀ side, m.task side = .stopped → m.client.closed = true
  reason : m.client.closed = true → m.client.reason.isSome
  writing : m.client.writing = false → m.writer = .stopped

lemma Flags.setTask (hf : Flags m) {c : Client} {t : Task n} {side : Side}
    (hr : c.reason.isSome) (hc : m.client.closed = true → c.closed = true)
    (ht : (∃ unseen found, t = .failing unseen found) ∨ t = .stopped → c.closed = true)
    (hw : c.writing = false → ({ m with client := c }.setTask t side).writer = .stopped) :
    Flags ({ m with client := c }.setTask t side) where
  blamed _ _ := by
    rw [Machine.client_setTask]
    exact hr
  failing side' unseen found h := by
    rw [Machine.task_setTask] at h
    rw [Machine.client_setTask]
    split_ifs at h
    · exact ht (.inl ⟨unseen, found, h⟩)
    · exact hc (hf.failing side' unseen found h)
  stopped side' h := by
    rw [Machine.task_setTask] at h
    rw [Machine.client_setTask]
    split_ifs at h
    · exact ht (.inr h)
    · exact hc (hf.stopped side' h)
  reason _ := by
    rw [Machine.client_setTask]
    exact hr
  writing h := hw (by rwa [Machine.client_setTask] at h)

lemma Shift.flags (h : Shift part m m' s) (hf : Flags m) : Flags m' := by
  have hwriter {c : Client} {t : Task n} {side : Side} (hw : c.writing = m.client.writing)
      (ht : m.task side ≠ .stopped) (h : c.writing = false) :
      ({ m with client := c }.setTask t side).writer = .stopped := by
    have hm : m.writer = .stopped := hf.writing (hw ▸ h)
    cases side with
    | writer => exact absurd hm ht
    | reader => exact hm
  cases h with
  | quiet hs _ ht hc =>
    refine ⟨fun side => ?_, fun side => ?_, fun side => ?_, ?_, ?_⟩
    · rw [ht, hc.reason]
      exact hf.blamed side
    · rw [ht, hc.closed]
      exact hf.failing side
    · rw [ht, hc.closed]
      exact hf.stopped side
    · rw [hc.reason, hc.closed]
      exact hf.reason
    · rw [hc.writing, show m'.writer = m.writer from ht .writer]
      exact hf.writing
  | entered hm =>
    rw [hm]
    exact ⟨hf.blamed, hf.failing, hf.stopped, hf.reason, hf.writing⟩
  | blamed ht hm =>
    rw [hm]
    exact hf.setTask (by simp [Client.blame]) id (by simp) (hwriter rfl (by simp [ht]))
  | @shut side ht hm =>
    rw [hm]
    exact hf.setTask (hf.blamed side (by simp [ht])) (fun _ => rfl) (fun _ => rfl)
      (hwriter rfl (by simp [ht]))
  | @looked side _ _ _ ht hm =>
    rw [hm]
    exact hf.setTask (hf.blamed side (by simp [ht])) id (fun _ => hf.failing _ _ _ ht)
      (hwriter rfl (by simp [ht]))
  | @failed side j _ ht hm =>
    have hc := m.client.alike_deliver j (.error m.client.lostError)
    rw [hm]
    refine hf.setTask ?_ (fun h => hc.closed.trans h)
      (fun _ => hc.closed.trans (hf.failing _ _ _ ht)) (hwriter hc.writing (by simp [ht]))
    rw [Client.failOne, hc.reason]
    exact hf.blamed side (by simp [ht])
  | @stopped side ht hm =>
    have hclosed := hf.failing _ _ _ ht
    rw [hm]
    cases side with
    | writer => exact hf.setTask (hf.reason hclosed) id (fun _ => hclosed) fun _ => rfl
    | reader =>
      exact hf.setTask (hf.reason hclosed) id (fun _ => hclosed) (hwriter rfl (by simp [ht]))

def Step.reason? : Step → Option String
  | .fail _ reason => some reason
  | _ => none

/-- The first reason stays: a task that can give one still finds it in place. -/
lemma Shift.reason (h : Shift part m m' s) (hf : Flags m) :
    m'.client.reason = m.client.reason.or s.reason? := by
  have hnone (hs : s.reason? = none) : m.client.reason = m.client.reason.or s.reason? := by simp [hs]
  cases h with
  | quiet _ hrun _ hc =>
    rw [hc.reason]
    cases s with
    | fail side reason =>
      obtain ⟨first, hr⟩ := Option.isSome_iff_exists.mp (hf.blamed side (hrun side reason rfl))
      rw [hr, Option.some_or]
    | _ => exact hnone rfl
  | entered hm =>
    rw [hm]
    exact hnone rfl
  | blamed _ hm =>
    rw [hm, Machine.client_setTask]
    rfl
  | shut _ hm =>
    rw [hm, Machine.client_setTask]
    exact hnone rfl
  | looked _ hm =>
    rw [hm, Machine.client_setTask]
    exact hnone rfl
  | @failed _ j _ _ hm =>
    rw [hm, Machine.client_setTask]
    exact (m.client.alike_deliver j _).reason.trans (hnone rfl)
  | @stopped side _ hm =>
    rw [hm, Machine.client_setTask]
    cases side <;> exact hnone rfl

/-- The task has still to look at the call, or to fail it. -/
def Task.MayReach (part : UInt64 → Fin n) (id : UInt64) : Task n → Prop
  | .running | .blaming => True
  | .failing unseen found => part id ∈ unseen ∨ id ∈ found
  | .stopped => False

/-- The task has failed every call that it found. -/
def Task.Done : Task n → Prop
  | .failing [] [] | .stopped => True
  | _ => False

lemma Task.Done.not_mayReach {t : Task n} (h : t.Done) : ¬t.MayReach part id := by
  rcases t with _ | _ | ⟨_ | ⟨k, unseen⟩, _ | ⟨j, found⟩⟩ | _
  · exact h.elim
  · exact h.elim
  · simp [Task.MayReach]
  · exact h.elim
  · exact h.elim
  · exact h.elim
  · exact False.elim

/-- A task loses sight of a call only when the call can no longer be reached. -/
lemma Shift.mayReach (h : Shift part m m' s) {side : Side}
    (hr : (m.task side).MayReach part id) (hm : id ∈ m.client.routes)
    (hm' : id ∈ m'.client.routes) : (m'.task side).MayReach part id := by
  cases h with
  | quiet _ _ ht =>
    rw [ht]
    exact hr
  | entered he =>
    rw [he]
    exact hr
  | blamed _ he =>
    rw [he, Machine.task_setTask]
    split_ifs
    · trivial
    · exact hr
  | shut _ he =>
    rw [he, Machine.task_setTask]
    split_ifs
    · exact .inl (List.mem_finRange _)
    · exact hr
  | looked ht he =>
    rw [he, Machine.task_setTask]
    split_ifs with hs
    · rw [hs, ht] at hr
      rcases hr with hr | hr
      · rcases List.mem_cons.mp hr with hk | hr
        · exact .inr (List.mem_append_right _ (List.mem_filter.mpr ⟨hm, by simp [hk]⟩))
        · exact .inl hr
      · exact .inr (List.mem_append_left _ hr)
    · exact hr
  | failed ht he =>
    rw [he, Machine.client_setTask] at hm'
    rw [he, Machine.task_setTask]
    split_ifs with hs
    · rw [hs, ht] at hr
      have hne := (Client.mem_routes_deliver.mp hm').2
      exact .inr ((List.mem_erase_of_ne hne).mpr (hr.resolve_left (by simp)))
    · exact hr
  | stopped ht he =>
    rw [he, Machine.task_setTask]
    split_ifs with hs
    · rw [hs, ht] at hr
      simp [Task.MayReach] at hr
    · exact hr

end PathPolicy.Call
