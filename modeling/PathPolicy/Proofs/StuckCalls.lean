import PathPolicy.Proofs.ClientReplies

/-!
# Calls that a failed connection lets go

Once a task has failed the connection, a call that still goes on can come to its end by itself,
wherever it stands, with one exception. It cannot when it waits for room in a full queue while the
writer, who alone makes room, does not go on. Then nothing that others do brings it on.
-/

namespace PathPolicy.Call

/-- The writer takes no frame and does not stop, and the call is not given up. -/
def Step.LeavesWaiting (id : UInt64) : Step → Prop
  | .write | .stop .writer => False
  | .abandon j => j ≠ id
  | _ => True

def Ongoing.queues (o : Ongoing) : Bool :=
  match o.stage with
  | .queueing _ => true
  | _ => false

instance {n : Nat} : DecidablePred (@Task.Done n)
  | .failing [] [] | .stopped => isTrue trivial
  | .running | .blaming | .failing (_ :: _) _ | .failing [] (_ :: _) => isFalse id

namespace Client

/-- The call waits for room in the queue. -/
def Queueing (c : Client) (id : UInt64) : Prop :=
  ∃ request outcome, c.ongoing.get? id = some ⟨.queueing request, outcome⟩

variable {c : Client} {id : UInt64}

lemma Queueing.of_eq (h : c.Queueing id) {c' : Client}
    (hsame : c'.ongoing.get? id = c.ongoing.get? id) : c'.Queueing id := by
  obtain ⟨request, outcome, ho⟩ := h
  exact ⟨request, outcome, hsame.trans ho⟩

lemma Queueing.deliver (h : c.Queueing id) (j : UInt64) (reply : Reply) :
    (c.deliver j reply).Queueing id := by
  obtain ⟨request, outcome, ho⟩ := h
  unfold Queueing
  rw [get?_deliver]
  split_ifs with hj
  · rw [← hj.1, ho]
    exact ⟨request, some reply, rfl⟩
  · exact ⟨request, outcome, ho⟩

lemma Queueing.checkOpen (h : c.Queueing id) (j : UInt64) : (c.checkOpen j).Queueing id := by
  refine h.of_eq ?_
  obtain ⟨request, outcome, ho⟩ := h
  unfold Client.checkOpen
  split
  · rename_i entered hj
    have hne : id ≠ j := by
      rintro rfl
      simp [ho] at hj
    split <;> simp [get?_refuse, get?_update, hne]
  · rfl

lemma Queueing.abandon (h : c.Queueing id) {j : UInt64} (hj : id ≠ j) :
    (c.abandon j).Queueing id :=
  h.of_eq (by simp [get?_abandon, hj])

/-- It has not come to anything, so it does not return. -/
lemma Queueing.returnTo (h : c.Queueing id) (j : UInt64) : (c.returnTo j).2.Queueing id := by
  unfold Client.returnTo
  cases hr : (c.ongoing.get? j).bind Ongoing.reply? with
  | none => exact h
  | some reply =>
    refine h.abandon ?_
    obtain ⟨request, outcome, ho⟩ := h
    rintro rfl
    simp [ho, Ongoing.reply?] at hr

lemma Queueing.route (h : c.Queueing id) (f : Frame) : (c.route f).Queueing id := by
  unfold Client.route
  split
  · exact h
  · exact h.deliver _ _

lemma enqueue_of_full (hw : c.writing = true) (hfull : c.queue.length = queueCapacity)
    (j : UInt64) : c.enqueue j = c := by
  unfold enqueue
  split
  · simp [hw, hfull]
  · rfl

end Client

namespace Machine

variable {n : Nat}

/-- The call waits for room in a queue that is full and is still written from. -/
structure Stuck (m : Machine n) (id : UInt64) : Prop where
  waits : m.client.Queueing id
  full : m.client.queue.length = Client.queueCapacity
  writing : m.client.writing = true

variable {part : UInt64 → Fin n} {endpoint : String} {limit : Nat} {m : Machine n} {id : UInt64}

lemma stuck_iff : m.Stuck id ↔ (m.client.ongoing.get? id).any Ongoing.queues ∧
    m.client.queue.length = Client.queueCapacity ∧ m.client.writing = true := by
  constructor
  · rintro ⟨⟨request, outcome, ho⟩, hfull, hw⟩
    exact ⟨by simp [ho, Ongoing.queues], hfull, hw⟩
  · rintro ⟨hany, hfull, hw⟩
    cases ho : m.client.ongoing.get? id with
    | none => simp [ho] at hany
    | some o =>
      obtain ⟨stage, outcome⟩ := o
      cases stage with
      | queueing request => exact ⟨⟨request, outcome, ho⟩, hfull, hw⟩
      | _ => simp [ho, Ongoing.queues] at hany

instance (m : Machine n) (id : UInt64) : Decidable (m.Stuck id) := decidable_of_iff _ stuck_iff.symm

lemma queue_step (part : UInt64 → Fin n) {s : Step} (henqueue : ∀ j, s ≠ .enqueue j)
    (hwrite : s ≠ .write) (hstop : s ≠ .stop .writer) :
    (m.step part s).client.queue = m.client.queue ∧
      (m.step part s).client.writing = m.client.writing := by
  cases s with
  | enter method payload => exact ⟨rfl, rfl⟩
  | checkOpen j => exact ⟨m.client.queue_checkOpen j, (m.client.alike_checkOpen j).writing⟩
  | enqueue j => exact absurd rfl (henqueue j)
  | finish j =>
    cases hr : (m.client.ongoing.get? j).bind Ongoing.reply? <;>
      simp [step, Client.returnTo, hr, Client.abandon, Client.unroute]
  | abandon j => exact ⟨rfl, rfl⟩
  | write => exact absurd rfl hwrite
  | read f =>
    have hroute := m.client.alike_route f
    cases hr : m.reader <;> simp [step, hr, Client.queue_route, hroute.writing]
  | fail side reason => cases ht : m.task side <;> simp [step, ht, Client.blame]
  | shut side => cases ht : m.task side <;> simp [step, ht, Client.shut]
  | look side => rcases ht : m.task side with _ | _ | ⟨_ | ⟨k, unseen⟩, found⟩ | _ <;> simp [step, ht]
  | failOne side j =>
    have hc := m.client.alike_deliver j (.error m.client.lostError)
    rcases ht : m.task side with _ | _ | ⟨_ | ⟨k, unseen⟩, found⟩ | _ <;> simp only [step, ht, true_and]
    split
    · rw [client_setTask]
      exact ⟨Client.queue_deliver _ _ _, hc.writing⟩
    · exact ⟨rfl, rfl⟩
  | stop side =>
    cases side with
    | writer => exact absurd rfl hstop
    | reader =>
      rcases ht : m.task .reader with _ | _ | ⟨_ | ⟨k, unseen⟩, _ | ⟨j, found⟩⟩ | _ <;>
        simp [step, ht, Client.stop, Client.stopReading]

lemma queueing_step (part : UInt64 → Fin n) (h : m.client.Queueing id) {s : Step}
    (hs : s.LeavesWaiting id) (henqueue : ∀ j, s ≠ .enqueue j)
    (hnew : ∀ method payload, s = .enter method payload → id ≠ m.client.nextId) :
    (m.step part s).client.Queueing id := by
  cases s with
  | enter method payload =>
    have hid : id ≠ m.client.nextId := hnew method payload rfl
    exact h.of_eq (by simp [step, Client.enter, Dictionary.get?_insert, hid])
  | checkOpen j => exact h.checkOpen j
  | enqueue j => exact absurd rfl (henqueue j)
  | finish j =>
    have hreturn := h.returnTo j
    rcases hr : m.client.returnTo j with ⟨_ | reply, c⟩
    · simpa only [step, hr] using h
    · rw [hr] at hreturn
      simpa only [step, hr] using hreturn
  | abandon j => exact h.abandon fun he => hs he.symm
  | write => exact hs.elim
  | read f =>
    cases hr : m.reader with
    | running => simpa only [step, hr] using h.route f
    | _ => simpa only [step, hr] using h
  | fail side reason =>
    refine h.of_eq ?_
    cases ht : m.task side <;> simp [step, ht, Client.blame]
  | shut side =>
    refine h.of_eq ?_
    cases ht : m.task side <;> simp [step, ht, Client.shut]
  | look side =>
    refine h.of_eq ?_
    rcases ht : m.task side with _ | _ | ⟨_ | ⟨k, unseen⟩, found⟩ | _ <;> simp [step, ht]
  | failOne side j =>
    rcases ht : m.task side with _ | _ | ⟨_ | ⟨k, unseen⟩, found⟩ | _ <;> simp only [step, ht]
    case failing.nil =>
      split
      · rw [client_setTask]
        exact h.deliver j _
      · exact h
    all_goals exact h
  | stop side =>
    cases side with
    | writer => exact hs.elim
    | reader =>
      refine h.of_eq ?_
      rcases ht : m.task .reader with _ | _ | ⟨_ | ⟨k, unseen⟩, _ | ⟨j, found⟩⟩ | _ <;>
        simp [step, ht, Client.stop, Client.stopReading]

lemma Stuck.step (h : m.Stuck id) {s : Step} (hs : s.LeavesWaiting id)
    (hnew : ∀ method payload, s = .enter method payload → id ≠ m.client.nextId) :
    (m.step part s).Stuck id := by
  by_cases henqueue : ∃ j, s = .enqueue j
  · obtain ⟨j, rfl⟩ := henqueue
    have hm : m.step part (.enqueue j) = m := by
      simp only [Machine.step, Client.enqueue_of_full h.writing h.full]
    rwa [hm]
  · have henqueue (j : UInt64) : s ≠ .enqueue j := fun hj => henqueue ⟨j, hj⟩
    obtain ⟨hqueue, hwriting⟩ := queue_step part (m := m) henqueue
      (by rintro rfl; exact hs) (by rintro rfl; exact hs)
    exact ⟨queueing_step part h.waits hs henqueue hnew, hqueue ▸ h.full, hwriting ▸ h.writing⟩

end Machine

end PathPolicy.Call
