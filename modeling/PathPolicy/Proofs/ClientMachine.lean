import PathPolicy.Call.Client
import PathPolicy.Proofs.Frame
import Mathlib.Data.List.FinRange

/-!
# A client in steps of any order

Callers, the writer and the reader share the calls of a client and each goes on in steps of its
own. A task that fails the connection takes several: it gives its reason, closes the connection,
looks through the calls that can be reached, part by part, fails the calls it found one by one, and
stops. Any step may come between two of these. A step that cannot be taken changes nothing.

What a step does is said once for each call, as the turn that the call takes.
-/

namespace PathPolicy.Call

inductive Side
  | writer
  | reader
  deriving DecidableEq

/-- How far a task has come. The calls are kept in `n` parts. -/
inductive Task (n : Nat)
  | running
  | blaming
  /-- The calls found are failed once no part is unseen. -/
  | failing (unseen : List (Fin n)) (found : List UInt64)
  | stopped

structure Machine (n : Nat) where
  client : Client
  writer : Task n := .running
  reader : Task n := .running
  /-- The calls that found the connection open. -/
  passed : List UInt64 := []
  returned : List (UInt64 × Reply) := []

inductive Step
  | enter (method : String) (payload : List UInt8)
  | checkOpen (id : UInt64)
  | enqueue (id : UInt64)
  | finish (id : UInt64)
  | abandon (id : UInt64)
  | write
  | read (f : Frame)
  | fail (side : Side) (reason : String)
  | shut (side : Side)
  | look (side : Side)
  | failOne (side : Side) (id : UInt64)
  | stop (side : Side)

/-- The call has not looked before, and would find the connection open. -/
def Client.passes (c : Client) (id : UInt64) : Bool :=
  match (c.ongoing.get? id).map Ongoing.stage with
  | some (.entered _) => !c.closed
  | _ => false

def Client.stop (c : Client) : Side → Client
  | .writer => c.stopWriting
  | .reader => c.stopReading

namespace Machine

variable {n : Nat}

def task (m : Machine n) : Side → Task n
  | .writer => m.writer
  | .reader => m.reader

def setTask (m : Machine n) (t : Task n) : Side → Machine n
  | .writer => { m with writer := t }
  | .reader => { m with reader := t }

/-- `part` says where a call is kept. -/
def step (part : UInt64 → Fin n) (m : Machine n) : Step → Machine n
  | .enter method payload => { m with client := (m.client.enter method payload).2 }
  | .checkOpen id =>
    { m with
      client := m.client.checkOpen id
      passed := if m.client.passes id then id :: m.passed else m.passed }
  | .enqueue id => { m with client := m.client.enqueue id }
  | .finish id =>
    match m.client.returnTo id with
    | (none, _) => m
    | (some reply, c) => { m with client := c, returned := (id, reply) :: m.returned }
  | .abandon id => { m with client := m.client.abandon id }
  | .write =>
    match m.writer with
    | .running => { m with client := m.client.writeNext.2 }
    | _ => m
  | .read f =>
    match m.reader with
    | .running => { m with client := m.client.route f }
    | _ => m
  | .fail side reason =>
    match m.task side with
    | .running => { m with client := m.client.blame reason }.setTask .blaming side
    | _ => m
  | .shut side =>
    match m.task side with
    | .blaming => { m with client := m.client.shut }.setTask (.failing (List.finRange n) []) side
    | _ => m
  | .look side =>
    match m.task side with
    | .failing (k :: unseen) found =>
      m.setTask (.failing unseen (found ++ m.client.routes.filter (part · = k))) side
    | _ => m
  | .failOne side id =>
    match m.task side with
    | .failing [] found =>
      if id ∈ found then
        { m with client := m.client.failOne id }.setTask (.failing [] (found.erase id)) side
      else m
    | _ => m
  | .stop side =>
    match m.task side with
    | .failing [] [] => { m with client := m.client.stop side }.setTask .stopped side
    | _ => m

def run (part : UInt64 → Fin n) (m : Machine n) (steps : List Step) : Machine n :=
  steps.foldl (step part) m

end Machine

/-! ### The steps of a client on one call -/

namespace Client

lemma get?_update (c : Client) (id j : UInt64) (f : Ongoing → Ongoing) :
    (c.update id f).ongoing.get? j =
      if j = id then (c.ongoing.get? id).map f else c.ongoing.get? j :=
  Dictionary.get?_modify _ _ _ _

@[simp] lemma routes_update (c : Client) (id : UInt64) (f : Ongoing → Ongoing) :
    (c.update id f).routes = c.routes := rfl

lemma mem_routes_unroute {c : Client} {id j : UInt64} :
    j ∈ (c.unroute id).routes ↔ j ∈ c.routes ∧ j ≠ id := by
  simp [unroute]

lemma get?_deliver (c : Client) (id j : UInt64) (reply : Reply) :
    (c.deliver id reply).ongoing.get? j =
      if j = id ∧ id ∈ c.routes then
        (c.ongoing.get? id).map fun o => { o with outcome := some reply }
      else c.ongoing.get? j := by
  unfold deliver
  by_cases hr : id ∈ c.routes
  · simp only [List.contains_iff_mem, hr, if_true, and_true]
    exact get?_update c id j _
  · simp [hr]

lemma mem_routes_deliver {c : Client} {id j : UInt64} {reply : Reply} :
    j ∈ (c.deliver id reply).routes ↔ j ∈ c.routes ∧ j ≠ id := by
  unfold deliver
  by_cases hr : id ∈ c.routes
  · simp only [List.contains_iff_mem, hr, if_true]
    exact mem_routes_unroute
  · simp only [List.contains_iff_mem, hr, if_false]
    exact ⟨fun h => ⟨h, fun e => hr (e ▸ h)⟩, And.left⟩

lemma get?_refuse (c : Client) (id j : UInt64) :
    (c.refuse id).ongoing.get? j = if j = id then
      (c.ongoing.get? id).map fun o => { o with stage := .refused c.lostError }
    else c.ongoing.get? j :=
  get?_update c id j _

lemma mem_routes_refuse {c : Client} {id j : UInt64} :
    j ∈ (c.refuse id).routes ↔ j ∈ c.routes ∧ j ≠ id :=
  mem_routes_unroute

lemma get?_abandon (c : Client) (id j : UInt64) :
    (c.abandon id).ongoing.get? j = if j = id then none else c.ongoing.get? j :=
  Dictionary.get?_erase _ _ _

lemma mem_routes_abandon {c : Client} {id j : UInt64} :
    j ∈ (c.abandon id).routes ↔ j ∈ c.routes ∧ j ≠ id :=
  mem_routes_unroute

lemma writeNext_cases (c : Client) :
    (c.writeNext.2 = c ∨ ∃ f rest, c.queue = f :: rest ∧ c.writeNext.2 = { c with queue := rest }) ∨
      ∃ f rest size limit, c.queue = f :: rest ∧
        f.write c.frameLimit = .error (.frameTooLarge size limit) ∧
        c.writeNext.2 =
          { c with queue := rest }.deliver f.callId (.error (.frameTooLarge size limit)) := by
  unfold writeNext
  split
  · rename_i f rest hw hq
    cases hf : f.write c.frameLimit with
    | ok bytes => exact .inl (.inr ⟨f, rest, hq, by simp [hf]⟩)
    | error e =>
      obtain ⟨size, rfl⟩ := Frame.write_eq_error hf
      exact .inr ⟨f, rest, size, c.frameLimit, hq, hf, by simp [hf]⟩
  · exact .inl (.inl rfl)

end Client

/-! ### The turn of one call -/

/-- What a machine holds about one call. -/
structure View where
  call : Option Ongoing
  routed : Prop
  passed : Prop

def Machine.view {n : Nat} (m : Machine n) (id : UInt64) : View :=
  ⟨m.client.ongoing.get? id, id ∈ m.client.routes, id ∈ m.passed⟩

variable {n : Nat}

/-- The step gives the call its outcome, if the call can still be reached. -/
inductive Gives (m : Machine n) (id : UInt64) : Step → Reply → Prop
  | response (outcome : Except MethodError (List UInt8)) (hr : m.reader = .running) :
    Gives m id (.read ⟨id, .response outcome⟩) (outcome.mapError (.method ""))
  | tooLarge {f : Frame} {rest : List Frame} {size limit : Nat} (hq : m.client.queue = f :: rest)
    (hid : f.callId = id) (hf : f.write m.client.frameLimit = .error (.frameTooLarge size limit)) :
    Gives m id .write (.error (.frameTooLarge size limit))
  | lost {side : Side} {found : List UInt64} (ht : m.task side = .failing [] found) :
    Gives m id (.failOne side id) (.error m.client.lostError)

/-- What a step may do to a call. -/
inductive Turn (m : Machine n) (s : Step) (id : UInt64) : View → View → Prop
  | kept (v : View) : Turn m s id v v
  | entered (v : View) {method : String} {payload : List UInt8} (hs : s = .enter method payload)
    (hid : id = m.client.nextId) :
    Turn m s id v ⟨some ⟨.entered ⟨id, .request method payload⟩, none⟩, True, v.passed⟩
  | passed {request : Frame} {outcome : Option Reply} {routed passed : Prop}
    (hopen : m.client.closed = false) :
    Turn m s id ⟨some ⟨.entered request, outcome⟩, routed, passed⟩
      ⟨some ⟨.queueing request, outcome⟩, routed, True⟩
  | queued {request : Frame} {outcome : Option Reply} {routed passed : Prop} :
    Turn m s id ⟨some ⟨.queueing request, outcome⟩, routed, passed⟩
      ⟨some ⟨.awaiting, outcome⟩, routed, passed⟩
  | refused {request : Frame} {stage : Stage} {outcome : Option Reply} {routed passed : Prop}
    (h : stage = .entered request ∧ m.client.closed = true ∨
      stage = .queueing request ∧ m.client.writing = false) :
    Turn m s id ⟨some ⟨stage, outcome⟩, routed, passed⟩
      ⟨some ⟨.refused m.client.lostError, outcome⟩, False, passed⟩
  | answered {call : Option Ongoing} {passed : Prop} {reply : Reply} (h : Gives m id s reply) :
    Turn m s id ⟨call, True, passed⟩
      ⟨call.map fun o => { o with outcome := some reply }, False, passed⟩
  | gone (v : View) : Turn m s id v ⟨none, False, v.passed⟩

namespace Machine

variable {part : UInt64 → Fin n} {m : Machine n}

@[simp] lemma client_setTask (t : Task n) (side : Side) : (m.setTask t side).client = m.client := by
  cases side <;> rfl

@[simp] lemma task_setTask (t : Task n) (side side' : Side) :
    (m.setTask t side).task side' = if side' = side then t else m.task side' := by
  cases side <;> cases side' <;> rfl

@[simp] lemma passed_setTask (t : Task n) (side : Side) : (m.setTask t side).passed = m.passed := by
  cases side <;> rfl

@[simp] lemma returned_setTask (t : Task n) (side : Side) :
    (m.setTask t side).returned = m.returned := by
  cases side <;> rfl

lemma turn_of_eq {s : Step} {id : UInt64} {v v' : View} (h : v' = v) : Turn m s id v v' := by
  rw [h]
  exact .kept v

lemma turn_deliver {s : Step} {j : UInt64} {reply : Reply} (h : Gives m j s reply) (c : Client)
    (m' : Machine n) (hcalls : c.ongoing = m.client.ongoing) (hroutes : c.routes = m.client.routes)
    (hc : m'.client = c.deliver j reply) (hp : m'.passed = m.passed) (id : UInt64) :
    Turn m s id (m.view id) (m'.view id) := by
  by_cases hid : id = j ∧ j ∈ m.client.routes
  · obtain ⟨rfl, hr⟩ := hid
    have hv : m'.view id = ⟨(m.client.ongoing.get? id).map fun o =>
        { o with outcome := some reply }, False, id ∈ m.passed⟩ := by
      simp [view, hc, hp, Client.get?_deliver, Client.mem_routes_deliver, hcalls, hroutes, hr]
    have hm : m.view id = ⟨m.client.ongoing.get? id, True, id ∈ m.passed⟩ := by
      simp [view, hr]
    rw [hv, hm]
    exact .answered h
  · refine turn_of_eq ?_
    have hr : id ∈ m.client.routes ∧ id ≠ j ↔ id ∈ m.client.routes := by
      constructor
      · exact And.left
      · exact fun hm => ⟨hm, fun e => hid ⟨e, e ▸ hm⟩⟩
    simp [view, hc, hp, Client.get?_deliver, Client.mem_routes_deliver, hcalls, hroutes, hid, hr]

lemma turn_enter (method : String) (payload : List UInt8) (id : UInt64) :
    Turn m (.enter method payload) id (m.view id) ((m.step part (.enter method payload)).view id) := by
  by_cases hid : id = m.client.nextId
  · have hv : (m.step part (.enter method payload)).view id =
        ⟨some ⟨.entered ⟨id, .request method payload⟩, none⟩, True, (m.view id).passed⟩ := by
      simp [step, view, Client.enter, hid]
    rw [hv]
    exact .entered _ rfl hid
  · refine turn_of_eq ?_
    simp [step, view, Client.enter, Dictionary.get?_insert, hid]

lemma turn_checkOpen (j id : UInt64) :
    Turn m (.checkOpen j) id (m.view id) ((m.step part (.checkOpen j)).view id) := by
  rcases hj : m.client.ongoing.get? j with _ | ⟨⟨request⟩ | _ | _ | _, outcome⟩
  · exact turn_of_eq (by simp [step, view, Client.checkOpen, Client.passes, hj])
  · by_cases hid : id = j
    · subst hid
      have hm : m.view id =
          ⟨some ⟨.entered request, outcome⟩, id ∈ m.client.routes, id ∈ m.passed⟩ := by
        rw [view, hj]
      rw [hm]
      cases hc : m.client.closed with
      | true =>
        have hv : (m.step part (.checkOpen id)).view id =
            ⟨some ⟨.refused m.client.lostError, outcome⟩, False, id ∈ m.passed⟩ := by
          simp [step, view, Client.checkOpen, Client.passes, hj, hc, Client.get?_refuse,
            Client.mem_routes_refuse]
        rw [hv]
        exact .refused (.inl ⟨rfl, hc⟩)
      | false =>
        have hv : (m.step part (.checkOpen id)).view id =
            ⟨some ⟨.queueing request, outcome⟩, id ∈ m.client.routes, True⟩ := by
          simp [step, view, Client.checkOpen, Client.passes, hj, hc, Client.get?_update]
        rw [hv]
        exact .passed hc
    · refine turn_of_eq ?_
      cases hc : m.client.closed <;>
        simp [step, view, Client.checkOpen, Client.passes, hj, hc, hid, Client.get?_refuse,
          Client.mem_routes_refuse, Client.get?_update]
  · exact turn_of_eq (by simp [step, view, Client.checkOpen, Client.passes, hj])
  · exact turn_of_eq (by simp [step, view, Client.checkOpen, Client.passes, hj])
  · exact turn_of_eq (by simp [step, view, Client.checkOpen, Client.passes, hj])

lemma turn_enqueue (j id : UInt64) :
    Turn m (.enqueue j) id (m.view id) ((m.step part (.enqueue j)).view id) := by
  rcases hj : m.client.ongoing.get? j with _ | ⟨_ | ⟨request⟩ | _ | _, outcome⟩
  · exact turn_of_eq (by simp [step, view, Client.enqueue, hj])
  · exact turn_of_eq (by simp [step, view, Client.enqueue, hj])
  · by_cases hid : id = j
    · subst hid
      have hm : m.view id =
          ⟨some ⟨.queueing request, outcome⟩, id ∈ m.client.routes, id ∈ m.passed⟩ := by
        rw [view, hj]
      cases hw : m.client.writing with
      | false =>
        have hv : (m.step part (.enqueue id)).view id =
            ⟨some ⟨.refused m.client.lostError, outcome⟩, False, id ∈ m.passed⟩ := by
          simp [step, view, Client.enqueue, hj, hw, Client.get?_refuse, Client.mem_routes_refuse]
        rw [hm, hv]
        exact .refused (.inr ⟨rfl, hw⟩)
      | true =>
        by_cases hq : m.client.queue.length < Client.queueCapacity
        · have hv : (m.step part (.enqueue id)).view id =
              ⟨some ⟨.awaiting, outcome⟩, id ∈ m.client.routes, id ∈ m.passed⟩ := by
            simp [step, view, Client.enqueue, hj, hw, hq, Client.get?_update]
          rw [hm, hv]
          exact .queued
        · exact turn_of_eq (by simp [step, view, Client.enqueue, hj, hw, hq])
    · refine turn_of_eq ?_
      cases hw : m.client.writing with
      | false =>
        simp [step, view, Client.enqueue, hj, hw, hid, Client.get?_refuse, Client.mem_routes_refuse]
      | true =>
        by_cases hq : m.client.queue.length < Client.queueCapacity <;>
          simp [step, view, Client.enqueue, hj, hw, hq, hid, Client.get?_update]
  · exact turn_of_eq (by simp [step, view, Client.enqueue, hj])
  · exact turn_of_eq (by simp [step, view, Client.enqueue, hj])

lemma turn_remove {s : Step} (j : UInt64) (m' : Machine n) (hc : m'.client = m.client.abandon j)
    (hp : m'.passed = m.passed) (id : UInt64) : Turn m s id (m.view id) (m'.view id) := by
  by_cases hid : id = j
  · subst hid
    have hv : m'.view id = ⟨none, False, (m.view id).passed⟩ := by
      simp [view, hc, hp, Client.get?_abandon, Client.mem_routes_abandon]
    rw [hv]
    exact .gone _
  · exact turn_of_eq (by
      simp [view, hc, hp, Client.get?_abandon, Client.mem_routes_abandon, hid])

lemma turn_finish (j id : UInt64) :
    Turn m (.finish j) id (m.view id) ((m.step part (.finish j)).view id) := by
  cases hr : (m.client.ongoing.get? j).bind Ongoing.reply? with
  | none => exact turn_of_eq (by simp [step, Client.returnTo, hr])
  | some reply =>
    have hs : m.step part (.finish j) =
        { m with client := m.client.abandon j, returned := (j, reply) :: m.returned } := by
      simp [step, Client.returnTo, hr]
    rw [hs]
    refine turn_remove j _ ?_ ?_ id <;> rfl

lemma turn_write (id : UInt64) :
    Turn m .write id (m.view id) ((m.step part .write).view id) := by
  cases hw : m.writer with
  | running =>
    have hs : m.step part .write = { m with client := m.client.writeNext.2 } := by simp [step, hw]
    rw [hs]
    rcases m.client.writeNext_cases with (hc | ⟨f, rest, -, hc⟩) | ⟨f, rest, size, limit, hq, hf, hc⟩
    · exact turn_of_eq (by simp [view, hc])
    · exact turn_of_eq (by simp [view, hc])
    · rw [hc]
      refine turn_deliver (.tooLarge hq rfl hf) { m.client with queue := rest } _ ?_ ?_ ?_ ?_ id <;> rfl
  | blaming => exact turn_of_eq (by simp [step, hw])
  | failing => exact turn_of_eq (by simp [step, hw])
  | stopped => exact turn_of_eq (by simp [step, hw])

lemma turn_read (f : Frame) (id : UInt64) :
    Turn m (.read f) id (m.view id) ((m.step part (.read f)).view id) := by
  cases hr : m.reader with
  | running =>
    have hs : m.step part (.read f) = { m with client := m.client.route f } := by simp [step, hr]
    rw [hs]
    obtain ⟨j, _ | outcome⟩ := f
    · exact turn_of_eq rfl
    · refine turn_deliver (.response outcome hr) m.client _ ?_ ?_ ?_ ?_ id <;> rfl
  | blaming => exact turn_of_eq (by simp [step, hr])
  | failing => exact turn_of_eq (by simp [step, hr])
  | stopped => exact turn_of_eq (by simp [step, hr])

lemma turn_failOne (side : Side) (j id : UInt64) :
    Turn m (.failOne side j) id (m.view id) ((m.step part (.failOne side j)).view id) := by
  rcases ht : m.task side with _ | _ | ⟨_ | ⟨k, unseen⟩, found⟩ | _
  · exact turn_of_eq (by simp [step, ht])
  · exact turn_of_eq (by simp [step, ht])
  · by_cases hf : j ∈ found
    · have hc : (m.step part (.failOne side j)).client = m.client.failOne j := by
        simp [step, ht, hf]
      exact turn_deliver (.lost ht) _ _ rfl rfl hc (by simp [step, ht, hf]) id
    · exact turn_of_eq (by simp [step, ht, hf])
  · exact turn_of_eq (by simp [step, ht])
  · exact turn_of_eq (by simp [step, ht])

/-- Every step is a turn of every call. -/
theorem turn (part : UInt64 → Fin n) (m : Machine n) (s : Step) (id : UInt64) :
    Turn m s id (m.view id) ((m.step part s).view id) := by
  cases s with
  | enter method payload => exact turn_enter method payload id
  | checkOpen j => exact turn_checkOpen j id
  | enqueue j => exact turn_enqueue j id
  | finish j => exact turn_finish j id
  | abandon j => refine turn_remove j _ ?_ ?_ id <;> rfl
  | write => exact turn_write id
  | read f => exact turn_read f id
  | fail side reason =>
    refine turn_of_eq ?_
    cases ht : m.task side <;> simp [step, ht, view, Client.blame]
  | shut side =>
    refine turn_of_eq ?_
    cases ht : m.task side <;> simp [step, ht, view, Client.shut]
  | look side =>
    refine turn_of_eq ?_
    rcases ht : m.task side with _ | _ | ⟨_ | ⟨k, unseen⟩, found⟩ | _ <;> simp [step, ht, view]
  | failOne side j => exact turn_failOne side j id
  | stop side =>
    refine turn_of_eq ?_
    rcases ht : m.task side with _ | _ | ⟨_ | ⟨k, unseen⟩, _ | ⟨j, found⟩⟩ | _ <;>
      cases side <;> simp [step, ht, view, Client.stop, Client.stopWriting, Client.stopReading]

end Machine

/-! ### The shift of the tasks -/

structure Client.Alike (c c' : Client) : Prop where
  closed : c'.closed = c.closed
  reason : c'.reason = c.reason
  writing : c'.writing = c.writing
  frameLimit : c'.frameLimit = c.frameLimit
  nextId : c'.nextId = c.nextId

namespace Client

lemma Alike.refl (c : Client) : c.Alike c := ⟨rfl, rfl, rfl, rfl, rfl⟩

lemma alike_deliver (c : Client) (id : UInt64) (reply : Reply) : c.Alike (c.deliver id reply) := by
  unfold deliver
  split
  · exact ⟨rfl, rfl, rfl, rfl, rfl⟩
  · exact Alike.refl c

lemma alike_checkOpen (c : Client) (id : UInt64) : c.Alike (c.checkOpen id) := by
  unfold checkOpen
  split
  · split <;> exact ⟨rfl, rfl, rfl, rfl, rfl⟩
  · exact Alike.refl c

lemma alike_enqueue (c : Client) (id : UInt64) : c.Alike (c.enqueue id) := by
  unfold enqueue
  split
  · split
    · exact ⟨rfl, rfl, rfl, rfl, rfl⟩
    · split
      · exact ⟨rfl, rfl, rfl, rfl, rfl⟩
      · exact Alike.refl c
  · exact Alike.refl c

lemma alike_writeNext (c : Client) : c.Alike c.writeNext.2 := by
  rcases c.writeNext_cases with (hc | ⟨f, rest, -, hc⟩) | ⟨f, rest, size, limit, -, -, hc⟩
  · rw [hc]
    exact Alike.refl c
  · rw [hc]
    exact ⟨rfl, rfl, rfl, rfl, rfl⟩
  · rw [hc]
    obtain ⟨h1, h2, h3, h4, h5⟩ := alike_deliver { c with queue := rest } f.callId
      (.error (.frameTooLarge size limit))
    exact ⟨h1, h2, h3, h4, h5⟩

lemma alike_route (c : Client) (f : Frame) : c.Alike (c.route f) := by
  unfold route
  split
  · exact Alike.refl c
  · exact alike_deliver c _ _

lemma queue_deliver (c : Client) (id : UInt64) (reply : Reply) :
    (c.deliver id reply).queue = c.queue := by
  unfold deliver
  split <;> rfl

lemma queue_checkOpen (c : Client) (id : UInt64) : (c.checkOpen id).queue = c.queue := by
  unfold checkOpen
  split
  · split <;> rfl
  · rfl

lemma mem_queue_enqueue {c : Client} {id : UInt64} {f : Frame} (h : f ∈ (c.enqueue id).queue) :
    f ∈ c.queue ∨ ∃ outcome, c.ongoing.get? id = some ⟨.queueing f, outcome⟩ := by
  unfold enqueue at h
  rcases hid : c.ongoing.get? id with _ | ⟨_ | ⟨request⟩ | _ | _, outcome⟩ <;>
    simp only [hid, Option.map_none, Option.map_some] at h
  · exact .inl h
  · exact .inl h
  · split at h
    · exact .inl h
    · split at h
      · rcases List.mem_append.mp h with h | h
        · exact .inl h
        · rw [List.mem_singleton.mp h]
          exact .inr ⟨outcome, rfl⟩
      · exact .inl h
  · exact .inl h
  · exact .inl h

lemma mem_queue_writeNext {c : Client} {f : Frame} (h : f ∈ c.writeNext.2.queue) : f ∈ c.queue := by
  rcases c.writeNext_cases with (hc | ⟨g, rest, hq, hc⟩) | ⟨g, rest, size, limit, hq, -, hc⟩
  · rwa [hc] at h
  · rw [hc] at h
    rw [hq]
    exact List.mem_cons_of_mem _ h
  · rw [hc, queue_deliver] at h
    rw [hq]
    exact List.mem_cons_of_mem _ h

lemma queue_route (c : Client) (f : Frame) : (c.route f).queue = c.queue := by
  unfold route
  split
  · rfl
  · exact queue_deliver c _ _

end Client

/-- The calls that returned in a step: none, or one that had come to something and is over. -/
def Machine.Returns (m m' : Machine n) : Prop :=
  m'.returned = m.returned ∨ ∃ id reply o, m'.returned = (id, reply) :: m.returned ∧
    m.client.ongoing.get? id = some o ∧ o.reply? = some reply ∧
    m'.client.ongoing.get? id = none

/-- Frames that a step put into the queue were waiting for room. -/
def Machine.Queues (m m' : Machine n) : Prop :=
  ∀ f ∈ m'.client.queue, f ∈ m.client.queue ∨
    ∃ id outcome, m.client.ongoing.get? id = some ⟨.queueing f, outcome⟩

/-- What a step may do to the tasks and to what the calls share. -/
inductive Shift (part : UInt64 → Fin n) (m m' : Machine n) : Step → Prop
  | quiet {s : Step} (hs : ∀ method payload, s ≠ .enter method payload)
    (hf : ∀ side reason, s = .fail side reason → m.task side ≠ .running)
    (ht : ∀ side, m'.task side = m.task side) (hc : m.client.Alike m'.client) (hq : m.Queues m')
    (hr : m.Returns m') : Shift part m m' s
  | entered {method : String} {payload : List UInt8}
    (hm : m' = { m with client := (m.client.enter method payload).2 }) :
    Shift part m m' (.enter method payload)
  | blamed {side : Side} {reason : String} (ht : m.task side = .running)
    (hm : m' = { m with client := m.client.blame reason }.setTask .blaming side) :
    Shift part m m' (.fail side reason)
  | shut {side : Side} (ht : m.task side = .blaming)
    (hm : m' = { m with client := m.client.shut }.setTask (.failing (List.finRange n) []) side) :
    Shift part m m' (.shut side)
  | looked {side : Side} {k : Fin n} {unseen : List (Fin n)}
    {found : List UInt64} (ht : m.task side = .failing (k :: unseen) found)
    (hm : m' =
      m.setTask (.failing unseen (found ++ m.client.routes.filter (part · = k))) side) :
    Shift part m m' (.look side)
  | failed {side : Side} {id : UInt64} {found : List UInt64} (ht : m.task side = .failing [] found)
    (hm : m' =
      { m with client := m.client.failOne id }.setTask (.failing [] (found.erase id)) side) :
    Shift part m m' (.failOne side id)
  | stopped {side : Side} (ht : m.task side = .failing [] [])
    (hm : m' = { m with client := m.client.stop side }.setTask .stopped side) :
    Shift part m m' (.stop side)

namespace Machine

/-- Every step is a shift. -/
theorem shift (part : UInt64 → Fin n) (m : Machine n) (s : Step) :
    Shift part m (m.step part s) s := by
  have hsame {m' : Machine n} (h : m' = m) (hs : ∀ method payload, s ≠ .enter method payload)
      (hf : ∀ side reason, s = .fail side reason → m.task side ≠ .running) :
      Shift part m m' s := by
    rw [h]
    exact .quiet hs hf (fun _ => rfl) (Client.Alike.refl _) (fun f hf => .inl hf) (.inl rfl)
  have htasks (c : Client) (hc : m.client.Alike c) (passed : List UInt64)
      (hs : ∀ method payload, s ≠ .enter method payload)
      (hf : ∀ side reason, s ≠ .fail side reason)
      (hq : ∀ f ∈ c.queue, f ∈ m.client.queue ∨
        ∃ id outcome, m.client.ongoing.get? id = some ⟨.queueing f, outcome⟩) :
      Shift part m { m with client := c, passed := passed } s :=
    .quiet hs (fun side reason h => absurd h (hf side reason)) (fun side => by cases side <;> rfl) hc hq (.inl rfl)
  cases s with
  | enter method payload => exact .entered rfl
  | checkOpen id =>
    refine htasks _ (m.client.alike_checkOpen id) _ (by simp) (by simp) fun f hf => .inl ?_
    rwa [Client.queue_checkOpen] at hf
  | enqueue id =>
    refine htasks _ (m.client.alike_enqueue id) _ (by simp) (by simp) fun f hf => ?_
    exact (Client.mem_queue_enqueue hf).imp_right fun h => ⟨id, h⟩
  | finish id =>
    cases hr : (m.client.ongoing.get? id).bind Ongoing.reply? with
    | none => exact hsame (by simp [step, Client.returnTo, hr]) (by simp) (by simp)
    | some reply =>
      have hs : m.step part (.finish id) =
          { m with client := m.client.abandon id, returned := (id, reply) :: m.returned } := by
        simp [step, Client.returnTo, hr]
      obtain ⟨o, ho, hreply⟩ := Option.bind_eq_some_iff.mp hr
      rw [hs]
      refine .quiet (by simp) (by simp) (fun side => by cases side <;> rfl) ⟨rfl, rfl, rfl, rfl, rfl⟩
        (fun f hf => .inl hf) (.inr ⟨id, reply, o, rfl, ho, hreply, ?_⟩)
      simp [Client.get?_abandon]
  | abandon id =>
    exact htasks (m.client.abandon id) ⟨rfl, rfl, rfl, rfl, rfl⟩ _ (by simp) (by simp) fun f hf => .inl hf
  | write =>
    cases hw : m.writer with
    | running =>
      have hs : m.step part .write = { m with client := m.client.writeNext.2 } := by
        simp [step, hw]
      rw [hs]
      exact htasks _ m.client.alike_writeNext _ (by simp) (by simp) fun f hf =>
        .inl (Client.mem_queue_writeNext hf)
    | _ => exact hsame (by simp [step, hw]) (by simp) (by simp)
  | read f =>
    cases hr : m.reader with
    | running =>
      have hs : m.step part (.read f) = { m with client := m.client.route f } := by simp [step, hr]
      rw [hs]
      refine htasks _ (m.client.alike_route f) _ (by simp) (by simp) fun g hg => .inl ?_
      rwa [Client.queue_route] at hg
    | _ => exact hsame (by simp [step, hr]) (by simp) (by simp)
  | fail side reason =>
    cases ht : m.task side with
    | running => exact .blamed ht (by simp [step, ht])
    | _ => exact hsame (by simp [step, ht]) (by simp) (by rintro _ _ ⟨⟩; simp [ht])
  | shut side =>
    cases ht : m.task side with
    | blaming => exact .shut ht (by simp [step, ht])
    | _ => exact hsame (by simp [step, ht]) (by simp) (by simp)
  | look side =>
    rcases ht : m.task side with _ | _ | ⟨_ | ⟨k, unseen⟩, found⟩ | _
    · exact hsame (by simp [step, ht]) (by simp) (by simp)
    · exact hsame (by simp [step, ht]) (by simp) (by simp)
    · exact hsame (by simp [step, ht]) (by simp) (by simp)
    · exact .looked ht (by simp [step, ht])
    · exact hsame (by simp [step, ht]) (by simp) (by simp)
  | failOne side id =>
    rcases ht : m.task side with _ | _ | ⟨_ | ⟨k, unseen⟩, found⟩ | _
    · exact hsame (by simp [step, ht]) (by simp) (by simp)
    · exact hsame (by simp [step, ht]) (by simp) (by simp)
    · by_cases hf : id ∈ found
      · exact .failed ht (by simp [step, ht, hf])
      · exact hsame (by simp [step, ht, hf]) (by simp) (by simp)
    · exact hsame (by simp [step, ht]) (by simp) (by simp)
    · exact hsame (by simp [step, ht]) (by simp) (by simp)
  | stop side =>
    rcases ht : m.task side with _ | _ | ⟨_ | ⟨k, unseen⟩, _ | ⟨j, found⟩⟩ | _
    · exact hsame (by simp [step, ht]) (by simp) (by simp)
    · exact hsame (by simp [step, ht]) (by simp) (by simp)
    · exact .stopped ht (by simp [step, ht])
    · exact hsame (by simp [step, ht]) (by simp) (by simp)
    · exact hsame (by simp [step, ht]) (by simp) (by simp)
    · exact hsame (by simp [step, ht]) (by simp) (by simp)
    · exact hsame (by simp [step, ht]) (by simp) (by simp)

end Machine

end PathPolicy.Call
