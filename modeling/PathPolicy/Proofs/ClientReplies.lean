import PathPolicy.Proofs.ClientInvariants
import Mathlib.Data.List.Induction

/-!
# Replies in every order of steps

Whatever the order of steps, a call returns once, with the first response that was read for it
while it could be reached, with its own frame being too large, or with the connection lost for the
first reason given. A task that has failed the connection leaves no call waiting that passed.

Ids are not used again as long as their counter does not run over, so a call out of reach stays so.
-/

namespace PathPolicy.Call

variable {n : Nat}

/-- The client after steps of any order. -/
def Machine.after (part : UInt64 → Fin n) (endpoint : String) (limit : Nat) (steps : List Step) :
    Machine n :=
  { client := { endpoint, frameLimit := limit } : Machine n }.run part steps

def entered : List Step → Nat
  | [] => 0
  | s :: steps => s.entering + entered steps

def firstReason (steps : List Step) : Option String := steps.findSome? Step.reason?

/-- A response for the call would be read, and would reach it. -/
def Machine.Awaits (m : Machine n) (id : UInt64) : Prop :=
  m.reader = .running ∧ id ∈ m.client.routes

section Outcomes

variable (part : UInt64 → Fin n) (endpoint : String) (limit : Nat)

/-- The call `id` entered with this request. -/
def Requested (steps : List Step) (id : UInt64) (f : Frame) : Prop :=
  ∃ before method payload rest, steps = before ++ .enter method payload :: rest ∧
    id = (Machine.after part endpoint limit before).client.nextId ∧ f = ⟨id, .request method payload⟩

/-- The outcome is that of the first response for the call that was read while it was pending. -/
def FirstResponse (steps : List Step) (id : UInt64) (outcome : Except MethodError (List UInt8)) :
    Prop :=
  ∃ before rest, steps = before ++ .read ⟨id, .response outcome⟩ :: rest ∧
    (Machine.after part endpoint limit before).Awaits id ∧
    ∀ earlier outcome' between, before = earlier ++ .read ⟨id, .response outcome'⟩ :: between →
      ¬(Machine.after part endpoint limit earlier).Awaits id

/-- What a call may come to. -/
inductive Settled (steps : List Step) (id : UInt64) : Reply → Prop
  | response {outcome : Except MethodError (List UInt8)}
    (h : FirstResponse part endpoint limit steps id outcome) :
    Settled steps id (outcome.mapError (.method ""))
  | tooLarge {f : Frame} {size : Nat} (h : Requested part endpoint limit steps id f)
    (hf : f.write limit = .error (.frameTooLarge size limit)) :
    Settled steps id (.error (.frameTooLarge size limit))
  | lost {reason : String} (h : firstReason steps = some reason) :
    Settled steps id (.error (.connectionLost reason))

end Outcomes

/-! ### Runs -/

lemma firstReason_append {steps : List Step} {reason : String}
    (h : firstReason steps = some reason) (more : List Step) :
    firstReason (steps ++ more) = some reason := by
  unfold firstReason at h ⊢
  rw [List.findSome?_append, h, Option.some_or]

variable {part : UInt64 → Fin n} {m : Machine n}

namespace Machine

variable (part : UInt64 → Fin n) (endpoint : String) (limit : Nat)

lemma after_append_singleton (steps : List Step) (s : Step) :
    after part endpoint limit (steps ++ [s]) = (after part endpoint limit steps).step part s := by
  unfold after run
  rw [List.foldl_append]
  rfl

lemma entered_append (steps steps' : List Step) :
    entered (steps ++ steps') = entered steps + entered steps' := by
  induction steps with
  | nil => simp [entered]
  | cons s steps ih => simp [entered, ih, Nat.add_assoc]

lemma flags_after (steps : List Step) : Flags (after part endpoint limit steps) := by
  induction steps using List.reverseRecOn with
  | nil =>
    refine ⟨fun side h => ?_, fun side _ _ h => ?_, fun side h => ?_, fun h => ?_, fun h => ?_⟩
    · cases side <;> exact absurd rfl h
    · cases side <;> cases h
    · cases side <;> cases h
    · cases h
    · cases h
  | append_singleton steps s ih =>
    rw [after_append_singleton]
    exact (shift part _ s).flags ih

lemma reason_after (steps : List Step) :
    (after part endpoint limit steps).client.reason = firstReason steps := by
  induction steps using List.reverseRecOn with
  | nil => rfl
  | append_singleton steps s ih =>
    rw [after_append_singleton, (shift part _ s).reason (flags_after part endpoint limit steps), ih]
    unfold firstReason
    rw [List.findSome?_append]
    cases s <;> rfl

lemma frameLimit_after (steps : List Step) :
    (after part endpoint limit steps).client.frameLimit = limit := by
  induction steps using List.reverseRecOn with
  | nil => rfl
  | append_singleton steps s ih =>
    rw [after_append_singleton, (shift part _ s).kept.frameLimit, ih]

lemma nextId_after (steps : List Step) :
    (after part endpoint limit steps).client.nextId = UInt64.ofNat (entered steps + 1) := by
  induction steps using List.reverseRecOn with
  | nil => rfl
  | append_singleton steps s ih =>
    rw [after_append_singleton, (shift part _ s).kept.nextId, ih, ← UInt64.ofNat_add, entered_append]
    congr 1
    simp only [entered]
    omega

lemma closed_after_append {steps : List Step} (more : List Step)
    (h : (after part endpoint limit steps).client.closed = true) :
    (after part endpoint limit (steps ++ more)).client.closed = true := by
  induction more using List.reverseRecOn with
  | nil => simpa using h
  | append_singleton more s ih =>
    rw [← List.append_assoc, after_append_singleton]
    exact (shift part _ s).kept.closed ih

lemma toNat_nextId {steps : List Step} (hn : entered steps + 1 < UInt64.size) :
    (after part endpoint limit steps).client.nextId.toNat = entered steps + 1 := by
  rw [nextId_after]
  exact UInt64.toNat_ofNat_of_lt' hn

variable {part endpoint limit}

lemma turn_after (steps : List Step) (s : Step) (id : UInt64) :
    Turn (after part endpoint limit steps) s id ((after part endpoint limit steps).view id)
      ((after part endpoint limit (steps ++ [s])).view id) := by
  rw [after_append_singleton]
  exact turn part _ s id

/-- The calls that can be reached are those that wait for an outcome. -/
lemma mem_routes_iff (steps : List Step) (id : UInt64) :
    id ∈ (after part endpoint limit steps).client.routes ↔
      ∃ o, (after part endpoint limit steps).client.ongoing.get? id = some o ∧ o.Pending := by
  induction steps using List.reverseRecOn with
  | nil => simp [after, run]
  | append_singleton steps s ih => exact (turn_after steps s id).routed_iff ih

lemma mem_passed_of_waits (steps : List Step) (id : UInt64) {o : Ongoing}
    (ho : (after part endpoint limit steps).client.ongoing.get? id = some o) (hw : o.Waits) :
    id ∈ (after part endpoint limit steps).passed := by
  induction steps using List.reverseRecOn generalizing o with
  | nil => simp [after, run] at ho
  | append_singleton steps s ih =>
    exact (turn_after steps s id).passed_of_waits (fun _ ho hw => ih ho hw) ho hw

/-! ### Ids are new -/

lemma entered_append_singleton_of_enter (steps : List Step) {s : Step}
    (hs : ∃ method payload, s = .enter method payload) :
    entered (steps ++ [s]) = entered steps + 1 := by
  obtain ⟨method, payload, rfl⟩ := hs
  rw [entered_append]
  rfl

lemma toNat_le_of_known {steps : List Step} (hn : entered steps < UInt64.size) {id : UInt64}
    (h : (after part endpoint limit steps).client.ongoing.get? id ≠ none ∨
      id ∈ (after part endpoint limit steps).passed) : id.toNat ≤ entered steps := by
  induction steps using List.reverseRecOn with
  | nil => simp [after, run] at h
  | append_singleton steps s ih =>
    have hle := entered_append steps [s]
    rcases (turn_after steps s id).known_or h with h | ⟨hs, hid⟩
    · have := ih (by omega) h
      omega
    · have he := entered_append_singleton_of_enter steps hs
      rw [hid, toNat_nextId part endpoint limit (by omega)]
      omega

lemma not_known_nextId (part : UInt64 → Fin n) (endpoint : String) (limit : Nat)
    (steps : List Step) (hn : entered steps + 1 < UInt64.size) :
    (after part endpoint limit steps).client.ongoing.get?
        (after part endpoint limit steps).client.nextId = none ∧
      (after part endpoint limit steps).client.nextId ∉ (after part endpoint limit steps).passed := by
  have hid := toNat_nextId part endpoint limit hn
  constructor
  · by_contra h
    have := toNat_le_of_known (by omega) (.inl h)
    omega
  · intro h
    have := toNat_le_of_known (by omega) (.inr h)
    omega

lemma not_mem_routes_append {steps : List Step} (more : List Step)
    (hn : entered (steps ++ more) < UInt64.size) {id : UInt64} (hid : id.toNat ≤ entered steps)
    (h : id ∉ (after part endpoint limit steps).client.routes) :
    id ∉ (after part endpoint limit (steps ++ more)).client.routes := by
  induction more using List.reverseRecOn with
  | nil => simpa using h
  | append_singleton more s ih =>
    rw [← List.append_assoc] at hn ⊢
    have hle := entered_append (steps ++ more) [s]
    have hle' := entered_append steps more
    intro hr
    rcases (turn_after (steps ++ more) s id).routed_or hr with hr | ⟨hs, he⟩
    · exact ih (by omega) hr
    · have := entered_append_singleton_of_enter (steps ++ more) hs
      rw [he, toNat_nextId part endpoint limit (by omega)] at hid
      omega

/-- A call returns once: it is over then, and its id does not come again. -/
lemma returned_after {steps : List Step} (hn : entered steps < UInt64.size) :
    ((after part endpoint limit steps).returned.map Prod.fst).Nodup ∧
      ∀ id ∈ (after part endpoint limit steps).returned.map Prod.fst,
        (after part endpoint limit steps).client.ongoing.get? id = none ∧
          id.toNat ≤ entered steps := by
  induction steps using List.reverseRecOn with
  | nil => simp [after, run]
  | append_singleton steps s ih =>
    have hle := entered_append steps [s]
    obtain ⟨hnodup, hgone⟩ := ih (by omega)
    have hstays : ∀ id ∈ (after part endpoint limit steps).returned.map Prod.fst,
        (after part endpoint limit (steps ++ [s])).client.ongoing.get? id = none ∧
          id.toNat ≤ entered (steps ++ [s]) := by
      intro id hid
      obtain ⟨hnone, hold⟩ := hgone id hid
      refine ⟨?_, by omega⟩
      rcases (turn_after steps s id).call_eq_none hnone with h | ⟨hs, he⟩
      · exact h
      · have := entered_append_singleton_of_enter steps hs
        rw [he, toNat_nextId part endpoint limit (by omega)] at hold
        omega
    have hret : (after part endpoint limit steps).Returns (after part endpoint limit (steps ++ [s])) := by
      rw [after_append_singleton]
      exact (shift part _ s).kept.returns
    rcases hret with hr | ⟨id, reply, o, hr, ho, -, hnone⟩
    · rw [hr]
      exact ⟨hnodup, hstays⟩
    · have hnew : id ∉ (after part endpoint limit steps).returned.map Prod.fst := by
        intro hid
        rw [(hgone id hid).1] at ho
        cases ho
      have hknown : (after part endpoint limit steps).client.ongoing.get? id ≠ none := by simp [ho]
      have hle' := toNat_le_of_known (by omega) (.inl hknown)
      rw [hr, List.map_cons]
      refine ⟨List.nodup_cons.mpr ⟨hnew, hnodup⟩, fun j hj => ?_⟩
      rcases List.mem_cons.mp hj with rfl | hj
      · exact ⟨hnone, by omega⟩
      · exact hstays j hj

/-! ### No call is lost -/

/-- A task that fails the connection has still to reach every call that passed and can be reached. -/
lemma mayReach_after {steps : List Step} (hn : entered steps < UInt64.size) (side : Side)
    {id : UInt64} (hp : id ∈ (after part endpoint limit steps).passed)
    (hr : id ∈ (after part endpoint limit steps).client.routes) :
    ((after part endpoint limit steps).task side).MayReach part id := by
  induction steps using List.reverseRecOn with
  | nil => simp [after, run] at hp
  | append_singleton steps s ih =>
    have hle := entered_append steps [s]
    have hturn : Turn (after part endpoint limit steps) s id _ _ := turn_after steps s id
    have hrouted : id ∈ (after part endpoint limit steps).client.routes := by
      rcases hturn.routed_or hr with h | ⟨hs, he⟩
      · exact h
      · -- A call that has just entered did not pass.
        have := entered_append_singleton_of_enter steps hs
        have hnew := not_known_nextId part endpoint limit steps (by omega)
        rw [← he] at hnew
        exact ((hturn.known_of_passed hp).elim (fun h => h hnew.1) (fun h => hnew.2 h)).elim
    have hreach : ((after part endpoint limit steps).task side).MayReach part id := by
      rcases hturn.passed_or hp with h | hopen
      · exact ih (by omega) h hrouted
      · -- No task of an open connection looks for calls yet.
        have hf := flags_after part endpoint limit steps
        cases ht : (after part endpoint limit steps).task side with
        | running => trivial
        | blaming => trivial
        | failing unseen found => simp [hf.failing side unseen found ht] at hopen
        | stopped => simp [hf.stopped side ht] at hopen
    rw [after_append_singleton] at hr ⊢
    exact (shift part _ s).mayReach hreach hrouted hr

lemma not_passed_of_entered {steps : List Step} (hn : entered steps < UInt64.size) {id : UInt64}
    {o : Ongoing} {f : Frame}
    (ho : (after part endpoint limit steps).client.ongoing.get? id = some o)
    (hf : o.stage = .entered f) : id ∉ (after part endpoint limit steps).passed := by
  induction steps using List.reverseRecOn generalizing o f with
  | nil => simp [after, run]
  | append_singleton steps s ih =>
    have hle := entered_append steps [s]
    refine (turn_after steps s id).not_passed ?_ (fun o f ho hf => ih (by omega) ho hf) ho hf
    intro hs he
    have := entered_append_singleton_of_enter steps hs
    rw [he]
    exact (not_known_nextId part endpoint limit steps (by omega)).2

/-- Once a task is done, a call that passed is out of reach. -/
lemma not_mem_routes_of_done {steps : List Step} (hn : entered steps < UInt64.size) {side : Side}
    (hs : ((after part endpoint limit steps).task side).Done) {id : UInt64}
    (hp : id ∈ (after part endpoint limit steps).passed) :
    id ∉ (after part endpoint limit steps).client.routes :=
  fun hr => hs.not_mayReach (mayReach_after hn side hp hr)

lemma outcome_ne_none_of_refused {steps : List Step} (hn : entered steps < UInt64.size)
    {id : UInt64} {o : Ongoing} {e : CallError}
    (ho : (after part endpoint limit steps).client.ongoing.get? id = some o)
    (he : o.stage = .refused e) (hp : id ∈ (after part endpoint limit steps).passed) :
    o.outcome ≠ none := by
  induction steps using List.reverseRecOn generalizing o e with
  | nil => simp [after, run] at ho
  | append_singleton steps s ih =>
    have hle := entered_append steps [s]
    refine (turn_after steps s id).outcome_of_refused (fun o e ho he hp => ih (by omega) ho he hp)
      (fun o f ho hf => not_passed_of_entered (by omega) ho hf) ?_ ho he hp
    intro hw o f ho hf hp hnone
    have hstop : (after part endpoint limit steps).task .writer = .stopped :=
      (flags_after part endpoint limit steps).writing hw
    refine not_mem_routes_of_done (by omega) (by rw [hstop]; trivial) hp ?_
    exact (mem_routes_iff steps id).mpr ⟨o, ho, hnone, by simp [hf]⟩

/-- Once a task is done, every call that passed has its outcome. -/
theorem outcome_of_done {steps : List Step} (hn : entered steps < UInt64.size) {side : Side}
    (hs : ((after part endpoint limit steps).task side).Done) {id : UInt64}
    (hp : id ∈ (after part endpoint limit steps).passed) {o : Ongoing}
    (ho : (after part endpoint limit steps).client.ongoing.get? id = some o) :
    ∃ reply, o.outcome = some reply := by
  rw [← Option.ne_none_iff_exists']
  intro hnone
  by_cases he : ∃ e, o.stage = .refused e
  · obtain ⟨e, he⟩ := he
    exact outcome_ne_none_of_refused hn ho he hp hnone
  · have hpending : o.Pending := ⟨hnone, fun e h => he ⟨e, h⟩⟩
    exact not_mem_routes_of_done hn hs hp ((mem_routes_iff steps id).mpr ⟨o, ho, hpending⟩)

/-! ### Where a reply comes from -/

lemma requested_append {steps : List Step} {id : UInt64} {f : Frame}
    (h : Requested part endpoint limit steps id f) (more : List Step) :
    Requested part endpoint limit (steps ++ more) id f := by
  obtain ⟨before, method, payload, rest, rfl, hid, hf⟩ := h
  exact ⟨before, method, payload, rest ++ more, by simp, hid, hf⟩

lemma settled_append {steps : List Step} {id : UInt64} {reply : Reply}
    (h : Settled part endpoint limit steps id reply) (more : List Step) :
    Settled part endpoint limit (steps ++ more) id reply := by
  cases h with
  | response h =>
    obtain ⟨before, rest, rfl, hawaits, hfirst⟩ := h
    exact .response ⟨before, rest ++ more, by simp, hawaits, hfirst⟩
  | tooLarge h hf => exact .tooLarge (requested_append h more) hf
  | lost h => exact .lost (firstReason_append h more)

/-- A call that has still to hand over a request holds the one it entered with. -/
lemma requested_of_request (steps : List Step) (id : UInt64) {o : Ongoing} {f : Frame}
    (ho : (after part endpoint limit steps).client.ongoing.get? id = some o)
    (hf : o.request? = some f) : Requested part endpoint limit steps id f := by
  induction steps using List.reverseRecOn generalizing o with
  | nil => simp [after, run] at ho
  | append_singleton steps s ih =>
    rcases (turn_after steps s id).request ho hf with ⟨o, ho, hf⟩ | ⟨method, payload, rfl, hid, rfl⟩
    · exact requested_append (ih ho hf) [s]
    · exact ⟨steps, method, payload, [], rfl, hid, rfl⟩

lemma requested_of_mem_queue (steps : List Step) {f : Frame}
    (h : f ∈ (after part endpoint limit steps).client.queue) :
    Requested part endpoint limit steps f.callId f := by
  induction steps using List.reverseRecOn with
  | nil => simp [after, run] at h
  | append_singleton steps s ih =>
    have hq : (after part endpoint limit steps).Queues (after part endpoint limit (steps ++ [s])) := by
      rw [after_append_singleton]
      exact (shift part _ s).kept.queues
    rcases hq f h with h | ⟨id, outcome, ho⟩
    · exact requested_append (ih h) [s]
    · have hr := requested_of_request steps id ho rfl
      obtain rfl : f.callId = id := by
        obtain ⟨before, method, payload, rest, -, -, rfl⟩ := hr
        rfl
      exact requested_append hr [s]

/-- A call that is read a response for is out of reach from then on. -/
lemma not_mem_routes_read {steps : List Step} {id : UInt64}
    {outcome : Except MethodError (List UInt8)}
    (h : (after part endpoint limit steps).Awaits id) :
    id ∉ (after part endpoint limit (steps ++ [.read ⟨id, .response outcome⟩])).client.routes := by
  rw [after_append_singleton]
  simp only [step, h.1, Client.route]
  intro hr
  exact (Client.mem_routes_deliver.mp hr).2 rfl

/-- A response that reaches its call is the first that was read for it. -/
lemma firstResponse_of_awaits {steps : List Step} (hn : entered steps < UInt64.size) {id : UInt64}
    (h : (after part endpoint limit steps).Awaits id)
    (outcome : Except MethodError (List UInt8)) :
    FirstResponse part endpoint limit (steps ++ [.read ⟨id, .response outcome⟩]) id outcome := by
  refine ⟨steps, [], rfl, h, ?_⟩
  rintro earlier outcome' between rfl hearlier
  have hsplit : earlier ++ .read ⟨id, .response outcome'⟩ :: between =
      (earlier ++ [.read ⟨id, .response outcome'⟩]) ++ between := by simp
  rw [hsplit] at hn h
  have hle := entered_append (earlier ++ [.read ⟨id, .response outcome'⟩]) between
  have hle' := entered_append earlier [.read ⟨id, .response outcome'⟩]
  obtain ⟨o, ho, -⟩ := (mem_routes_iff earlier id).mp hearlier.2
  have hid : id.toNat ≤ entered earlier := toNat_le_of_known (by omega) (.inl (by rw [ho]; simp))
  exact not_mem_routes_append between hn (by omega) (not_mem_routes_read hearlier) h.2

lemma lostError_after {steps : List Step}
    (h : (after part endpoint limit steps).client.reason.isSome) :
    ∃ reason, firstReason steps = some reason ∧
      (after part endpoint limit steps).client.lostError = .connectionLost reason := by
  obtain ⟨reason, hr⟩ := Option.isSome_iff_exists.mp h
  rw [reason_after] at hr
  refine ⟨reason, hr, ?_⟩
  rw [Client.lostError, reason_after, hr]
  rfl

lemma settled_of_gives {steps : List Step} (hn : entered steps < UInt64.size) {s : Step}
    {id : UInt64} {reply : Reply} (h : Gives (after part endpoint limit steps) id s reply)
    (hr : id ∈ (after part endpoint limit steps).client.routes) :
    Settled part endpoint limit (steps ++ [s]) id reply := by
  cases h with
  | response outcome hread => exact .response (firstResponse_of_awaits hn ⟨hread, hr⟩ outcome)
  | @tooLarge f rest size limit' hq hid hf =>
    have hreq := requested_of_mem_queue steps (by rw [hq]; exact List.mem_cons_self)
    rw [frameLimit_after] at hf
    obtain ⟨size', he⟩ := Frame.write_eq_error hf
    obtain ⟨rfl, rfl⟩ := CallError.frameTooLarge.inj he
    rw [← hid]
    exact .tooLarge (requested_append hreq [.write]) hf
  | @lost side found ht =>
    have hflags := flags_after part endpoint limit steps
    obtain ⟨reason, hreason, hlost⟩ := lostError_after (hflags.blamed side (by simp [ht]))
    rw [hlost]
    exact settled_append (.lost hreason) _

lemma settled_of_outcome {steps : List Step} (hn : entered steps < UInt64.size) {id : UInt64}
    {o : Ongoing} {reply : Reply}
    (ho : (after part endpoint limit steps).client.ongoing.get? id = some o)
    (hr : o.outcome = some reply) : Settled part endpoint limit steps id reply := by
  induction steps using List.reverseRecOn generalizing o with
  | nil => simp [after, run] at ho
  | append_singleton steps s ih =>
    have hle := entered_append steps [s]
    rcases (turn_after steps s id).outcome ho hr with ⟨o, ho, hr⟩ | ⟨hrouted, hgives⟩
    · exact settled_append (ih (by omega) ho hr) [s]
    · exact settled_of_gives (by omega) hgives hrouted

lemma lost_of_refused {steps : List Step} {id : UInt64} {o : Ongoing} {e : CallError}
    (ho : (after part endpoint limit steps).client.ongoing.get? id = some o)
    (he : o.stage = .refused e) :
    ∃ reason, firstReason steps = some reason ∧ e = .connectionLost reason := by
  induction steps using List.reverseRecOn generalizing o with
  | nil => simp [after, run] at ho
  | append_singleton steps s ih =>
    rcases (turn_after steps s id).refusal ho he with ⟨o, ho, he⟩ | ⟨rfl, h⟩
    · obtain ⟨reason, hr, rfl⟩ := ih ho he
      exact ⟨reason, firstReason_append hr [s], rfl⟩
    · have hflags := flags_after part endpoint limit steps
      have hreason : (after part endpoint limit steps).client.reason.isSome := by
        rcases h with hc | hw
        · exact hflags.reason hc
        · exact hflags.reason (hflags.stopped .writer (hflags.writing hw))
      obtain ⟨reason, hr, hlost⟩ := lostError_after hreason
      exact ⟨reason, firstReason_append hr [s], hlost⟩

/-- A call returns what it may come to, and one that did not pass returns that the connection is
lost. -/
lemma settled_of_returned {steps : List Step} (hn : entered steps < UInt64.size) {id : UInt64}
    {reply : Reply} (h : (id, reply) ∈ (after part endpoint limit steps).returned) :
    Settled part endpoint limit steps id reply ∧
      (id ∈ (after part endpoint limit steps).passed ∨
        ∃ reason, firstReason steps = some reason ∧ reply = .error (.connectionLost reason)) := by
  induction steps using List.reverseRecOn with
  | nil => simp [after, run] at h
  | append_singleton steps s ih =>
    have hle := entered_append steps [s]
    have hn' : entered steps < UInt64.size := by omega
    have hstays : Settled part endpoint limit steps id reply ∧
        (id ∈ (after part endpoint limit steps).passed ∨
          ∃ reason, firstReason steps = some reason ∧ reply = .error (.connectionLost reason)) →
        Settled part endpoint limit (steps ++ [s]) id reply ∧
          (id ∈ (after part endpoint limit (steps ++ [s])).passed ∨ ∃ reason,
            firstReason (steps ++ [s]) = some reason ∧ reply = .error (.connectionLost reason)) := by
      rintro ⟨hset, hp | ⟨reason, hr, he⟩⟩
      · exact ⟨settled_append hset [s], .inl ((turn_after steps s id).passed_mono hp)⟩
      · exact ⟨settled_append hset [s], .inr ⟨reason, firstReason_append hr [s], he⟩⟩
    have hret : (after part endpoint limit steps).Returns (after part endpoint limit (steps ++ [s])) := by
      rw [after_append_singleton]
      exact (shift part _ s).kept.returns
    rcases hret with hr | ⟨j, reply', o, hr, ho, hreply, -⟩
    · rw [hr] at h
      exact hstays (ih hn' h)
    · rw [hr] at h
      rcases List.mem_cons.mp h with h | h
      · obtain ⟨rfl, rfl⟩ := Prod.mk.inj h
        refine hstays ?_
        cases hstage : o.stage with
        | refused e =>
          obtain rfl : Except.error e = reply := by simpa [Ongoing.reply?, hstage] using hreply
          obtain ⟨reason, hreason, rfl⟩ := lost_of_refused ho hstage
          exact ⟨.lost hreason, .inr ⟨reason, hreason, rfl⟩⟩
        | awaiting =>
          have hout : o.outcome = some reply := by simpa [Ongoing.reply?, hstage] using hreply
          exact ⟨settled_of_outcome hn' ho hout, .inl (mem_passed_of_waits steps id ho (.inr hstage))⟩
        | _ => simp [Ongoing.reply?, hstage] at hreply
      · exact hstays (ih hn' h)

/-- A call that enters once the connection is closed never passes. -/
lemma not_mem_passed_of_late {before : List Step} {method : String} {payload : List UInt8}
    (more : List Step) (hn : entered (before ++ .enter method payload :: more) < UInt64.size)
    (hc : (after part endpoint limit before).client.closed = true) :
    (after part endpoint limit before).client.nextId ∉
      (after part endpoint limit (before ++ .enter method payload :: more)).passed := by
  have hsplit : before ++ .enter method payload :: more =
      (before ++ [.enter method payload]) ++ more := by simp
  have hle := entered_append_singleton_of_enter before ⟨method, payload, rfl⟩
  rw [hsplit] at hn ⊢
  have hle' := entered_append (before ++ [.enter method payload]) more
  have hnew := not_known_nextId part endpoint limit before (by omega)
  have hkeep (steps : List Step) (s : Step)
      (hc : (after part endpoint limit steps).client.closed = true) {id : UInt64}
      (h : id ∉ (after part endpoint limit steps).passed) :
      id ∉ (after part endpoint limit (steps ++ [s])).passed := by
    intro hp
    rcases (turn_after steps s id).passed_or hp with hp | hopen
    · exact h hp
    · simp [hc] at hopen
  clear hn hle'
  induction more using List.reverseRecOn with
  | nil => simpa using hkeep before _ hc hnew.2
  | append_singleton more s ih =>
    rw [← List.append_assoc]
    refine hkeep _ s ?_ (ih (by simp))
    rw [List.append_assoc]
    exact closed_after_append part endpoint limit _ hc

lemma returned_checkOpen_finish {id : UInt64} {o : Ongoing}
    (ho : (m : Machine n).client.ongoing.get? id = some o) (hc : m.client.closed = true)
    (hw : ¬o.Waits) (he : ∀ e, o.stage = .refused e → e = m.client.lostError) :
    (id, .error m.client.lostError) ∈ ((m.step part (.checkOpen id)).step part (.finish id)).returned := by
  obtain ⟨stage, outcome⟩ := o
  cases stage with
  | entered request =>
    have hcheck : (m.client.refuse id).ongoing.get? id =
        some ⟨.refused m.client.lostError, outcome⟩ := by
      rw [Client.get?_refuse, ho]
      simp
    simp [step, Client.checkOpen, Client.passes, ho, hc, Client.returnTo, hcheck, Ongoing.reply?]
  | queueing request => exact absurd (.inl ⟨request, rfl⟩) hw
  | awaiting => exact absurd (.inr rfl) hw
  | refused e =>
    obtain rfl := he e rfl
    simp [step, Client.checkOpen, Client.passes, ho, Client.returnTo, Ongoing.reply?]

end Machine

/-- In every order of steps a call returns at most once, with what it may come to. Once a task is
done, every call that passed has its outcome. A call that enters a closed connection fails with
the connection lost, and the connection is lost for the first reason given. -/
theorem replies_settled (part : UInt64 → Fin n) (endpoint : String) (limit : Nat)
    (steps : List Step) (hn : entered steps < UInt64.size) :
    let m := Machine.after part endpoint limit steps
    ((m.returned.map Prod.fst).Nodup ∧
      ∀ id reply, (id, reply) ∈ m.returned → Settled part endpoint limit steps id reply) ∧
    (∀ side, (m.task side).Done → ∀ id ∈ m.passed, ∀ o, m.client.ongoing.get? id = some o →
      ∃ reply, o.outcome = some reply ∧ Settled part endpoint limit steps id reply) ∧
    (∀ before method payload rest, steps = before ++ .enter method payload :: rest →
      (Machine.after part endpoint limit before).client.closed = true →
      let id := (Machine.after part endpoint limit before).client.nextId
      ∃ reason, firstReason steps = some reason ∧
        (∀ reply, (id, reply) ∈ m.returned → reply = .error (.connectionLost reason)) ∧
        ∀ o, m.client.ongoing.get? id = some o → (id, .error (.connectionLost reason)) ∈
          (Machine.after part endpoint limit (steps ++ [.checkOpen id, .finish id])).returned) ∧
    ∀ id reason, (id, .error (.connectionLost reason)) ∈ m.returned →
      firstReason steps = some reason := by
  intro m
  refine ⟨⟨(Machine.returned_after hn).1, fun id reply h => ?_⟩, ?_, ?_, ?_⟩
  · exact (Machine.settled_of_returned hn h).1
  · intro side hs id hp o ho
    obtain ⟨reply, hr⟩ := Machine.outcome_of_done hn hs hp ho
    exact ⟨reply, hr, Machine.settled_of_outcome hn ho hr⟩
  · rintro before method payload rest rfl hc id
    have hflags := Machine.flags_after part endpoint limit (before ++ .enter method payload :: rest)
    have hclosed : m.client.closed = true := Machine.closed_after_append part endpoint limit _ hc
    have hlate : id ∉ m.passed := Machine.not_mem_passed_of_late rest hn hc
    obtain ⟨reason, hreason, hlost⟩ := Machine.lostError_after (hflags.reason hclosed)
    refine ⟨reason, hreason, fun reply h => ?_, fun o ho => ?_⟩
    · obtain ⟨reason', hreason', rfl⟩ :=
        (Machine.settled_of_returned hn h).2.resolve_left hlate
      rw [hreason] at hreason'
      obtain rfl := Option.some.inj hreason'
      rfl
    · have hsplit (steps : List Step) :
          steps ++ [.checkOpen id, .finish id] = steps ++ [.checkOpen id] ++ [.finish id] := by simp
      rw [hsplit, Machine.after_append_singleton, Machine.after_append_singleton, ← hlost]
      refine Machine.returned_checkOpen_finish ho hclosed ?_ fun e he => ?_
      · exact fun hw => hlate (Machine.mem_passed_of_waits _ id ho hw)
      · obtain ⟨reason', hreason', rfl⟩ := Machine.lost_of_refused ho he
        rw [hreason] at hreason'
        obtain rfl := Option.some.inj hreason'
        exact hlost.symm
  · intro id reason h
    generalize hreply : (Except.error (.connectionLost reason) : Reply) = reply at h
    cases (Machine.settled_of_returned hn h).1 with
    | @response outcome => cases outcome <;> cases hreply
    | tooLarge => cases hreply
    | lost hfirst =>
      cases hreply
      exact hfirst

/-- Two calls: one is answered twice and returns the first answer, the other loses the connection
to the reader while the writer runs. -/
theorem replies_settled_of_two_calls :
    let steps : List Step := [.enter "a" [], .enter "b" [], .checkOpen 2, .checkOpen 1, .enqueue 1,
      .enqueue 2, .write, .read ⟨2, .response (.ok [7])⟩, .fail .reader "gone",
      .fail .writer "late", .shut .reader, .look .reader, .look .reader, .failOne .reader 1,
      .stop .reader, .finish 1, .finish 2]
    let part : UInt64 → Fin 2 := fun id => if id = 1 then 0 else 1
    entered steps < UInt64.size ∧
      (Machine.after part "" 64 steps).returned =
        [(2, .ok [7]), (1, .error (.connectionLost "gone"))] ∧
      Settled part "" 64 steps 2 (.ok [7]) ∧ firstReason steps = some "gone" := by
  intro steps part
  have hn : entered steps < UInt64.size := by decide
  have hr : (Machine.after part "" 64 steps).returned =
      [(2, .ok [7]), (1, .error (.connectionLost "gone"))] := by decide +kernel
  obtain ⟨⟨-, hsettled⟩, -, -, hlost⟩ := replies_settled part "" 64 steps hn
  rw [hr] at hsettled hlost
  exact ⟨hn, hr, hsettled 2 _ (by simp), hlost 1 "gone" (by simp)⟩

end PathPolicy.Call
