import PathPolicy.Proofs.RequestAccounts
import Mathlib.Data.List.Infix

/-!
# Every request is answered once

A server answers each request that precedes the end of the client's stream, or the first frame there
that it cannot read, with one frame that carries the number of the request. It writes nothing else,
and the length of a response never keeps it from writing those that follow.
-/

namespace PathPolicy.Call.Service

variable {σ : Type} {S : Server σ} {client : ClientId} {s : σ} {h : History σ}
  {c : Connection σ} {m : Service σ} {moves : List (Move σ)} {answered : List (Nat × Frame)}
  {underWay : List (Nat × Job σ)} {written : List Frame}

/-! ### Runs -/

lemma Reads.of_eq {c' : Connection σ} (hr : Reads S.frameLimit h c)
    (hreading : c'.reading = c.reading) (hunread : c'.unread = c.unread) :
    Reads S.frameLimit h c' where
  unread h := by
    rw [hunread]
    exact hr.unread (hreading ▸ h)
  stopped h := hr.stopped (hreading ▸ h)

lemma Reads.step (hr : Reads S.frameLimit h m.connection) (step : Step σ) :
    Reads S.frameLimit (h.add step) (m.step S step).connection := by
  cases step with
  | arrive now bytes =>
    obtain ⟨_, _, _, -, -, hreads⟩ := hr.arrive now bytes
    exact hreads
  | hangUp =>
    refine ⟨fun hreading => ?_, fun _ => .inl rfl⟩
    cases hreading
  | turn now i =>
    have hc : ((m.step S (.turn now i)).connection.reading,
        (m.step S (.turn now i)).connection.unread) =
        (m.connection.reading, m.connection.unread) := by
      simp only [Service.step, Connection.turn]
      cases m.connection.jobs[i]? with
      | none => rfl
      | some job => rcases job with ⟨_, _, _ | _ | _⟩ <;> rfl
    exact hr.of_eq (congrArg Prod.fst hc) (congrArg Prod.snd hc)
  | write =>
    have hc : ((m.step S .write).connection.reading, (m.step S .write).connection.unread) =
        (m.connection.reading, m.connection.unread) := by
      simp only [Service.step, Connection.writeNext]
      split
      · split <;> rfl
      · rfl
    exact hr.of_eq (congrArg Prod.fst hc) (congrArg Prod.snd hc)
  | finish =>
    have hc : ((m.step S .finish).connection.reading, (m.step S .finish).connection.unread) =
        (m.connection.reading, m.connection.unread) := by
      simp only [Service.step, Connection.finish]
      split <;> rfl
    exact hr.of_eq (congrArg Prod.fst hc) (congrArg Prod.snd hc)
  | take => exact hr.of_eq rfl rfl
  | elsewhere f => exact ⟨hr.unread, hr.stopped⟩

lemma Tracks.step (hr : Reads S.frameLimit h m.connection)
    (t : Tracks S client s (requests S.frameLimit h.received) h.outside m moves answered underWay
      written)
    (hlo : 1024 ≤ S.frameLimit) (hhi : S.frameLimit < UInt64.size)
    (hsize : ∀ f ∈ m.connection.responses, f.encoding.length < UInt64.size) (step : Step σ) :
    ∃ moves' answered' underWay' written',
      Tracks S client s (requests S.frameLimit (h.add step).received) (h.add step).outside
        (m.step S step) moves' answered' underWay' written' := by
  cases step with
  | arrive now bytes =>
    obtain ⟨new, reading, unread, hnew, hc, -⟩ := hr.arrive now bytes
    obtain ⟨underWay', t'⟩ := t.arrive now new reading unread
    have houtside : (h.add (.arrive now bytes)).outside = h.outside := by
      simp only [History.add]
      split <;> rfl
    rw [t.client] at hc
    rw [hnew, houtside, Service.step, hc]
    exact ⟨_, _, underWay', _, t'⟩
  | hangUp => exact ⟨_, _, _, _, { t with }⟩
  | turn now i =>
    obtain ⟨moves', answered', underWay', t'⟩ := t.turn now i
    exact ⟨moves', answered', underWay', _, t'⟩
  | write =>
    obtain ⟨written', t'⟩ := t.write hlo hhi hsize
    exact ⟨_, _, _, written', t'⟩
  | finish =>
    obtain ⟨moves', t'⟩ := t.finish
    exact ⟨moves', _, _, _, t'⟩
  | take => exact ⟨_, _, _, _, t.take⟩
  | elsewhere f => exact ⟨_, _, _, _, t.elsewhere f⟩

/-- A connection that has just been accepted. -/
def opened (client : ClientId) (s : σ) : Service σ := ⟨{ client }, s, []⟩

/-- No response that comes up in a run has a length beyond the numbers of a machine. -/
def Measured (S : Server σ) (m : Service σ) (steps : List (Step σ)) : Prop :=
  ∀ before, before <+: steps → ∀ f ∈ (m.run S before).connection.responses,
    f.encoding.length < UInt64.size

lemma exists_tracks_run {steps : List (Step σ)} (hlo : 1024 ≤ S.frameLimit)
    (hhi : S.frameLimit < UInt64.size) (hsize : Measured S (opened client s) steps) :
    Reads S.frameLimit (History.of steps) ((opened client s).run S steps).connection ∧
      ∃ moves answered underWay written,
        Tracks S client s (requests S.frameLimit (History.of steps).received)
          (History.of steps).outside ((opened client s).run S steps) moves answered underWay
          written := by
  induction steps using List.reverseRecOn with
  | nil =>
    refine ⟨reads_start S.frameLimit client, [], [], [], [], ?_⟩
    rw [show (History.of ([] : List (Step σ))).received = [] from rfl, requests_nil]
    exact tracks_start S client s
  | append_singleton steps step ih =>
    obtain ⟨hr, moves, answered, underWay, written, t⟩ :=
      ih fun before hb => hsize before (hb.trans (List.prefix_append ..))
    have hrun : (opened client s).run S (steps ++ [step]) =
        ((opened client s).run S steps).step S step := run_append steps [step]
    have hof : History.of (steps ++ [step]) = (History.of steps).add step := by
      simp only [History.of, List.foldl_append, List.foldl_cons, List.foldl_nil]
    rw [hrun, hof]
    exact ⟨hr.step step, t.step hr hlo hhi (hsize steps (List.prefix_append ..)) step⟩

/-! ### To the end -/

/-- Turns of one task bring it to its end. -/
lemma exists_turns_end (now : Nat) (job : Job σ) (pre post : List (Job σ)) (c : Connection σ)
    (s : σ) (taken : List UInt8) :
    ∃ steps : List (Step σ), (∀ step ∈ steps, step.Own) ∧ ∃ f s',
      (Service.mk (c.holding (pre ++ job :: post)) s taken).run S steps =
        ⟨(c.holding (pre ++ post)).respond f, s', taken⟩ := by
  obtain ⟨callId, due, rest⟩ := job
  induction rest generalizing pre post due s with
  | done outcome =>
    refine ⟨[.turn now pre.length], by simp [Step.Own], ⟨callId, .response outcome⟩, s, ?_⟩
    rw [run, List.foldl_cons, turn_middle]
    rfl
  | act update resume ih =>
    obtain ⟨steps, hown, f, s', hrun⟩ := ih s (pre ++ post) [] (update s) due
    refine ⟨.turn now pre.length :: steps, by simpa [Step.Own] using hown, f, s', ?_⟩
    rw [List.append_nil] at hrun
    rw [run, List.foldl_cons, turn_middle]
    exact hrun
  | sleep ms rest ih =>
    obtain ⟨steps, hown, f, s', hrun⟩ := ih (pre ++ post) [] s (now + ms)
    refine ⟨.turn now pre.length :: steps, by simpa [Step.Own] using hown, f, s', ?_⟩
    rw [List.append_nil] at hrun
    rw [run, List.foldl_cons, turn_middle]
    exact hrun

lemma exists_turns_all (S : Server σ) (m : Service σ) :
    ∃ steps : List (Step σ), (∀ step ∈ steps, step.Own) ∧
      (m.run S steps).connection.jobs = [] ∧
      (m.run S steps).connection.writing = m.connection.writing := by
  obtain ⟨c, s, taken⟩ := m
  induction hjobs : c.jobs generalizing c s with
  | nil => exact ⟨[], by simp, hjobs, rfl⟩
  | cons job jobs ih =>
    obtain ⟨first, hfirst, f, s', hone⟩ := exists_turns_end (S := S) 0 job [] jobs c s taken
    obtain ⟨steps, hown, hnone, hwriting⟩ := ih ((c.holding jobs).respond f) s' rfl
    have hc : c.holding ([] ++ job :: jobs) = c := by
      rw [List.nil_append, ← hjobs]
      rfl
    rw [hc, List.nil_append] at hone
    refine ⟨first ++ steps, List.forall_mem_append.mpr ⟨hfirst, hown⟩, ?_⟩
    rw [run_append, hone]
    exact ⟨hnone, hwriting⟩

/-- With as many turns of the writer as there are responses, none is left. -/
lemma run_writes_nil {n : Nat} (hn : m.connection.responses.length ≤ n)
    (hw : m.connection.writing = true ∨ m.connection.responses = []) :
    (m.run S (List.replicate n .write)).connection.responses = [] ∧
      (m.run S (List.replicate n .write)).connection.jobs = m.connection.jobs := by
  induction n generalizing m with
  | zero => exact ⟨List.length_eq_zero_iff.mp (Nat.le_zero.mp hn), rfl⟩
  | succ n ih =>
    obtain ⟨c, s, taken⟩ := m
    have hstep : ∃ c', (Service.mk c s taken).step S .write = ⟨c', s, taken⟩ ∧ c'.jobs = c.jobs ∧
        c'.responses.length ≤ n ∧ (c'.writing = true ∨ c'.responses = []) := by
      refine ⟨c.writeNext S.frameLimit, rfl, ?_⟩
      have hlength : c.responses.length ≤ n + 1 := hn
      have hstopped : c.writing = true ∨ c.responses = [] := hw
      unfold Connection.writeNext
      split
      · rename_i f rest _ hresponses
        rw [hresponses, List.length_cons] at hlength
        split
        · exact ⟨rfl, Nat.le_of_succ_le_succ hlength, .inl ‹_›⟩
        · exact ⟨rfl, Nat.zero_le n, .inr rfl⟩
      · rename_i hnext
        have hnone : c.responses = [] := by
          obtain hwriting | hnone := hstopped
          · cases hresponses : c.responses with
            | nil => rfl
            | cons f rest => exact (hnext f rest hwriting hresponses).elim
          · exact hnone
        rw [hnone]
        exact ⟨rfl, Nat.zero_le n, .inr rfl⟩
    obtain ⟨c', hc', hjobs, hlength, hw'⟩ := hstep
    rw [List.replicate_succ, run, List.foldl_cons, hc']
    obtain ⟨hnone, hkept⟩ := ih (m := ⟨c', s, taken⟩) hlength hw'
    exact ⟨hnone, hkept.trans hjobs⟩

/-- Whatever comes from the client and in whatever order the tasks take their turns, the requests
that have arrived are those that are answered or under way, each of them once, and what the client
is sent is the answers in the order in which they came up. The writer goes on whatever their length
is, and the server can always bring itself to where every request has been answered. -/
theorem requests_answered_once {steps : List (Step σ)} (hlo : 1024 ≤ S.frameLimit)
    (hhi : S.frameLimit < UInt64.size) (hsize : Measured S (opened client s) steps) :
    ((opened client s).run S steps).connection.writing = true ∧
      (∃ moves answered underWay written,
        Accounts S client s (requests S.frameLimit (History.of steps).received)
          (History.of steps).outside ((opened client s).run S steps) moves answered underWay
          written) ∧
      ∃ rest : List (Step σ), (∀ step ∈ rest, step.Own) ∧
        ((opened client s).run S (steps ++ rest)).connection.jobs = [] ∧
        ((opened client s).run S (steps ++ rest)).connection.responses = [] := by
  obtain ⟨-, moves, answered, underWay, written, t⟩ := exists_tracks_run hlo hhi hsize
  refine ⟨t.writing, ⟨moves, answered, underWay, written, t.toAccounts⟩, ?_⟩
  obtain ⟨turns, hown, hjobs, hwriting⟩ := exists_turns_all S ((opened client s).run S steps)
  rw [t.writing, ← run_append] at hwriting
  rw [← run_append] at hjobs
  obtain ⟨hresponses, hsame⟩ := run_writes_nil (S := S) (Nat.le_refl _) (.inl hwriting)
  rw [hjobs] at hsame
  generalize hn : ((opened client s).run S (steps ++ turns)).connection.responses.length = n at *
  refine ⟨turns ++ List.replicate n .write, ?_, ?_, ?_⟩
  · refine List.forall_mem_append.mpr ⟨hown, fun step hstep => ?_⟩
    obtain rfl := List.eq_of_mem_replicate hstep
    trivial
  · rw [← List.append_assoc, run_append]
    exact hsame
  · rw [← List.append_assoc, run_append]
    exact hresponses

/-- One of its methods sleeps before it answers, the other answers more than a frame can hold. -/
def napAndFlood : Server Unit where
  handlers := ((∅ : Dictionary String (Handler Unit)).insert "nap" fun _ _ =>
    .sleep 5 (.done (.ok [1]))).insert "flood" fun _ _ => .done (.ok (List.replicate 1100 0))
  frameLimit := 1024

/-- Two requests under one number with a response between them, and a header above the limit. The
second request is answered first. -/
def napThenFlood : List (Step Unit) :=
  [.arrive 0 ((Frame.writeAll 1024 [⟨7, .request "nap" []⟩, ⟨9, .response (.ok [])⟩,
      ⟨7, .request "flood" []⟩]).2 ++ [255, 255, 255, 255]),
    .turn 0 0, .turn 0 0, .write, .take, .turn 5 0, .write, .finish]

theorem requests_answered_once_flood :
    let m := (opened ⟨1⟩ ()).run napAndFlood napThenFlood
    1024 ≤ napAndFlood.frameLimit ∧ napAndFlood.frameLimit < UInt64.size ∧
      Measured napAndFlood (opened ⟨1⟩ ()) napThenFlood ∧
      (requests 1024 (History.of napThenFlood).received).map (fun r => (r.callId, r.method)) =
        [(7, "nap"), (7, "flood")] ∧
      m.taken ++ m.connection.output = (Frame.writeAll 1024
        [⟨7, .response (.error
            ⟨.internal, "response of 1124 bytes exceeds frame limit of 1024"⟩)⟩,
          ⟨7, .response (.ok [1])⟩]).2 ∧
      m.connection.ended = true ∧
      ∃ moves answered written,
        Accounts napAndFlood ⟨1⟩ () (requests 1024 (History.of napThenFlood).received) [] m moves
          answered [] written := by
  intro m
  have hsize : Measured napAndFlood (opened ⟨1⟩ ()) napThenFlood := by
    intro before hbefore
    have hall : ∀ before ∈ napThenFlood.inits,
        ∀ f ∈ ((opened ⟨1⟩ ()).run napAndFlood before).connection.responses,
          f.encoding.length < UInt64.size := by
      decide +kernel
    exact hall before ((List.mem_inits before napThenFlood).mpr hbefore)
  obtain ⟨-, ⟨moves, answered, underWay, written, a⟩, -⟩ :=
    requests_answered_once (by decide) (by decide) hsize
  have hjobs : m.connection.jobs.length = 0 := by decide +kernel
  obtain rfl : underWay = [] := by
    have hlength := congrArg List.length a.jobs
    rw [List.length_map] at hlength
    exact List.length_eq_zero_iff.mp (hlength.trans hjobs)
  exact ⟨by decide, by decide, hsize, by decide +kernel, by decide +kernel, by decide +kernel,
    moves, answered, written, a⟩

end PathPolicy.Call.Service
