import PathPolicy.Proofs.AnsweredRequests
import Mathlib.Data.List.InsertIdx
import Mathlib.Data.List.Perm.Basic

/-!
# All connections of a server

The connections that a server accepts are numbered and share its state. Each of them reads what
arrives, runs a job for each request, writes responses as long as it can, and is told farewell when
nothing is left to do. The steps of all connections come in any order. A connection on its own keeps
account of its requests: each of them is under way or has come to its response, and before the first
farewell all of them have.
-/

namespace PathPolicy

variable {σ α : Type}

/-- What can be left of the first procedure at some moment, whatever the states it finds. -/
inductive Procedure.Leads (p : Procedure σ α) : Procedure σ α → Prop
  | start : p.Leads p
  | act {update : σ → σ} {resume : σ → Procedure σ α} (s : σ) :
      p.Leads (.act update resume) → p.Leads (resume s)
  | sleep {ms : Nat} {rest : Procedure σ α} : p.Leads (.sleep ms rest) → p.Leads rest

namespace Call

/-- The job serves the request. -/
def Job.Serves (S : Server σ) (client : ClientId) (r : Request) (job : Job σ) : Prop :=
  job.callId = r.callId ∧ (r.task S client).Leads job.rest

/-- The frame is a response that serving the request can come to. -/
def Request.Answered (S : Server σ) (client : ClientId) (r : Request) (f : Frame) : Prop :=
  ∃ outcome, (r.task S client).Leads (.done outcome) ∧ f = r.response outcome

/-- Each request has come to its response and no other response has come up, in whatever order. -/
def AllAnswered (S : Server σ) (client : ClientId) (rs : List Request) (fs : List Frame) : Prop :=
  ∃ answered : List (Request × Frame), (answered.map Prod.fst).Perm rs ∧
    answered.map Prod.snd = fs ∧ ∀ a ∈ answered, a.1.Answered S client a.2

/-- The response that comes up when the job has its turn, if it has ended. -/
def Connection.ending (c : Connection σ) (n : Nat) : List Frame :=
  match c.jobs[n]? with
  | none => []
  | some job =>
    match job.rest with
    | .done outcome => [⟨job.callId, .response outcome⟩]
    | _ => []

/-- A connection with what has come to it and what has become of it. -/
structure Seat (σ : Type) where
  connection : Connection σ
  history : Service.History σ := {}
  /-- The responses that have come up, written or not. -/
  answered : List Frame := []
  /-- How many of the server's farewells its client has been told. -/
  farewells : Nat := 0

namespace Seat

inductive Step
  | arrive (now : Nat) (bytes : List UInt8)
  /-- The stream from the client ends or fails. -/
  | hangUp
  | turn (now n : Nat)
  | write
  /-- The stream to the client fails. -/
  | writeEnd
  | farewell

/-- A farewell is said only when nothing is left to be done, and each in its turn. -/
def step (S : Server σ) (seat : Seat σ) (s : σ) : Step → Seat σ × σ
  | .arrive now bytes =>
    ({ seat with
      connection := (seat.connection.receive bytes).readAll S now
      history := seat.history.add (.arrive now bytes) }, s)
  | .hangUp =>
    ({ seat with
      connection := seat.connection.receiveEnd
      history := seat.history.add .hangUp }, s)
  | .turn now n =>
    ({ seat with
      connection := (seat.connection.turn now s n).1
      answered := seat.answered ++ seat.connection.ending n }, (seat.connection.turn now s n).2)
  | .write => ({ seat with connection := seat.connection.writeNext S.frameLimit }, s)
  | .writeEnd => ({ seat with connection := seat.connection.writeEnd }, s)
  | .farewell =>
    if seat.connection.isDone then
      match S.farewells[seat.farewells]? with
      | none => (seat, s)
      | some farewell =>
        ({ seat with farewells := seat.farewells + 1 }, farewell seat.connection.client s)
    else (seat, s)

variable {S : Server σ} {seat : Seat σ} {s : σ}

variable (S seat s) in
/-- What a step of a connection can do to the state: nothing, a stretch of one of its jobs, or the
next farewell, for which nothing may be left to be done. -/
lemma step_cases (step : Step) :
    (seat.step S s step).2 = s ∧ (seat.step S s step).1.farewells = seat.farewells ∨
    (∃ job ∈ seat.connection.jobs, ∃ update resume, job.rest = .act update resume ∧
      (seat.step S s step).2 = update s ∧
      (seat.step S s step).1.farewells = seat.farewells) ∨
    (seat.connection.isDone = true ∧ ∃ farewell, S.farewells[seat.farewells]? = some farewell ∧
      seat.step S s step = ({ seat with farewells := seat.farewells + 1 },
        farewell seat.connection.client s)) := by
  cases step with
  | arrive now bytes => exact .inl ⟨rfl, rfl⟩
  | hangUp => exact .inl ⟨rfl, rfl⟩
  | write => exact .inl ⟨rfl, rfl⟩
  | writeEnd => exact .inl ⟨rfl, rfl⟩
  | turn now n =>
    cases hjob : seat.connection.jobs[n]? with
    | none => exact .inl ⟨by simp only [Seat.step, Connection.turn, hjob], rfl⟩
    | some job =>
      cases hrest : job.rest with
      | done outcome => exact .inl ⟨by simp only [Seat.step, Connection.turn, hjob, hrest], rfl⟩
      | sleep ms rest => exact .inl ⟨by simp only [Seat.step, Connection.turn, hjob, hrest], rfl⟩
      | act update resume =>
        refine .inr (.inl ⟨job, List.mem_of_getElem? hjob, update, resume, hrest, ?_, rfl⟩)
        simp only [Seat.step, Connection.turn, hjob, hrest]
  | farewell =>
    by_cases hdone : seat.connection.isDone
    · cases hfarewell : S.farewells[seat.farewells]? with
      | none => exact .inl (by simp [Seat.step, hdone, hfarewell])
      | some farewell =>
        exact .inr (.inr ⟨hdone, farewell, rfl, by simp [Seat.step, hdone, hfarewell]⟩)
    · exact .inl (by simp [Seat.step, hdone])

lemma client_readAll (S : Server σ) (now : Nat) (c : Connection σ) :
    (c.readAll S now).client = c.client := by
  unfold Connection.readAll
  split
  · split
    · rw [Service.foldl_accept]
      rfl
    · rw [Service.foldl_accept]
      rfl
  · rfl

lemma client_step (step : Step) :
    (seat.step S s step).1.connection.client = seat.connection.client := by
  cases step with
  | arrive now bytes =>
    refine (client_readAll S now _).trans ?_
    unfold Connection.receive
    split <;> rfl
  | hangUp => rfl
  | writeEnd => rfl
  | turn now n =>
    simp only [Seat.step, Connection.turn]
    split
    · rfl
    · split <;> rfl
  | write =>
    simp only [Seat.step, Connection.writeNext]
    split
    · split <;> rfl
    · rfl
  | farewell =>
    simp only [Seat.step]
    split
    · split <;> rfl
    · rfl

lemma farewells_le_step (step : Step) : seat.farewells ≤ (seat.step S s step).1.farewells := by
  obtain ⟨-, hsame⟩ | ⟨_, -, _, _, -, -, hsame⟩ | ⟨-, _, -, hstep⟩ :=
    step_cases S seat s step
  · exact hsame.ge
  · exact hsame.ge
  · rw [hstep]
    exact Nat.le_succ _

/-! ### When nothing is left to be done -/

lemma isDone_iff {c : Connection σ} :
    c.isDone = true ↔ c.reading = false ∧ c.jobs = [] ∧ (c.responses = [] ∨ c.writing = false) := by
  unfold Connection.isDone
  simp [List.isEmpty_iff, and_assoc]

/-- Nothing comes after. -/
lemma isDone_step (h : seat.connection.isDone = true) (step : Step) :
    (seat.step S s step).1.connection.isDone = true := by
  have hdone := h
  obtain ⟨hreading, hjobs, hwritten⟩ := isDone_iff.mp h
  cases step with
  | arrive now bytes =>
    have hsame : (seat.connection.receive bytes).readAll S now = seat.connection := by
      simp [Connection.receive, Connection.readAll, hreading]
    simp only [Seat.step, hsame]
    exact hdone
  | hangUp => exact isDone_iff.mpr ⟨rfl, hjobs, hwritten⟩
  | turn now n =>
    simp only [Seat.step, Connection.turn, hjobs, List.getElem?_nil]
    exact hdone
  | write =>
    have hsame : seat.connection.writeNext S.frameLimit = seat.connection := by
      unfold Connection.writeNext
      obtain hnone | hstopped := hwritten
      · rw [hnone]
        cases seat.connection.writing <;> rfl
      · rw [hstopped]
    simp only [Seat.step, hsame]
    exact hdone
  | writeEnd => exact isDone_iff.mpr ⟨hreading, hjobs, .inl rfl⟩
  | farewell =>
    unfold Seat.step
    cases hnext : S.farewells[seat.farewells]? <;> simp only [hdone, if_true]

/-! ### Farewells in a row -/

def run (S : Server σ) (seat : Seat σ) (s : σ) (steps : List Step) : Seat σ × σ :=
  steps.foldl (fun moment step => moment.1.step S moment.2 step) (seat, s)

/-- The farewells that are left are said one after another. -/
lemma run_farewells (hdone : seat.connection.isDone = true) {rest : List (ClientId → σ → σ)}
    (hrest : S.farewells.drop seat.farewells = rest) :
    seat.run S s (List.replicate rest.length .farewell) =
      ({ seat with farewells := seat.farewells + rest.length },
        rest.foldl (fun s farewell => farewell seat.connection.client s) s) := by
  induction rest generalizing seat s with
  | nil => rfl
  | cons farewell rest ih =>
    have hnext : S.farewells[seat.farewells]? = some farewell := by
      rw [← List.head?_drop, hrest]
      rfl
    have hstep : seat.step S s .farewell = ({ seat with farewells := seat.farewells + 1 },
        farewell seat.connection.client s) := by
      simp only [Seat.step, hdone, if_true, hnext]
    have htail : S.farewells.drop (seat.farewells + 1) = rest := by
      rw [← List.tail_drop, hrest]
      rfl
    rw [List.length_cons, List.replicate_succ, run, List.foldl_cons, hstep]
    refine (@ih { seat with farewells := seat.farewells + 1 } _ hdone htail).trans ?_
    rw [List.foldl_cons, Nat.add_assoc, Nat.add_comm 1]

/-- Together they do what is done at once for a connection with nothing left to be done. -/
theorem run_farewells_eq_finish (hdone : seat.connection.isDone = true)
    (hopen : seat.connection.ended = false) (hnone : seat.farewells = 0) :
    (seat.run S s (List.replicate S.farewells.length .farewell)).2 =
      (seat.connection.finish S s).2 := by
  rw [run_farewells hdone (by rw [hnone, List.drop_zero]), Connection.finish, hdone, hopen]
  rfl

/-! ### Accounts of one connection -/

/-- Each request that was read is under way or has come to its response. -/
def Balanced (S : Server σ) (seat : Seat σ) : Prop :=
  ∃ (answered : List (Request × Frame)) (underWay : List (Request × Job σ)),
    (answered.map Prod.fst ++ underWay.map Prod.fst).Perm
      (requests S.frameLimit seat.history.received) ∧
    answered.map Prod.snd = seat.answered ∧ underWay.map Prod.snd = seat.connection.jobs ∧
    (∀ a ∈ answered, a.1.Answered S seat.connection.client a.2) ∧
    ∀ u ∈ underWay, u.2.Serves S seat.connection.client u.1

/-- A connection is in order: what arrived was read and is accounted for, and there were farewells
only when nothing was left to be done, and no more than there are. -/
structure Kept (S : Server σ) (seat : Seat σ) : Prop where
  reads : Service.Reads S.frameLimit seat.history seat.connection
  balanced : seat.Balanced S
  done : 0 < seat.farewells → seat.connection.isDone = true
  most : seat.farewells ≤ S.farewells.length

lemma kept_new (S : Server σ) (client : ClientId) : Kept S ⟨{ client }, {}, [], 0⟩ where
  reads := Service.reads_start S.frameLimit client
  balanced :=
    ⟨[], [], by rw [Service.requests_nil]; exact List.Perm.nil, rfl, rfl, by simp, by simp⟩
  done h := absurd h (Nat.lt_irrefl 0)
  most := Nat.zero_le _

lemma Balanced.arrive (hr : Service.Reads S.frameLimit seat.history seat.connection)
    (h : seat.Balanced S) (now : Nat) (bytes : List UInt8) :
    (seat.step S s (.arrive now bytes)).1.Balanced S := by
  obtain ⟨new, reading, unread, hnew, hc, -⟩ := hr.arrive now bytes
  obtain ⟨answered, underWay, hperm, hanswered, hjobs, hresponses, hserves⟩ := h
  refine ⟨answered, underWay ++ new.map fun r =>
    (r, ⟨r.callId, now, r.task S seat.connection.client⟩), ?_, hanswered, ?_, ?_, ?_⟩
  · rw [Seat.step, hnew, List.map_append, ← List.append_assoc, List.map_map]
    exact hperm.append (by simp [Function.comp_def])
  · simp only [Seat.step, hc, List.map_append, List.map_map, hjobs]
    rfl
  · simp only [Seat.step, hc]
    exact hresponses
  · simp only [Seat.step, hc]
    intro u hu
    obtain hu | hu := List.mem_append.mp hu
    · exact hserves u hu
    · obtain ⟨r, -, rfl⟩ := List.mem_map.mp hu
      exact ⟨rfl, .start⟩

/-- The account with one job set aside, which serves a request of its own. -/
lemma Balanced.setAside (h : seat.Balanced S) {n : Nat} {job : Job σ}
    (hjob : seat.connection.jobs[n]? = some job) :
    ∃ (r : Request) (answered : List (Request × Frame)) (others : List (Request × Job σ)),
      job.Serves S seat.connection.client r ∧
      (answered.map Prod.fst ++ r :: others.map Prod.fst).Perm
        (requests S.frameLimit seat.history.received) ∧
      answered.map Prod.snd = seat.answered ∧
      others.map Prod.snd = seat.connection.jobs.eraseIdx n ∧
      (∀ a ∈ answered, a.1.Answered S seat.connection.client a.2) ∧
      ∀ u ∈ others, u.2.Serves S seat.connection.client u.1 := by
  obtain ⟨answered, underWay, hperm, hanswered, hjobs, hresponses, hserves⟩ := h
  rw [← hjobs, List.getElem?_map, Option.map_eq_some_iff] at hjob
  obtain ⟨⟨r, job⟩, hu, rfl⟩ := hjob
  obtain ⟨hn, hget⟩ := List.getElem?_eq_some_iff.mp hu
  refine ⟨r, answered, underWay.eraseIdx n, hserves _ (List.mem_of_getElem? hu), ?_, hanswered,
    ?_, hresponses, fun u hu => hserves u (List.mem_of_mem_eraseIdx hu)⟩
  · have hsplit := List.getElem_cons_eraseIdx_perm hn
    rw [hget] at hsplit
    exact ((hsplit.map Prod.fst).append_left _).trans hperm
  · rw [← hjobs, List.eraseIdx_map]

/-- A job that has not come to its response is the last of those under way from now on. -/
lemma Balanced.goesOn (h : seat.Balanced S) {n : Nat} {job job' : Job σ}
    (hjob : seat.connection.jobs[n]? = some job)
    (hjob' : ∀ r, job.Serves S seat.connection.client r → job'.Serves S seat.connection.client r) :
    Balanced S { seat with
      connection := seat.connection.holding (seat.connection.jobs.eraseIdx n ++ [job']) } := by
  obtain ⟨r, answered, others, hr, hperm, hanswered, hjobs, hresponses, hserves⟩ := h.setAside hjob
  refine ⟨answered, others ++ [(r, job')], ?_, hanswered, ?_, hresponses, ?_⟩
  · rw [List.map_append]
    exact ((List.perm_append_singleton r _).append_left _).trans hperm
  · rw [List.map_append, hjobs]
    rfl
  · intro u hu
    obtain hu | hu := List.mem_append.mp hu
    · exact hserves u hu
    · rw [List.mem_singleton.mp hu]
      exact hjob' r hr

lemma Balanced.ends (h : seat.Balanced S) {n : Nat} {job : Job σ}
    {outcome : Except MethodError (List UInt8)} (hjob : seat.connection.jobs[n]? = some job)
    (hrest : job.rest = .done outcome) :
    Balanced S { seat with
      connection := (seat.connection.holding (seat.connection.jobs.eraseIdx n)).respond
        ⟨job.callId, .response outcome⟩
      answered := seat.answered ++ [⟨job.callId, .response outcome⟩] } := by
  obtain ⟨r, answered, others, ⟨hid, hleads⟩, hperm, hanswered, hjobs, hresponses, hserves⟩ :=
    h.setAside hjob
  refine ⟨answered ++ [(r, ⟨job.callId, .response outcome⟩)], others, ?_, ?_, hjobs, ?_, hserves⟩
  · rw [List.map_append, List.append_assoc]
    exact hperm
  · rw [List.map_append, hanswered]
    rfl
  · intro a ha
    obtain ha | ha := List.mem_append.mp ha
    · exact hresponses a ha
    · rw [List.mem_singleton.mp ha]
      refine ⟨outcome, hrest ▸ hleads, ?_⟩
      rw [Request.response, ← hid]

/-- A task that has its turn goes on with what it leads to, or comes to its response. -/
lemma Balanced.turn (h : seat.Balanced S) (now n : Nat) :
    (seat.step S s (.turn now n)).1.Balanced S := by
  cases hjob : seat.connection.jobs[n]? with
  | none =>
    simp only [Seat.step, Connection.turn, Connection.ending, hjob, List.append_nil]
    exact h
  | some job =>
    cases hrest : job.rest with
    | done outcome =>
      simp only [Seat.step, Connection.turn, Connection.ending, hjob, hrest]
      exact h.ends hjob hrest
    | act update resume =>
      simp only [Seat.step, Connection.turn, Connection.ending, hjob, hrest, List.append_nil]
      exact h.goesOn hjob fun r hr => ⟨hr.1, .act s (hrest ▸ hr.2)⟩
    | sleep ms rest =>
      simp only [Seat.step, Connection.turn, Connection.ending, hjob, hrest, List.append_nil]
      exact h.goesOn hjob fun r hr => ⟨hr.1, .sleep (hrest ▸ hr.2)⟩

lemma Balanced.step (hr : Service.Reads S.frameLimit seat.history seat.connection)
    (h : seat.Balanced S) (step : Step) : (seat.step S s step).1.Balanced S := by
  cases step with
  | arrive now bytes => exact h.arrive hr now bytes
  | hangUp => exact h
  | turn now n => exact h.turn now n
  | writeEnd => exact h
  | write =>
    have hsame : (seat.connection.writeNext S.frameLimit).jobs = seat.connection.jobs := by
      unfold Connection.writeNext
      split
      · split <;> rfl
      · rfl
    have hclient : (seat.connection.writeNext S.frameLimit).client = seat.connection.client :=
      client_step (s := s) .write
    obtain ⟨answered, underWay, hperm, hanswered, hjobs, hresponses, hserves⟩ := h
    refine ⟨answered, underWay, hperm, hanswered, hjobs.trans hsame.symm, ?_, ?_⟩
    · simp only [Seat.step, hclient]
      exact hresponses
    · simp only [Seat.step, hclient]
      exact hserves
  | farewell =>
    simp only [Seat.step]
    split
    · split <;> exact h
    · exact h

lemma reads_step (h : Service.Reads S.frameLimit seat.history seat.connection) (step : Step) :
    Service.Reads S.frameLimit (seat.step S s step).1.history
      (seat.step S s step).1.connection := by
  let m : Service σ := ⟨seat.connection, s, []⟩
  cases step with
  | arrive now bytes => exact Service.Reads.step (m := m) h (.arrive now bytes)
  | hangUp => exact Service.Reads.step (m := m) h .hangUp
  | turn now n => exact Service.Reads.step (m := m) h (.turn now n)
  | write => exact Service.Reads.step (m := m) h .write
  | writeEnd => exact h.of_eq rfl rfl
  | farewell =>
    simp only [Seat.step]
    split
    · split <;> exact h
    · exact h

lemma Kept.step (k : Kept S seat) (step : Step) : Kept S (seat.step S s step).1 where
  reads := reads_step k.reads step
  balanced := k.balanced.step k.reads step
  done := by
    intro hsaid
    obtain ⟨-, hsame⟩ | ⟨_, -, _, _, -, -, hsame⟩ | ⟨hdone, -⟩ :=
      step_cases S seat s step
    · exact isDone_step (k.done (hsame ▸ hsaid)) step
    · exact isDone_step (k.done (hsame ▸ hsaid)) step
    · exact isDone_step hdone step
  most := by
    obtain ⟨-, hsame⟩ | ⟨_, -, _, _, -, -, hsame⟩ | ⟨-, _, hnext, hstep⟩ :=
      step_cases S seat s step
    · exact hsame.le.trans k.most
    · exact hsame.le.trans k.most
    · rw [hstep]
      exact (List.getElem?_eq_some_iff.mp hnext).1

/-- Nothing is left to be done: the stream has ended or cannot be read on, and all that was asked
on it has come to a response. -/
structure Finished (S : Server σ) (seat : Seat σ) : Prop where
  stopped : seat.history.hungUp = true ∨
    ∃ e, (Frame.readMany S.frameLimit seat.history.received).2 = .error e
  idle : seat.connection.reading = false ∧ seat.connection.jobs = []
  answered : AllAnswered S seat.connection.client (requests S.frameLimit seat.history.received)
    seat.answered

lemma Kept.finished (k : Kept S seat) (h : seat.connection.isDone = true) : seat.Finished S := by
  obtain ⟨hreading, hjobs, -⟩ := isDone_iff.mp h
  obtain ⟨answered, underWay, hperm, hanswered, hunder, hresponses, -⟩ := k.balanced
  rw [hjobs, List.map_eq_nil_iff] at hunder
  rw [hunder, List.map_nil, List.append_nil] at hperm
  exact ⟨k.reads.stopped hreading, ⟨hreading, hjobs⟩, answered, hperm, hanswered, hresponses⟩

end Seat

/-! ### All connections -/

/-- A server with the connections it has accepted. -/
structure Hub (σ : Type) where
  /-- The number of the next client. -/
  next : UInt64 := 1
  seats : List (Seat σ) := []
  state : σ

namespace Hub

variable {τ : Type}

inductive Step (τ : Type)
  | accept
  | connection (n : Nat) (step : Seat.Step)
  /-- What goes on elsewhere with the part of the state that is not the server's own. -/
  | elsewhere (f : τ → τ)

def step (S : Server σ) (p : Procedure.Place σ τ) (h : Hub σ) : Step τ → Hub σ
  | .accept =>
    { h with next := h.next + 1, seats := h.seats ++ [{ connection := { client := ⟨h.next⟩ } }] }
  | .connection n step =>
    match h.seats[n]? with
    | none => h
    | some seat =>
      { h with
        seats := h.seats.set n (seat.step S h.state step).1
        state := (seat.step S h.state step).2 }
  | .elsewhere f => { h with state := p.modify f h.state }

def run (S : Server σ) (p : Procedure.Place σ τ) (h : Hub σ) (steps : List (Step τ)) : Hub σ :=
  steps.foldl (step S p) h

variable {S : Server σ} {p : Procedure.Place σ τ} {h : Hub σ}

lemma state_connection {n : Nat} {seat : Seat σ} (hn : h.seats[n]? = some seat)
    (step : Seat.Step) :
    (h.step S p (.connection n step)).state = (seat.step S h.state step).2 := by
  simp only [Hub.step, hn]

/-- The connections are numbered in their order, and each of them is in order. -/
structure Orderly (S : Server σ) (h : Hub σ) : Prop where
  next : h.next = UInt64.ofNat (h.seats.length + 1)
  client : ∀ (n : Nat) (seat : Seat σ), h.seats[n]? = some seat →
    seat.connection.client = ⟨UInt64.ofNat (n + 1)⟩
  kept : ∀ seat ∈ h.seats, seat.Kept S

lemma orderly_new (S : Server σ) (s : σ) : Orderly S { state := s } where
  next := rfl
  client := by simp
  kept := by simp

lemma Orderly.accept (o : Orderly S h) : Orderly S (h.step S p .accept) := by
  refine ⟨?_, fun n seat hseat => ?_, fun seat hseat => ?_⟩
  · simp only [Hub.step, o.next, List.length_append, List.length_singleton]
    rw [UInt64.ofNat_add (h.seats.length + 1)]
    rfl
  · simp only [Hub.step, List.getElem?_append] at hseat
    split_ifs at hseat with hn
    · exact o.client n seat hseat
    · rw [List.getElem?_singleton] at hseat
      split_ifs at hseat with hlast
      obtain rfl := Option.some.inj hseat
      have hlength : n = h.seats.length := by omega
      rw [hlength]
      exact congrArg ClientId.mk o.next
  · obtain hseat | hseat := List.mem_append.mp hseat
    · exact o.kept seat hseat
    · rw [List.mem_singleton.mp hseat]
      exact Seat.kept_new S _

lemma Orderly.connection (o : Orderly S h) (n : Nat) (step : Seat.Step) :
    Orderly S (h.step S p (.connection n step)) := by
  simp only [Hub.step]
  cases hn : h.seats[n]? with
  | none => exact o
  | some seat =>
    have hkept := o.kept seat (List.mem_of_getElem? hn)
    refine ⟨?_, fun i seat' hseat => ?_, fun seat' hseat => ?_⟩
    · simpa only [List.length_set] using o.next
    · rw [List.getElem?_set] at hseat
      split_ifs at hseat with hi
      · subst hi
        obtain rfl := Option.some.inj hseat
        rw [Seat.client_step]
        exact o.client n seat hn
      · exact o.client i seat' hseat
    · obtain hseat | rfl := List.mem_or_eq_of_mem_set hseat
      · exact o.kept seat' hseat
      · exact hkept.step step

lemma Orderly.step (o : Orderly S h) (step : Step τ) : Orderly S (h.step S p step) := by
  cases step with
  | accept => exact o.accept
  | connection n step => exact o.connection n step
  | elsewhere f => exact ⟨o.next, o.client, o.kept⟩

lemma Orderly.run (o : Orderly S h) (steps : List (Step τ)) : Orderly S (h.run S p steps) := by
  induction steps generalizing h with
  | nil => exact o
  | cons step steps ih => exact ih (o.step step)

lemma run_append (steps more : List (Step τ)) :
    h.run S p (steps ++ more) = (h.run S p steps).run S p more :=
  List.foldl_append

/-- No two connections have one number before the numbers run out. -/
lemma Orderly.eq_of_client_eq (o : Orderly S h) (hfew : h.seats.length ≤ UInt64.size) {i j : Nat}
    {seat seat' : Seat σ} (hi : h.seats[i]? = some seat) (hj : h.seats[j]? = some seat')
    (hclient : seat.connection.client = seat'.connection.client) : i = j := by
  have hsame : UInt64.ofNat (i + 1) = UInt64.ofNat (j + 1) := by
    have heq := (o.client i seat hi).symm.trans (hclient.trans (o.client j seat' hj))
    exact congrArg ClientId.number heq
  have hi' : i < h.seats.length := (List.getElem?_eq_some_iff.mp hi).1
  have hj' : j < h.seats.length := (List.getElem?_eq_some_iff.mp hj).1
  have hnat := congrArg UInt64.toNat hsame
  rw [UInt64.toNat_ofNat', UInt64.toNat_ofNat'] at hnat
  have hsize : UInt64.size = 2 ^ 64 := rfl
  omega

/-- A connection keeps its place and its client, and nothing that was said to it is taken back. -/
lemma exists_seat_step {n : Nat} {seat : Seat σ} (hn : h.seats[n]? = some seat) (step : Step τ) :
    ∃ seat' : Seat σ, (h.step S p step).seats[n]? = some seat' ∧
      seat'.connection.client = seat.connection.client ∧ seat.farewells ≤ seat'.farewells := by
  cases step with
  | accept =>
    obtain ⟨hlt, -⟩ := List.getElem?_eq_some_iff.mp hn
    refine ⟨seat, ?_, rfl, Nat.le_refl _⟩
    rw [Hub.step, List.getElem?_append_left hlt, hn]
  | elsewhere f => exact ⟨seat, hn, rfl, Nat.le_refl _⟩
  | connection i step =>
    simp only [Hub.step]
    cases hi : h.seats[i]? with
    | none => exact ⟨seat, hn, rfl, Nat.le_refl _⟩
    | some first =>
      by_cases hin : i = n
      · subst hin
        obtain rfl := Option.some.inj (hi.symm.trans hn)
        obtain ⟨hlt, -⟩ := List.getElem?_eq_some_iff.mp hn
        refine ⟨(first.step S h.state step).1, ?_, Seat.client_step step,
          Seat.farewells_le_step step⟩
        rw [List.getElem?_set_self hlt]
      · exact ⟨seat, by rw [List.getElem?_set_ne hin, hn], rfl, Nat.le_refl _⟩

lemma exists_seat_run {n : Nat} {seat : Seat σ} (hn : h.seats[n]? = some seat)
    (steps : List (Step τ)) :
    ∃ seat' : Seat σ, (h.run S p steps).seats[n]? = some seat' ∧
      seat'.connection.client = seat.connection.client ∧ seat.farewells ≤ seat'.farewells := by
  induction steps generalizing h seat with
  | nil => exact ⟨seat, hn, rfl, Nat.le_refl _⟩
  | cons step steps ih =>
    obtain ⟨next, hnext, hclient, hsaid⟩ := exists_seat_step (S := S) (p := p) hn step
    obtain ⟨seat', hseat', hclient', hsaid'⟩ := ih hnext
    exact ⟨seat', hseat', hclient'.trans hclient, hsaid.trans hsaid'⟩

end Hub

end Call

end PathPolicy
