import PathPolicy.Call.Connection
import PathPolicy.Proofs.Interleaving

/-!
# Requests served side by side

Each request of a client is a task. The tasks take turns with one another, with the bytes that
arrive, with the writer of the responses and with all that goes on elsewhere on the shared state.
What `Connection.settle` does at a moment is one such order of steps.
-/

namespace PathPolicy

variable {σ α : Type}

/-! ### Tasks among other things that happen -/

/-- What may happen to the state that tasks share with others. -/
inductive Move (σ : Type)
  | turn (n : Nat)
  | elsewhere (f : σ → σ)
  | farewell

namespace Move

def elsewhere? : Move σ → Option (σ → σ)
  | elsewhere f => some f
  | _ => none

def isFarewell : Move σ → Bool
  | farewell => true
  | _ => false

end Move

namespace Pool

def play (farewell : σ → σ) (p : Pool σ α) : Move σ → Pool σ α
  | .turn n => p.step (fun _ s => s) n
  | .elsewhere f => { p with state := f p.state }
  | .farewell => { p with state := farewell p.state }

def playAll (farewell : σ → σ) (p : Pool σ α) (moves : List (Move σ)) : Pool σ α :=
  moves.foldl (play farewell) p

variable {farewell : σ → σ} {p : Pool σ α}

lemma playAll_append_singleton (moves : List (Move σ)) (move : Move σ) :
    p.playAll farewell (moves ++ [move]) = (p.playAll farewell moves).play farewell move := by
  simp only [playAll, List.foldl_append, List.foldl_cons, List.foldl_nil]

lemma length_play (move : Move σ) : (p.play farewell move).tasks.length = p.tasks.length := by
  cases move with
  | turn n => exact length_tasks_step _ p n
  | elsewhere f => rfl
  | farewell => rfl

lemma length_playAll (moves : List (Move σ)) :
    (p.playAll farewell moves).tasks.length = p.tasks.length := by
  induction moves generalizing p with
  | nil => rfl
  | cons move moves ih => exact ih.trans (length_play move)

variable (farewell p) in
/-- Tasks that have no turn stay as they are and are in nobody's way. -/
lemma playAll_append_tasks {moves : List (Move σ)}
    (h : ∀ n, Move.turn n ∈ moves → n < p.tasks.length) (more : List (Procedure σ α)) :
    (Pool.mk (p.tasks ++ more) p.state).playAll farewell moves =
      ⟨(p.playAll farewell moves).tasks ++ more, (p.playAll farewell moves).state⟩ := by
  induction moves generalizing p with
  | nil => rfl
  | cons move moves ih =>
    have hrest : ∀ n, Move.turn n ∈ moves → n < (p.play farewell move).tasks.length := by
      intro n hn
      rw [length_play]
      exact h n (List.mem_cons_of_mem _ hn)
    have hfirst : (Pool.mk (p.tasks ++ more) p.state).play farewell move =
        ⟨(p.play farewell move).tasks ++ more, (p.play farewell move).state⟩ := by
      cases move with
      | turn n =>
        have hn : n < p.tasks.length := h n List.mem_cons_self
        simp only [play, step, List.getElem?_append_left hn, List.getElem?_eq_getElem hn]
        rw [List.set_append_left _ _ hn]
      | elsewhere f => rfl
      | farewell => rfl
    rw [playAll, List.foldl_cons, hfirst]
    exact ih _ hrest

end Pool

namespace Call

/-! ### The steps of a connection -/

namespace Connection

def holding (c : Connection σ) (jobs : List (Job σ)) : Connection σ := { c with jobs }

def respond (c : Connection σ) (f : Frame) : Connection σ :=
  { c with responses := c.responses ++ [f] }

/-- Carries a task over its next stretch or sleep. Once it has ended, its response waits to be
written. -/
def turn (now : Nat) (c : Connection σ) (s : σ) (i : Nat) : Connection σ × σ :=
  match c.jobs[i]? with
  | none => (c, s)
  | some job =>
    match job.rest with
    | .done outcome =>
      ((c.holding (c.jobs.eraseIdx i)).respond ⟨job.callId, .response outcome⟩, s)
    | .act update resume =>
      (c.holding (c.jobs.eraseIdx i ++ [{ job with rest := resume s }]), update s)
    | .sleep ms rest =>
      (c.holding (c.jobs.eraseIdx i ++ [{ job with due := now + ms, rest }]), s)

end Connection

/-- A connection that is served. -/
structure Service (σ : Type) where
  connection : Connection σ
  /-- Shared with all that goes on elsewhere. -/
  state : σ
  /-- What the client has read of the output. -/
  taken : List UInt8 := []

namespace Service

inductive Step (σ : Type)
  | arrive (now : Nat) (bytes : List UInt8)
  /-- The stream from the client ends. -/
  | hangUp
  | turn (now i : Nat)
  | write
  | finish
  /-- The client reads what has been written. -/
  | take
  | elsewhere (f : σ → σ)

/-- What the server does when nothing comes from without. -/
def Step.Own : Step σ → Prop
  | .turn .. | .write | .finish => True
  | _ => False

variable (S : Server σ)

def step (m : Service σ) : Step σ → Service σ
  | .arrive now bytes => { m with connection := (m.connection.receive bytes).readAll S now }
  | .hangUp => { m with connection := m.connection.receiveEnd }
  | .turn now i =>
    let (connection, state) := m.connection.turn now m.state i
    { m with connection, state }
  | .write => { m with connection := m.connection.writeNext S.frameLimit }
  | .finish =>
    let (connection, state) := m.connection.finish S m.state
    { m with connection, state }
  | .take =>
    let (bytes, connection) := m.connection.take
    { m with connection, taken := m.taken ++ bytes }
  | .elsewhere f => { m with state := f m.state }

def run (m : Service σ) (steps : List (Step σ)) : Service σ := steps.foldl (step S) m

variable {S} {m : Service σ}

lemma run_append (steps more : List (Step σ)) :
    m.run S (steps ++ more) = (m.run S steps).run S more :=
  List.foldl_append

/-! ### A moment of the server -/

lemma turn_middle (now : Nat) (c : Connection σ) (s : σ) (taken : List UInt8)
    (pre post : List (Job σ)) (job : Job σ) :
    (Service.mk (c.holding (pre ++ job :: post)) s taken).step S (.turn now pre.length) =
      match job.rest with
      | .done outcome =>
        ⟨(c.holding (pre ++ post)).respond ⟨job.callId, .response outcome⟩, s, taken⟩
      | .act update resume =>
        ⟨c.holding (pre ++ post ++ [{ job with rest := resume s }]), update s, taken⟩
      | .sleep ms rest =>
        ⟨c.holding (pre ++ post ++ [{ job with due := now + ms, rest }]), s, taken⟩ := by
  have herase : (pre ++ job :: post).eraseIdx pre.length = pre ++ post := by
    rw [List.eraseIdx_append_of_length_le (Nat.le_refl _), Nat.sub_self]
    rfl
  obtain ⟨callId, due, rest⟩ := job
  cases rest <;>
    simp [step, Connection.turn, Connection.holding, Connection.respond, herase]

/-- What one job does until it sleeps or ends, it does in turns. -/
lemma exists_turns_runJob (now : Nat) (job : Job σ) (pre post : List (Job σ)) (c : Connection σ)
    (s : σ) (taken : List UInt8) :
    ∃ steps : List (Step σ), (∀ step ∈ steps, step.Own) ∧
      (Service.mk (c.holding (pre ++ job :: post)) s taken).run S steps =
        ⟨((c.holding (pre ++ post)).runJob now job s).1,
          ((c.holding (pre ++ post)).runJob now job s).2, taken⟩ := by
  obtain ⟨callId, due, rest⟩ := job
  induction rest generalizing pre post due s with
  | done outcome =>
    refine ⟨[.turn now pre.length], by simp [Step.Own], ?_⟩
    rw [run, List.foldl_cons, turn_middle]
    rfl
  | act update resume ih =>
    obtain ⟨steps, hown, hrun⟩ := ih s (pre ++ post) [] (update s) due
    refine ⟨.turn now pre.length :: steps, by simpa [Step.Own] using hown, ?_⟩
    rw [List.append_nil] at hrun
    rw [run, List.foldl_cons, turn_middle]
    exact hrun
  | sleep ms rest ih =>
    cases ms with
    | zero =>
      obtain ⟨steps, hown, hrun⟩ := ih (pre ++ post) [] s (now + 0)
      refine ⟨.turn now pre.length :: steps, by simpa [Step.Own] using hown, ?_⟩
      rw [List.append_nil] at hrun
      rw [run, List.foldl_cons, turn_middle]
      exact hrun
    | succ ms =>
      refine ⟨[.turn now pre.length], by simp [Step.Own], ?_⟩
      rw [run, List.foldl_cons, turn_middle]
      rfl

lemma runJob_holding (now : Nat) (c : Connection σ) (jobs : List (Job σ)) (job : Job σ) (s : σ) :
    (c.holding jobs).runJob now job s =
      match job.rest.start s with
      | (.answered outcome, s) => ((c.respond ⟨job.callId, .response outcome⟩).holding jobs, s)
      | (.asleep ms rest, s) => (c.holding (jobs ++ [{ job with due := now + ms, rest }]), s) :=
  rfl

/-- All jobs that are due, in their order, and then the others. -/
lemma exists_turns_jobs (now : Nat) (due : Job σ → Bool) (jobs pre moved : List (Job σ))
    (c : Connection σ) (s : σ) (taken : List UInt8) :
    ∃ steps : List (Step σ), (∀ step ∈ steps, step.Own) ∧
      let done := (jobs.filter due).foldl (fun (c, s) job => c.runJob now job s)
        (c.holding (pre ++ jobs.filter (not ∘ due) ++ moved), s)
      (Service.mk (c.holding (pre ++ jobs ++ moved)) s taken).run S steps =
        ⟨done.1, done.2, taken⟩ := by
  induction jobs generalizing pre moved c s with
  | nil => exact ⟨[], by simp, rfl⟩
  | cons job jobs ih =>
    by_cases hdue : due job
    · obtain ⟨first, hfirst, hone⟩ :=
        exists_turns_runJob (S := S) now job pre (jobs ++ moved) c s taken
      rw [← List.append_assoc] at hone
      have hlist : pre ++ job :: jobs ++ moved = pre ++ job :: (jobs ++ moved) := by simp
      rw [List.filter_cons_of_pos hdue, List.filter_cons_of_neg (by simp [hdue]),
        List.foldl_cons, hlist]
      dsimp only
      rcases hstart : job.rest.start s with ⟨outcome | ⟨ms, rest⟩, s'⟩
      · simp only [runJob_holding, hstart] at hone ⊢
        obtain ⟨steps, hown, hrun⟩ := ih pre moved (c.respond ⟨job.callId, .response outcome⟩) s'
        refine ⟨first ++ steps, List.forall_mem_append.mpr ⟨hfirst, hown⟩, ?_⟩
        rw [run_append, hone]
        exact hrun
      · simp only [runJob_holding, hstart] at hone ⊢
        obtain ⟨steps, hown, hrun⟩ :=
          ih pre (moved ++ [{ job with due := now + ms, rest }]) c s'
        refine ⟨first ++ steps, List.forall_mem_append.mpr ⟨hfirst, hown⟩, ?_⟩
        rw [run_append, hone]
        simpa only [List.append_assoc] using hrun
    · obtain ⟨steps, hown, hrun⟩ := ih (pre ++ [job]) moved c s
      refine ⟨steps, hown, ?_⟩
      rw [List.filter_cons_of_neg hdue, List.filter_cons_of_pos (by simp [hdue])]
      simpa only [List.append_assoc, List.singleton_append] using hrun

lemma exists_turns_runDue (now : Nat) (m : Service σ) :
    ∃ steps : List (Step σ), (∀ step ∈ steps, step.Own) ∧
      m.run S steps =
        ⟨(m.connection.runDue now m.state).1, (m.connection.runDue now m.state).2, m.taken⟩ := by
  obtain ⟨c, s, taken⟩ := m
  obtain ⟨steps, hown, hrun⟩ :=
    exists_turns_jobs (S := S) now (fun j => j.due ≤ now) c.jobs [] [] c s taken
  refine ⟨steps, hown, ?_⟩
  simp only [List.nil_append, List.append_nil] at hrun
  simp only [Connection.runDue, List.partition_eq_filter_filter]
  exact hrun

lemma run_writes (m : Service σ) (n : Nat) :
    m.run S (List.replicate n .write) =
      { m with connection :=
          (List.range n).foldl (fun c _ => c.writeNext S.frameLimit) m.connection } := by
  induction n with
  | zero => rfl
  | succ n ih =>
    rw [List.replicate_succ', run_append, ih, List.range_succ, List.foldl_append]
    rfl

/-- Bytes that arrive and all that the server does at that moment are an order of steps. -/
theorem exists_run_eq_settle (m : Service σ) (now : Nat) (bytes : List UInt8) :
    ∃ steps : List (Step σ), (∀ step ∈ steps, step.Own) ∧
      m.run S (.arrive now bytes :: steps) =
        ⟨((m.connection.receive bytes).settle S now m.state).1,
          ((m.connection.receive bytes).settle S now m.state).2, m.taken⟩ := by
  obtain ⟨turns, hturns, hdue⟩ := exists_turns_runDue (S := S) now (m.step S (.arrive now bytes))
  generalize hm' : Service.mk _ _ _ = m' at hdue
  refine ⟨turns ++ (List.replicate m'.connection.responses.length .write ++ [.finish]), ?_, ?_⟩
  · intro step hstep
    rw [List.mem_append, List.mem_append, List.mem_singleton] at hstep
    obtain h | h | rfl := hstep
    · exact hturns step h
    · obtain rfl := List.eq_of_mem_replicate h
      trivial
    · trivial
  · rw [run, List.foldl_cons, ← run, run_append, hdue, run_append, run_writes, ← hm']
    rfl

end Service

end Call

end PathPolicy
