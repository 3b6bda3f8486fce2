import PathPolicy.Proofs.TracerCalls

/-!
# Runs of a tracer service

In a run the calls to a tracer service take turns in any order, each until it is answered. Beside
the service itself a run shows which ids its calls have made known and which clients are gone, in
the order in which the calls were settled. `Stepped` says what one turn does to a run.
-/

namespace PathPolicy.Remote

open Telemetry Procedure

/-- The calls made to a tracer service, and the tracer behind it. -/
structure Traffic (τ : Type) where
  tracer : Tracer τ
  elapse : Nat → τ → τ
  calls : List TracerCall
  start : τ

/-- How far a run has come: the calls under way, and what those that were settled have changed, the
latest first. -/
structure TracerRun (τ : Type) where
  pool : Pool (Serving τ) (Except MethodError Unit)
  changes : List Change

variable {τ : Type}

namespace TracerRun

variable (r : TracerRun τ)

def book : ConnectionBook := r.pool.state.1

/-- The id issued for a client's id, if that is known. -/
def known (c : ClientId) (id : TracingId) : Option TracingId := r.book.connections.get? (c, id)

/-- What the tracer was told for the `i`-th call. -/
def told (i : Nat) : List Notice := Journal.told r.pool.state.2.1 i

def answer? (i : Nat) : Option (Except MethodError Unit) := r.pool.answer? i

end TracerRun

namespace Traffic

variable (X : Traffic τ)

def initial : TracerRun τ :=
  ⟨⟨X.calls.mapIdx fun i call => call.serve X.tracer i, ({}, [], X.start)⟩, []⟩

/-- What a turn of the `i`-th call has changed. -/
def change? (before after : Pool (Serving τ) (Except MethodError Unit)) (i : Nat) :
    Option Change :=
  (X.calls[i]?).bind fun call =>
    call.change? (Journal.told after.state.2.1 i) (arising (before.answer? i) (after.answer? i))

def step (r : TracerRun τ) (i : Nat) : TracerRun τ :=
  let pool := r.pool.step (meanwhile X.elapse) i
  ⟨pool, (X.change? r.pool pool i).toList ++ r.changes⟩

def run (turns : List Nat) : TracerRun τ := turns.foldl X.step X.initial

end Traffic

/-! ### One turn -/

lemma Journal.told_append (j : Journal) (i k : Nat) (notices : List Notice) :
    Journal.told (j ++ notices.map fun n => (i, n)) k =
      Journal.told j k ++ if i = k then notices else [] := by
  simp only [Journal.told, List.filter_append, List.map_append]
  congr 1
  by_cases h : i = k
  · simp [h, List.filter_map, Function.comp_def]
  · simp [h, List.filter_map, Function.comp_def]

/-- A turn of a call in a run changes the book as `Turn` says, and appends to what the tracer was
told for this call only. -/
structure Stepped (X : Traffic τ) (r r' : TracerRun τ) (i : Nat) (call : TracerCall)
    (minted minted' : Option TracingId) : Prop where
  stage : ∃ task, r'.pool.tasks[i]? = some task ∧
    Stage X.tracer i call minted' (r'.told i) task
  told_self : ∃ notices, r'.told i = r.told i ++ notices
  told_of_ne : ∀ j, j ≠ i → r'.told j = r.told j
  turn : ∃ change, Turn call r.book minted minted' change r'.book ∧
    change = call.change? (r'.told i) (arising (r.answer? i) (r'.answer? i)) ∧
    r'.changes = change.toList ++ r.changes

variable {X : Traffic τ} {r : TracerRun τ} {i : Nat} {call : TracerCall}

lemma Traffic.tasks_step (r : TracerRun τ) (i j : Nat) :
    (X.step r i).pool.tasks[j]? = if i = j then
      r.pool.tasks[j]?.map fun task => (task.advance (meanwhile X.elapse) r.pool.state).1
    else r.pool.tasks[j]? :=
  Pool.getElem?_step _ _ _ _

lemma Traffic.state_step {task : ServiceTask τ} (ht : r.pool.tasks[i]? = some task) :
    (X.step r i).pool.state = (task.advance (meanwhile X.elapse) r.pool.state).2 :=
  congrArg Pool.state (Pool.step_of_some ht)

lemma Traffic.told_step {task : ServiceTask τ} (ht : r.pool.tasks[i]? = some task)
    {notices : List Notice}
    (hjournal : (task.advance (meanwhile X.elapse) r.pool.state).2.2.1 =
      r.pool.state.2.1 ++ notices.map fun n => (i, n)) (j : Nat) :
    (X.step r i).told j = r.told j ++ if i = j then notices else [] := by
  rw [TracerRun.told, state_step ht, hjournal, Journal.told_append]
  rfl

lemma Traffic.stepped (hc : X.calls[i]? = some call) {task : ServiceTask τ}
    (ht : r.pool.tasks[i]? = some task)
    {minted : Option TracingId} (hstage : Stage X.tracer i call minted (r.told i) task) :
    ∃ minted', Stepped X r (X.step r i) i call minted minted' := by
  obtain ⟨minted', notices, hstage', hjournal, hturn⟩ :=
    hstage.advance X.elapse r.pool.state
  have htask : (X.step r i).pool.tasks[i]? =
      some (task.advance (meanwhile X.elapse) r.pool.state).1 := by
    rw [tasks_step, if_pos rfl, ht, Option.map_some]
  have htold := told_step ht hjournal
  have hself : (X.step r i).told i = r.told i ++ notices := by
    rw [htold, if_pos rfl]
  have hbefore : r.answer? i = task.answer? := by
    rw [TracerRun.answer?, Pool.answer?, ht, Option.bind_some]
  have hafter : (X.step r i).answer? i =
      (task.advance (meanwhile X.elapse) r.pool.state).1.answer? := by
    rw [TracerRun.answer?, Pool.answer?, htask, Option.bind_some]
  have hbook : (X.step r i).book =
      (task.advance (meanwhile X.elapse) r.pool.state).2.1 := by
    rw [TracerRun.book, state_step ht]
  refine ⟨minted', ⟨_, htask, hself ▸ hstage'⟩, ⟨notices, hself⟩, fun j hj => ?_, _, ?_, rfl, ?_⟩
  · rw [htold, if_neg hj.symm, List.append_nil]
  · rw [hself, hbefore, hafter, hbook]
    exact hturn
  · show (X.change? _ _ i).toList ++ _ = _
    rw [Traffic.change?, hc, Option.bind_some]
    rfl

lemma Traffic.step_of_none (hc : X.calls[i]? = none) (ht : r.pool.tasks[i]? = none) :
    X.step r i = r := by
  simp only [Traffic.step, Traffic.change?, hc, Option.bind_none, Option.toList_none,
    List.nil_append, Pool.step_of_none ht]

/-- A call that was answered stays answered. -/
lemma Traffic.answer?_step {j : Nat} {o : Except MethodError Unit} (h : r.answer? j = some o) :
    (X.step r i).answer? j = some o :=
  Pool.answer?_step h

lemma Stepped.told_mono {r' : TracerRun τ} {minted minted' : Option TracingId}
    (h : Stepped X r r' i call minted minted') {j : Nat} {n : Notice} (hn : n ∈ r.told j) :
    n ∈ r'.told j := by
  by_cases hj : j = i
  · subst hj
    obtain ⟨notices, htold⟩ := h.told_self
    rw [htold]
    exact List.mem_append_left _ hn
  · rw [h.told_of_ne j hj]
    exact hn

lemma Traffic.run_append_singleton (turns : List Nat) (i : Nat) :
    X.run (turns ++ [i]) = X.step (X.run turns) i := by
  rw [Traffic.run, List.foldl_append]
  rfl

end PathPolicy.Remote
