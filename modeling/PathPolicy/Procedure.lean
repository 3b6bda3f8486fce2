/-!
# Procedures on a shared state

A `Procedure σ α` acts on a state it shares with others. It runs in stretches, each atomic, and
may sleep between them; in the end it answers an `α`. `run` carries one procedure to its end with
nothing else under way, `start` only as far as its next sleep.
-/

namespace PathPolicy

inductive Procedure (σ α : Type)
  | done (a : α)
  /-- Changes the state by `update` and goes on with what `resume` made of the state before. -/
  | act (update : σ → σ) (resume : σ → Procedure σ α)
  | sleep (milliseconds : Nat) (rest : Procedure σ α)

namespace Procedure

variable {σ τ α β : Type}

def bind : Procedure σ α → (α → Procedure σ β) → Procedure σ β
  | done a, k => k a
  | act update resume, k => act update fun s => (resume s).bind k
  | sleep ms rest, k => sleep ms (rest.bind k)

instance : Monad (Procedure σ) where
  pure := done
  bind := bind

/-- One atomic stretch. -/
def stretch (f : σ → α × σ) : Procedure σ α :=
  act (fun s => (f s).2) fun s => done (f s).1

def read (f : σ → α) : Procedure σ α := act id fun s => done (f s)

def write (f : σ → σ) : Procedure σ Unit := act f fun _ => done ()

def pause (ms : Nat) : Procedure σ Unit := sleep ms (done ())

/-- Where a part `τ` of the state `σ` is kept. -/
structure Place (σ τ : Type) where
  get : σ → τ
  set : τ → σ → σ

namespace Place

def self : Place σ σ := ⟨id, fun s _ => s⟩

def first : Place (σ × τ) σ := ⟨Prod.fst, fun s p => (s, p.2)⟩

def second : Place (σ × τ) τ := ⟨Prod.snd, fun t p => (p.1, t)⟩

def modify (p : Place σ τ) (f : τ → τ) (s : σ) : σ := p.set (f (p.get s)) s

end Place

/-- The procedure on a larger state that keeps its own at `p`. -/
def within (p : Place σ τ) : Procedure τ α → Procedure σ α
  | done a => done a
  | act update resume => act (p.modify update) fun s => (resume (p.get s)).within p
  | sleep ms rest => sleep ms (rest.within p)

/-- The answer and the state at the end, where `elapse` says what a sleep does to the state. -/
def run (elapse : Nat → σ → σ) : Procedure σ α → σ → α × σ
  | done a, s => (a, s)
  | act update resume, s => (resume s).run elapse (update s)
  | sleep ms rest, s => rest.run elapse (elapse ms s)

/-- What is left of a procedure when it has gone as far as it can without time passing. -/
inductive Progress (σ α : Type)
  | answered (a : α)
  | asleep (milliseconds : Nat) (rest : Procedure σ α)

def start : Procedure σ α → σ → Progress σ α × σ
  | done a, s => (.answered a, s)
  | act update resume, s => (resume s).start (update s)
  | sleep 0 rest, s => rest.start s
  | sleep (ms + 1) rest, s => (.asleep (ms + 1) rest, s)

@[simp] theorem run_done (elapse : Nat → σ → σ) (a : α) (s : σ) :
    (done a : Procedure σ α).run elapse s = (a, s) := rfl

@[simp] theorem run_pure (elapse : Nat → σ → σ) (a : α) (s : σ) :
    (pure a : Procedure σ α).run elapse s = (a, s) := rfl

@[simp] theorem run_stretch (elapse : Nat → σ → σ) (f : σ → α × σ) (s : σ) :
    (stretch f).run elapse s = f s := rfl

@[simp] theorem run_read (elapse : Nat → σ → σ) (f : σ → α) (s : σ) :
    (read f).run elapse s = (f s, s) := rfl

@[simp] theorem run_write (elapse : Nat → σ → σ) (f : σ → σ) (s : σ) :
    (write f).run elapse s = ((), f s) := rfl

@[simp] theorem run_pause (elapse : Nat → σ → σ) (ms : Nat) (s : σ) :
    (pause ms).run elapse s = ((), elapse ms s) := rfl

@[simp] theorem run_bind (elapse : Nat → σ → σ) (p : Procedure σ α) (k : α → Procedure σ β)
    (s : σ) :
    (p >>= k).run elapse s = (k (p.run elapse s).1).run elapse (p.run elapse s).2 := by
  show (p.bind k).run elapse s = _
  induction p generalizing s with
  | done a => rfl
  | act update resume ih => exact ih s (update s)
  | sleep ms rest ih => exact ih (elapse ms s)

end Procedure

end PathPolicy
