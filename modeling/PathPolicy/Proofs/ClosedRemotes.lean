import PathPolicy.Proofs.Lifecycle
import Mathlib.Data.Finset.Card
import Mathlib.Data.List.DropRight
import Mathlib.Data.List.Induction

/-!
# The remotes closed last

A lifecycle keeps a dictionary of states and beside it the list of closed remotes. The two amount to
a set of remotes in use and a list of those closed last. A remote that is closed leaves the set and
goes to the end of the list, unless the list has it already, and the list keeps to its limit. A
remote that is started again leaves the list, so closing others never takes it out of use.
-/

namespace PathPolicy.RemoteLifecycle

/-- What is noted of a remote. -/
inductive Mark
  | populate (r : RemoteAddress)
  | close (r : RemoteAddress)
  deriving DecidableEq

def Mark.remote : Mark → RemoteAddress
  | .populate r | .close r => r

def mark (l : RemoteLifecycle) : Mark → RemoteLifecycle
  | .populate r => l.markPopulated r
  | .close r => l.markClosed r

def markAll (l : RemoteLifecycle) (ms : List Mark) : RemoteLifecycle := ms.foldl mark l

/-- The remotes in use, and those closed last in the order of closing. -/
structure Memory where
  inUse : Finset RemoteAddress := ∅
  closed : List RemoteAddress := []

namespace Memory

def mark (limit : Nat) (m : Memory) : Mark → Memory
  | .populate r => ⟨insert r m.inUse, m.closed.filter (· ≠ r)⟩
  | .close r =>
    ⟨m.inUse.erase r, if r ∈ m.closed then m.closed else (m.closed ++ [r]).rtake limit⟩

def markAll (limit : Nat) (m : Memory) (ms : List Mark) : Memory := ms.foldl (mark limit) m

/-- A remote is in use if it was noted so last, whatever became of others. -/
lemma mem_inUse_markAll (limit : Nat) (ms : List Mark) (r : RemoteAddress) :
    r ∈ (markAll limit {} ms).inUse ↔
      (ms.filter (·.remote = r)).getLast? = some (.populate r) := by
  induction ms using List.reverseRecOn with
  | nil => simp [markAll]
  | append_singleton ms c ih =>
    have hstep : markAll limit {} (ms ++ [c]) = (markAll limit {} ms).mark limit c := by
      simp only [markAll, List.foldl_append, List.foldl_cons, List.foldl_nil]
    rw [hstep, List.filter_append]
    by_cases hr : c.remote = r
    · subst hr
      cases c <;> simp [mark, Mark.remote]
    · have hother : [c].filter (fun d => d.remote = r) = [] := by simp [hr]
      rw [hother, List.append_nil, ← ih]
      cases c with
      | populate r' => simp [mark, Ne.symm (show r' ≠ r from hr)]
      | close r' => simp [mark, Ne.symm (show r' ≠ r from hr)]

end Memory

/-- The lifecycle remembers what the memory has, and nothing of a remote that was never used. -/
structure Remembers (limit : Nat) (l : RemoteLifecycle) (m : Memory) : Prop where
  consistent : l.Consistent
  maxClosed : l.maxClosed = limit
  closed : l.closed = m.closed
  bounded : m.closed.length ≤ limit
  inUse : ∀ r, l.state r = .populated ↔ r ∈ m.inUse
  used : ∀ r, l.states.get? r ≠ some .uninitialized

variable {limit : Nat} {l : RemoteLifecycle} {m : Memory}

lemma remembers_empty (limit : Nat) : Remembers limit { maxClosed := limit } {} where
  consistent := consistent_empty limit
  maxClosed := rfl
  closed := rfl
  bounded := Nat.zero_le limit
  inUse r := by simp [state]
  used r := by simp

lemma Remembers.state_eq_closed_iff (h : Remembers limit l m) (r : RemoteAddress) :
    l.state r = .closed ↔ r ∈ m.closed := by
  rw [state_eq_iff l r (by decide), ← h.consistent.mem_closed, h.closed]

/-! ### One mark -/

lemma Remembers.populate (h : Remembers limit l m) (r : RemoteAddress) :
    Remembers limit (l.markPopulated r) (m.mark limit (.populate r)) where
  consistent := h.consistent.markPopulated r
  maxClosed := h.maxClosed
  closed := by
    simp only [markPopulated, Memory.mark, h.state_eq_closed_iff, h.closed]
    split_ifs with hr
    · rfl
    · refine (List.filter_eq_self.mpr fun x hx => ?_).symm
      exact decide_eq_true fun hxr => hr (hxr ▸ hx)
  bounded := Nat.le_trans (List.length_filter_le _ _) h.bounded
  inUse r' := by
    rw [state_markPopulated, Memory.mark, Finset.mem_insert, ← h.inUse]
    by_cases hr : r' = r <;> simp [hr]
  used r' := by
    simp only [markPopulated, Dictionary.get?_insert]
    split_ifs
    · simp
    · exact h.used r'

/-- Closing a remote gives no other a new state; it may forget some. -/
lemma get?_insert_of_get?_markClosed {r r' : RemoteAddress} {s : RemoteState}
    (h : (l.markClosed r).states.get? r' = some s) :
    (l.states.insert r .closed).get? r' = some s := by
  unfold markClosed at h
  by_cases hc : l.state r = .closed
  · rwa [if_pos hc] at h
  · rw [if_neg hc, get?_trim] at h
    split_ifs at h
    exact h

lemma Remembers.closed_markClosed (h : Remembers limit l m) (r : RemoteAddress) :
    (l.markClosed r).maxClosed = limit ∧
      (l.markClosed r).closed = (m.mark limit (.close r)).closed := by
  simp only [markClosed, Memory.mark, h.state_eq_closed_iff]
  split_ifs with hr
  · exact ⟨h.maxClosed, h.closed⟩
  · refine ⟨h.maxClosed, ?_⟩
    simp only [trim, List.rtake, h.closed, h.maxClosed]

lemma Remembers.close (h : Remembers limit l m) (r : RemoteAddress) :
    Remembers limit (l.markClosed r) (m.mark limit (.close r)) where
  consistent := h.consistent.markClosed r
  maxClosed := (h.closed_markClosed r).1
  closed := (h.closed_markClosed r).2
  bounded := by
    simp only [Memory.mark]
    split_ifs
    · exact h.bounded
    · rw [List.rtake, List.length_drop]
      omega
  inUse r' := by
    rw [state_markClosed_eq_populated_iff h.consistent, Memory.mark, Finset.mem_erase, h.inUse]
  used r' hu := by
    have hmarked := get?_insert_of_get?_markClosed hu
    rw [Dictionary.get?_insert] at hmarked
    split_ifs at hmarked
    · cases hmarked
    · exact h.used r' hmarked

lemma Remembers.mark (h : Remembers limit l m) (c : Mark) :
    Remembers limit (l.mark c) (m.mark limit c) := by
  cases c with
  | populate r => exact h.populate r
  | close r => exact h.close r

/-! ### A run -/

lemma Remembers.markAll (h : Remembers limit l m) (ms : List Mark) :
    Remembers limit (l.markAll ms) (m.markAll limit ms) := by
  induction ms generalizing l m with
  | nil => exact h
  | cons c ms ih => exact ih (h.mark c)

/-- Each remote that has a state is remembered in one place. -/
lemma Remembers.tracked (h : Remembers limit l m) :
    l.tracked = m.inUse.card + m.closed.length := by
  let entries := m.inUse.toList.map (·, RemoteState.populated) ++ m.closed.map (·, .closed)
  have hnodup : entries.Nodup := by
    have hclosed : m.closed.Nodup := h.closed ▸ h.consistent.nodup
    refine List.nodup_append.mpr ⟨?_, ?_, by simp⟩
    · exact m.inUse.nodup_toList.map fun r r' he => congrArg Prod.fst he
    · exact hclosed.map fun r r' he => congrArg Prod.fst he
  have hmem (r : RemoteAddress) (s : RemoteState) :
      (r, s) ∈ entries ↔ l.states.get? r = some s := by
    have hclosed := h.state_eq_closed_iff r
    rw [state_eq_iff l r (by decide)] at hclosed
    have hinUse := h.inUse r
    rw [state_eq_iff l r (by decide)] at hinUse
    cases s with
    | uninitialized => simpa [entries] using h.used r
    | populated => simp [entries, hinUse]
    | closed => simp [entries, hclosed]
  rw [RemoteLifecycle.tracked, Dictionary.size_eq_length hnodup hmem]
  simp [entries]

/-- Whatever is noted of remotes, the lifecycle has those in use and those closed last, up to its
limit. A remote reads as closed, and operations on it are refused, just when it is among the latter.
It reads as in use just when it was noted so last: no remote in use is ever forgotten. -/
theorem remembers_last_closed (limit : Nat) (ms : List Mark) :
    let l := ({ maxClosed := limit } : RemoteLifecycle).markAll ms
    let m := Memory.markAll limit {} ms
    m.closed.Nodup ∧ m.closed.length ≤ limit ∧
      (∀ r, l.state r = .closed ↔ r ∈ m.closed) ∧
      (∀ r, l.state r = .populated ↔ r ∈ m.inUse) ∧
      (∀ r, l.state r = .uninitialized ↔ r ∉ m.closed ∧ r ∉ m.inUse) ∧
      (∀ r operation e, l.ensureOpen r operation = .error e ↔
        r ∈ m.closed ∧ e = .selector (.remoteClosed r operation) ∧ e.isMisuse) ∧
      l.tracked = m.inUse.card + m.closed.length ∧
      ∀ r, l.state r = .populated ↔
        (ms.filter (·.remote = r)).getLast? = some (.populate r) := by
  intro l m
  have h : Remembers limit l m := (remembers_empty limit).markAll ms
  have hclosed := h.state_eq_closed_iff
  refine ⟨h.closed ▸ h.consistent.nodup, h.bounded, hclosed, h.inUse, fun r => ?_,
    fun r operation e => ?_, h.tracked, fun r => ?_⟩
  · rw [← hclosed, ← h.inUse]
    cases l.state r <;> simp
  · rw [ensureOpen_eq, ← hclosed]
    split_ifs with hr
    · simp only [hr, Except.error.injEq, true_and]
      constructor
      · rintro rfl
        exact ⟨rfl, rfl⟩
      · rintro ⟨rfl, -⟩
        rfl
    · simp [hr]
  · rw [h.inUse]
    exact Memory.mem_inUse_markAll limit ms r

end PathPolicy.RemoteLifecycle
