import PathPolicy.Selector.Lifecycle
import Mathlib.Data.List.Nodup
import Mathlib.Tactic.Common

/-!
# Remembered remotes

The list of closed remotes names exactly those remembered as closed, each once. So forgetting the
remotes closed first forgets closed remotes only, and a remote in use stays in use until it is
closed.
-/

namespace PathPolicy.RemoteLifecycle

/-- The list of closed remotes and the remembered states agree. -/
structure Consistent (l : RemoteLifecycle) : Prop where
  mem_closed : ∀ r, r ∈ l.closed ↔ l.states.get? r = some .closed
  nodup : l.closed.Nodup

lemma consistent_empty (n : Nat) : ({ maxClosed := n } : RemoteLifecycle).Consistent where
  mem_closed r := by simp
  nodup := List.nodup_nil

lemma state_eq_iff (l : RemoteLifecycle) (r : RemoteAddress) {s : RemoteState}
    (h : s ≠ .uninitialized) : l.state r = s ↔ l.states.get? r = some s := by
  unfold state
  cases l.states.get? r with
  | none => simpa using h.symm
  | some s' => simp

lemma get?_trim (l : RemoteLifecycle) (r : RemoteAddress) :
    l.trim.states.get? r =
      if r ∈ l.closed.take (l.closed.length - l.maxClosed) then none else l.states.get? r :=
  Dictionary.get?_eraseAll _ _ _

lemma Consistent.trim {l : RemoteLifecycle} (h : l.Consistent) : l.trim.Consistent where
  mem_closed r := by
    have hn : (l.closed.take (l.closed.length - l.maxClosed) ++
        l.closed.drop (l.closed.length - l.maxClosed)).Nodup := by
      rw [List.take_append_drop]
      exact h.nodup
    rw [get?_trim]
    split_ifs with ht
    · simp only [iff_false]
      exact fun hd => (List.nodup_append.mp hn).2.2 r ht r hd rfl
    · rw [← h.mem_closed]
      conv_rhs => rw [← List.take_append_drop (l.closed.length - l.maxClosed) l.closed]
      simp only [List.mem_append, ht, false_or]
      rfl
  nodup := h.nodup.sublist (List.drop_sublist _ _)

lemma Consistent.markPopulated {l : RemoteLifecycle} (h : l.Consistent) (r : RemoteAddress) :
    (l.markPopulated r).Consistent where
  mem_closed r' := by
    simp (disch := decide) only [RemoteLifecycle.markPopulated, state_eq_iff, ← h.mem_closed,
      Dictionary.get?_insert]
    by_cases hr : r' = r
    · subst hr
      by_cases hc : r' ∈ l.closed <;> simp [hc]
    · by_cases hc : r ∈ l.closed <;> simp [hc, hr, h.mem_closed]
  nodup := by
    simp only [RemoteLifecycle.markPopulated]
    split_ifs
    · exact h.nodup.filter _
    · exact h.nodup

lemma Consistent.markClosed {l : RemoteLifecycle} (h : l.Consistent) (r : RemoteAddress) :
    (l.markClosed r).Consistent := by
  unfold RemoteLifecycle.markClosed
  by_cases hc : l.state r = .closed
  · have hm : r ∈ l.closed := (h.mem_closed r).mpr ((state_eq_iff l r (by decide)).mp hc)
    rw [if_pos hc]
    refine ⟨fun r' => ?_, h.nodup⟩
    by_cases hr : r' = r
    · simp [hr, hm]
    · simp [Dictionary.get?_insert, hr, h.mem_closed]
  · have hm : r ∉ l.closed := fun hm =>
      hc ((state_eq_iff l r (by decide)).mpr ((h.mem_closed r).mp hm))
    rw [if_neg hc]
    refine Consistent.trim ⟨fun r' => ?_, ?_⟩
    · by_cases hr : r' = r
      · simp [hr]
      · simp [Dictionary.get?_insert, hr, h.mem_closed]
    · simpa [List.nodup_append] using ⟨h.nodup, fun x hx hxr => hm (hxr ▸ hx)⟩

lemma ensureOpen_eq (l : RemoteLifecycle) (r : RemoteAddress) (operation : String) :
    l.ensureOpen r operation =
      if l.state r = .closed then .error (.selector (.remoteClosed r operation))
      else .ok (l.state r) := by
  unfold ensureOpen
  cases l.state r <;> rfl

lemma state_markPopulated (l : RemoteLifecycle) (r r' : RemoteAddress) :
    (l.markPopulated r).state r' = if r' = r then .populated else l.state r' := by
  unfold state markPopulated
  by_cases hr : r' = r <;> simp [Dictionary.get?_insert, hr]

/-- Closing a remote takes no other remote out of use. -/
theorem state_markClosed_eq_populated_iff {l : RemoteLifecycle} (h : l.Consistent)
    (r r' : RemoteAddress) :
    (l.markClosed r).state r' = .populated ↔ r' ≠ r ∧ l.state r' = .populated := by
  have hmarked : (l.states.insert r .closed).get? r' = some .populated ↔
      r' ≠ r ∧ l.states.get? r' = some .populated := by
    by_cases hr : r' = r <;> simp [Dictionary.get?_insert, hr]
  simp (disch := decide) only [state_eq_iff]
  unfold markClosed
  by_cases hc : l.state r = .closed
  · rw [if_pos hc]
    exact hmarked
  · rw [if_neg hc, get?_trim]
    split_ifs with ht
    · -- What is forgotten was closed.
      simp only [false_iff, not_and]
      intro hr hp
      have hm := List.mem_of_mem_take ht
      simp only [List.mem_append, List.mem_singleton, hr, or_false, h.mem_closed, hp] at hm
      exact absurd hm (by simp)
    · exact hmarked

end PathPolicy.RemoteLifecycle
