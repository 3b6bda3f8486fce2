import PathPolicy.Proofs.Interleaving
import Mathlib.Order.Basic

/-!
# Procedures that keep an invariant among others

While a procedure waits for its next turn, others take theirs, and more becomes known of what has
happened. What is known is a world; later worlds are above it. A procedure keeps an invariant if
each of its steps does in whatever world it is taken, and its answer is as it should be in
whatever world it comes.
-/

namespace PathPolicy.Procedure

variable {σ α β W : Type} [Preorder W] (I : W → σ → Prop) (elapse : Nat → σ → σ)

def Keeps (Q : W → α → Prop) : Procedure σ α → W → Prop
  | done a, w => ∀ w', w ≤ w' → Q w' a
  | act update resume, w => ∀ w', w ≤ w' → ∀ s, I w' s →
      I w' (update s) ∧ (resume s).Keeps Q w'
  | sleep ms rest, w => (∀ w', w ≤ w' → ∀ s, I w' s → I w' (elapse ms s)) ∧ rest.Keeps Q w

variable {I elapse} {Q : W → α → Prop} {R : W → β → Prop} {w w' : W}

lemma Keeps.mono {p : Procedure σ α} (h : p.Keeps I elapse Q w) (hw : w ≤ w') :
    p.Keeps I elapse Q w' := by
  induction p with
  | done a => exact fun v hv => h v (le_trans hw hv)
  | act update resume => exact fun v hv => h v (le_trans hw hv)
  | sleep ms rest ih => exact ⟨fun v hv => h.1 v (le_trans hw hv), ih h.2⟩

lemma Keeps.advance {p : Procedure σ α} (h : p.Keeps I elapse Q w) {s : σ} (hs : I w s) :
    (p.advance elapse s).1.Keeps I elapse Q w ∧ I w (p.advance elapse s).2 := by
  cases p with
  | done a => exact ⟨h, hs⟩
  | act update resume =>
    obtain ⟨hkept, hrest⟩ := h w (le_refl w) s hs
    exact ⟨hrest, hkept⟩
  | sleep ms rest => exact ⟨h.2, h.1 w (le_refl w) s hs⟩

lemma Keeps.bind {p : Procedure σ α} {k : α → Procedure σ β} (h : p.Keeps I elapse Q w)
    (hk : ∀ v a, w ≤ v → (∀ v', v ≤ v' → Q v' a) → (k a).Keeps I elapse R v) :
    (p.bind k).Keeps I elapse R w := by
  induction p generalizing w with
  | done a => exact hk w a (le_refl w) h
  | act update resume ih =>
    intro v hv s hs
    obtain ⟨hkept, hrest⟩ := h v hv s hs
    exact ⟨hkept, ih s hrest fun v' a hv' => hk v' a (le_trans hv hv')⟩
  | sleep ms rest ih => exact ⟨h.1, ih h.2 hk⟩

lemma keeps_stretch {f : σ → α × σ}
    (h : ∀ v s, w ≤ v → I v s → I v (f s).2 ∧ ∀ v', v ≤ v' → Q v' (f s).1) :
    (stretch f).Keeps I elapse Q w :=
  fun v hv s hs => h v s hv hs

lemma Keeps.weaken {Q' : W → α → Prop} {p : Procedure σ α} (h : p.Keeps I elapse Q w)
    (hQ : ∀ v a, Q v a → Q' v a) : p.Keeps I elapse Q' w := by
  induction p generalizing w with
  | done a => exact fun v hv => hQ v a (h v hv)
  | act update resume ih =>
    intro v hv s hs
    obtain ⟨hkept, hrest⟩ := h v hv s hs
    exact ⟨hkept, ih s hrest⟩
  | sleep ms rest ih => exact ⟨h.1, ih h.2⟩

end PathPolicy.Procedure
