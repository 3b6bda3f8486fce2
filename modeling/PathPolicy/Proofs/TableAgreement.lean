import PathPolicy.Proofs.RemoteSelector

/-!
# Where the two tables of a connection agree

A caller issues the handles of an offer before its request goes out. If the request never does, the
caller has handles that the far end was not told, and the far end those of the offer before, until
the next offer for the remote is told. For any other remote the far end has whatever handle the
caller has.
-/

namespace PathPolicy

namespace Remote

open HandleTable Call

/-- What the tables have in common once handles below `n` were issued: all handles of a remote, or
none if the far end has missed its last offer. -/
structure Agreement (served caller : OfferTable PathHandle) (n : Nat)
    (missed : RemoteAddress → Prop) : Prop where
  issued : ∀ r f h, served.keyOf r f = some h → ∃ i < n, h = ⟨UInt64.ofNat i⟩
  told : ∀ r, ¬missed r → ∀ f h, caller.keyOf r f = some h → served.keyOf r f = some h
  apart : ∀ r, missed r → ∀ f h, caller.keyOf r f = some h → served.keyOf r f ≠ some h

variable {served caller : OfferTable PathHandle} {n : Nat} {missed : RemoteAddress → Prop}

lemma agreement_empty : Agreement {} {} 1 fun _ => False where
  issued r f h hk := by simp [OfferTable.keyOf, OfferTable.offer] at hk
  told r _ f h hk := by simp [OfferTable.keyOf, OfferTable.offer] at hk
  apart r hm := hm.elim

lemma Agreement.congr (h : Agreement served caller n missed) {missed' : RemoteAddress → Prop}
    (hm : ∀ r, missed' r ↔ missed r) : Agreement served caller n missed' := by
  rwa [show missed' = missed from funext fun r => propext (hm r)]

/-- The handles of an offer do not depend on who looks them up. -/
lemma map_fingerprint_bare (next : UInt64) (ps : List PathObject) :
    (number next (ps.map PathObject.bare)).map (fun e => (e.2.fingerprint, e.1)) =
      (number next ps).map fun e => (e.2.fingerprint, e.1) := by
  induction ps generalizing next with
  | nil => rfl
  | cons p ps ih =>
    simp only [List.map_cons, number]
    rw [ih]
    rfl

lemma mem_number_of_keyOf {batch : List (PathHandle × PathObject)} {f : Fingerprint}
    {h : PathHandle}
    (hk : (batch.map fun e => (e.2.fingerprint, e.1)).reverse.lookup f = some h) :
    h ∈ batch.map Prod.fst := by
  obtain ⟨front, o, rest, rfl, -, -⟩ := OfferTable.lookup_fingerprint_eq_some_iff.mp hk
  simp

lemma exists_of_mem_number {ps : List PathObject} {h : PathHandle}
    (hm : h ∈ (number (UInt64.ofNat n) ps).map Prod.fst) :
    ∃ i, n ≤ i ∧ i < n + ps.length ∧ h = ⟨UInt64.ofNat i⟩ := by
  rw [map_fst_number] at hm
  obtain ⟨i, hi, rfl⟩ := List.mem_map.mp hm
  rw [List.mem_range'_1] at hi
  exact ⟨i, hi.1, hi.2, rfl⟩

theorem Agreement.offer_told (h : Agreement served caller n missed) (r : RemoteAddress)
    (ps : List PathObject) :
    Agreement (served.replaceWith r (number (UInt64.ofNat n) (ps.map PathObject.bare)))
      (caller.replaceWith r (number (UInt64.ofNat n) ps)) (n + ps.length)
      fun r' => r ≠ r' ∧ missed r' where
  issued r' f k hk := by
    rw [OfferTable.keyOf_replaceWith, map_fingerprint_bare] at hk
    split_ifs at hk
    · obtain ⟨i, -, hi, rfl⟩ := exists_of_mem_number (mem_number_of_keyOf hk)
      exact ⟨i, hi, rfl⟩
    · obtain ⟨i, hi, rfl⟩ := h.issued r' f k hk
      exact ⟨i, Nat.lt_add_right _ hi, rfl⟩
  told r' hm f k hk := by
    rw [OfferTable.keyOf_replaceWith] at hk ⊢
    rw [map_fingerprint_bare]
    split_ifs at hk ⊢ with hr
    · exact hk
    · exact h.told r' (fun hm' => hm ⟨Ne.symm hr, hm'⟩) f k hk
  apart r' hm f k hk := by
    rw [OfferTable.keyOf_replaceWith, if_neg (Ne.symm hm.1)] at hk ⊢
    exact h.apart r' hm.2 f k hk

theorem Agreement.offer_missed (h : Agreement served caller n missed) (r : RemoteAddress)
    {ps : List PathObject} (hn : n + ps.length ≤ UInt64.size) :
    Agreement served (caller.replaceWith r (number (UInt64.ofNat n) ps)) (n + ps.length)
      fun r' => r = r' ∨ missed r' where
  issued r' f k hk := by
    obtain ⟨i, hi, rfl⟩ := h.issued r' f k hk
    exact ⟨i, Nat.lt_add_right _ hi, rfl⟩
  told r' hm f k hk := by
    rw [not_or] at hm
    rw [OfferTable.keyOf_replaceWith, if_neg (Ne.symm hm.1)] at hk
    exact h.told r' hm.2 f k hk
  apart r' hm f k hk hs := by
    rw [OfferTable.keyOf_replaceWith] at hk
    split_ifs at hk with hr
    · -- A new handle is none of those issued before.
      obtain ⟨i, hi, rfl⟩ := h.issued r' f k hs
      have hnew := (mem_number_iff ps (by omega) hn).mp (mem_number_of_keyOf hk)
      omega
    · exact h.apart r' (hm.resolve_left (Ne.symm hr)) f k hk hs

/-- The caller may drop handles, whatever the far end does. -/
theorem Agreement.drop (h : Agreement served caller n missed)
    {served' caller' : OfferTable PathHandle}
    (hserved : ∀ r f k, served'.keyOf r f = some k → served.keyOf r f = some k)
    (hcaller : ∀ r f k, caller'.keyOf r f = some k →
      caller.keyOf r f = some k ∧ (served.keyOf r f = some k → served'.keyOf r f = some k)) :
    Agreement served' caller' n missed where
  issued r f k hk := h.issued r f k (hserved r f k hk)
  told r hm f k hk := by
    obtain ⟨hold, hkept⟩ := hcaller r f k hk
    exact hkept (h.told r hm f k hold)
  apart r hm f k hk hs := h.apart r hm f k (hcaller r f k hk).1 (hserved r f k hs)

/-! ### One call at either end -/

/-- What the far end's table is once a call has been served. -/
def heard (next : UInt64) : SelectorCall → OfferTable PathHandle → OfferTable PathHandle
  | .start r ps, t | .refresh r ps, t =>
    t.replaceWith r (number next (ps.map PathObject.bare))
  | .close r, t => t.removeRemote r
  | _, t => t

/-- What the caller's end is once a call has been answered. -/
def ProxyState.after (s : ProxyState) (call : SelectorCall) (reply : Except CallError Unit) :
    ProxyState :=
  ((s.issued call).settleUpdate call reply).2

lemma ProxyState.next_after {s : ProxyState} (hs : s.handles.next = UInt64.ofNat n)
    (call : SelectorCall) (reply : Except CallError Unit) :
    (s.after call reply).handles.next = UInt64.ofNat (n + call.paths.length) := by
  have hoffer (ps : List PathObject) :
      s.handles.next + ps.length.toUInt64 = UInt64.ofNat (n + ps.length) := by
    rw [hs, UInt64.ofNat_add]
  cases call with
  | start r ps => cases reply <;> exact hoffer ps
  | refresh r ps => cases reply <;> exact hoffer ps
  | path r => exact hs
  | pathDown r f i => cases reply <;> exact hs
  | close r => exact hs

variable {s : ProxyState}

lemma Agreement.removePath (h : Agreement served caller n missed) (r : RemoteAddress)
    (f : Fingerprint) : Agreement served (caller.removePath r f) n missed := by
  refine h.drop (fun _ _ _ hk => hk) fun r' f' k hk => ⟨?_, id⟩
  rw [OfferTable.keyOf_removePath] at hk
  split_ifs at hk
  exact hk

lemma Agreement.removeRemote (h : Agreement served caller n missed) (r : RemoteAddress) :
    Agreement served (caller.removeRemote r) n missed := by
  refine h.drop (fun _ _ _ hk => hk) fun r' f k hk => ⟨?_, id⟩
  rw [OfferTable.keyOf_removeRemote] at hk
  split_ifs at hk
  exact hk

lemma Agreement.removeRemote_told (h : Agreement served caller n missed) (r : RemoteAddress) :
    Agreement (served.removeRemote r) (caller.removeRemote r) n missed := by
  refine (h.removeRemote r).drop (fun r' f k hk => ?_) fun r' f k hk => ⟨hk, fun hs => ?_⟩
  · rw [OfferTable.keyOf_removeRemote] at hk
    split_ifs at hk
    exact hk
  · rw [OfferTable.keyOf_removeRemote] at hk ⊢
    split_ifs at hk ⊢
    exact hs

/-- A call that the far end never hears of. -/
lemma Agreement.call_missed (h : Agreement served s.handles.toOfferTable n missed)
    (hs : s.handles.next = UInt64.ofNat n) {call : SelectorCall}
    (hn : n + call.paths.length ≤ UInt64.size) (e : CallError) :
    Agreement served (s.after call (.error e)).handles.toOfferTable (n + call.paths.length)
      fun r => call.Offers r ∨ missed r := by
  have hkept (r : RemoteAddress) : False ∨ missed r ↔ missed r := by simp
  cases call with
  | start r ps =>
    have ho := h.offer_missed r hn
    rw [← hs] at ho
    exact ho
  | refresh r ps =>
    have ho := h.offer_missed r hn
    rw [← hs] at ho
    exact ho
  | path r => exact h.congr hkept
  | pathDown r f i => exact h.congr hkept
  | close r => exact (h.removeRemote r).congr hkept

/-- A call that the far end has served, whatever it answered. -/
lemma Agreement.call_told (h : Agreement served s.handles.toOfferTable n missed)
    (hs : s.handles.next = UInt64.ofNat n) (call : SelectorCall) (reply : Except CallError Unit) :
    Agreement (heard s.handles.next call served) (s.after call reply).handles.toOfferTable
      (n + call.paths.length) fun r => ¬call.Offers r ∧ missed r := by
  have hkept (r : RemoteAddress) : ¬False ∧ missed r ↔ missed r := by simp
  cases call with
  | start r ps =>
    have ho := h.offer_told r ps
    rw [← hs] at ho
    cases reply <;> exact ho
  | refresh r ps =>
    have ho := h.offer_told r ps
    rw [← hs] at ho
    cases reply <;> exact ho
  | path r => exact h.congr hkept
  | pathDown r f i =>
    cases reply with
    | ok u => exact (h.removePath r f).congr hkept
    | error e => exact h.congr hkept
  | close r => exact (h.removeRemote_told r).congr hkept

end Remote

end PathPolicy
