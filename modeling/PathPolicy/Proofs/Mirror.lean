import PathPolicy.Proofs.Failover
import PathPolicy.Proofs.HandleTable

/-!
# The two tables of a connection

A caller's table and the far end's are told of the same offers. The caller's gives up a handle once
its path is down; the far end's keeps it until the remote's next offer. So whatever path of the
latest offer the far end chooses, it finds a handle for it, and that handle leads the caller to the
path object of that offer, or to nothing if the path has gone down since.
-/

namespace PathPolicy.Remote

open HandleTable OfferTable

/-- The handle stands for `o` in the offer for `r`, or is out of use if the path is gone. -/
structure Linked (t : OfferTable PathHandle) (h : PathHandle) (r : RemoteAddress) (o : PathObject)
    (gone : Prop) : Prop where
  holds : ¬gone → t.Holds h r o
  dropped : gone → t.Loose h ∧ t.resolve h = none

/-- The tables after handles below `n` were issued: what they have for the latest offers `offered`,
of which the paths in `down` have gone down. -/
structure Mirrors (served caller : OfferTable PathHandle) (n : Nat)
    (offered : RemoteAddress → List PathObject) (down : List (RemoteAddress × Fingerprint)) :
    Prop where
  fresh : ∀ i, n ≤ i → i < UInt64.size → caller.Loose ⟨UInt64.ofNat i⟩
  linked : ∀ r, ∀ o ∈ offered r, ∃ i < n, served.keyOf r o.fingerprint = some ⟨UInt64.ofNat i⟩ ∧
    Linked caller ⟨UInt64.ofNat i⟩ r o ((r, o.fingerprint) ∈ down)

lemma Linked.apply {t : OfferTable PathHandle} {h : PathHandle} {r : RemoteAddress}
    {o : PathObject} {gone : Prop} (hl : Linked t h r o gone) {c : Change PathHandle}
    (hk : h ∉ c.keys) : Linked (t.apply c) h r o (c.Ends r o.fingerprint ∨ gone) := by
  have hnone : ∀ d ∈ [c], h ∉ d.keys := by
    intro d hd
    rwa [List.mem_singleton.mp hd]
  constructor
  · intro hn
    rw [not_or] at hn
    exact (hl.holds hn.2).apply hk hn.1
  · intro hg
    by_cases hgone : gone
    · obtain ⟨hloose, hres⟩ := hl.dropped hgone
      obtain ⟨hloose', hres'⟩ := hloose.applyAll hnone
      exact ⟨hloose', hres'.trans hres⟩
    · exact (hl.holds hgone).drop hk (hg.resolve_right hgone)

lemma Linked.resolve {t : OfferTable PathHandle} {h : PathHandle} {r : RemoteAddress}
    {o : PathObject} {gone : Prop} [Decidable gone] (hl : Linked t h r o gone) :
    t.resolve h = if gone then none else some o := by
  split
  · rename_i hg
    exact (hl.dropped hg).2
  · rename_i hg
    exact (hl.holds hg).resolve

variable {served caller : OfferTable PathHandle} {n : Nat}
  {offered : RemoteAddress → List PathObject} {down : List (RemoteAddress × Fingerprint)}

lemma mirrors_empty (n : Nat) : Mirrors {} {} n (fun _ => []) [] where
  fresh _ _ _ := loose_empty _
  linked _ _ ho := absurd ho List.not_mem_nil

/-- A change that uses no handle keeps the unissued ones out of every offer. -/
lemma Mirrors.loose_apply (h : Mirrors served caller n offered down) {c : Change PathHandle}
    {i : Nat} (hi : n ≤ i) (hs : i < UInt64.size) (hk : ⟨UInt64.ofNat i⟩ ∉ c.keys) :
    (caller.apply c).Loose ⟨UInt64.ofNat i⟩ := by
  intro r f he
  exact h.fresh i hi hs r f ((keyOf_apply_eq_some_of_not_mem hk caller r f).mp he).2

lemma not_mem_drop_of_nodup {ps : List PathObject} (hd : (ps.map PathObject.fingerprint).Nodup)
    {j : Nat} {o : PathObject} (ho : ps[j]? = some o) :
    o.fingerprint ∉ (ps.drop (j + 1)).map PathObject.fingerprint := by
  obtain ⟨hj, rfl⟩ := List.getElem?_eq_some_iff.mp ho
  have hsplit : ps = ps.take j ++ ps[j] :: ps.drop (j + 1) := by
    rw [← List.drop_eq_getElem_cons hj, List.take_append_drop]
  rw [hsplit, List.map_append, List.map_cons] at hd
  exact (List.nodup_cons.mp (List.nodup_append.mp hd).2.1).1

/-- In an offer without repeated fingerprints each path is found under its own handle. -/
lemma keyOf_offer {ps : List PathObject} (hd : (ps.map PathObject.fingerprint).Nodup) {j : Nat}
    {o : PathObject} (ho : ps[j]? = some o) (t : OfferTable PathHandle) (r : RemoteAddress)
    (n : Nat) :
    (t.apply (.offer r (number (UInt64.ofNat n) (ps.map PathObject.bare)))).keyOf r o.fingerprint =
      some ⟨UInt64.ofNat (n + j)⟩ := by
  have hb : (ps.map PathObject.bare)[j]? = some o.bare := by rw [List.getElem?_map, ho]; rfl
  rw [keyOf_apply, if_pos (show Change.Ends r o.fingerprint (.offer r _) from rfl)]
  refine lookup_fingerprint_eq_some_iff.mpr ⟨_, o.bare, _, number_eq_append_cons n hb, rfl, ?_⟩
  rw [repeats_number, ← List.map_drop, List.map_map]
  exact not_mem_drop_of_nodup hd ho

/-! ### What keeps the tables in step -/

lemma Mirrors.linked_of_ne (h : Mirrors served caller n offered down) {cs cc : Change PathHandle}
    {r : RemoteAddress} (hs : ∀ f, ¬cs.Ends r f) (hc : ∀ f, ¬cc.Ends r f)
    (hk : ∀ i < n, ⟨UInt64.ofNat i⟩ ∉ cc.keys) {o : PathObject} (ho : o ∈ offered r) :
    ∃ i < n, (served.apply cs).keyOf r o.fingerprint = some ⟨UInt64.ofNat i⟩ ∧
      Linked (caller.apply cc) ⟨UInt64.ofNat i⟩ r o ((r, o.fingerprint) ∈ down) := by
  obtain ⟨i, hi, hkey, hlink⟩ := h.linked r o ho
  refine ⟨i, hi, ?_, ?_⟩
  · rw [keyOf_apply, if_neg (hs _), hkey]
  · simpa only [hc, false_or] using hlink.apply (hk i hi)

theorem Mirrors.offer (h : Mirrors served caller n offered down) (r : RemoteAddress)
    {ps : List PathObject} (hd : (ps.map PathObject.fingerprint).Nodup)
    (hn : n + ps.length ≤ UInt64.size) :
    Mirrors (served.replaceWith r (number (UInt64.ofNat n) (ps.map PathObject.bare)))
      (caller.replaceWith r (number (UInt64.ofNat n) ps)) (n + ps.length)
      (fun r' => if r' = r then ps else offered r') (down.filter (·.1 ≠ r)) where
  fresh i hi hs := by
    refine h.loose_apply (c := .offer r _) (Nat.le_trans (Nat.le_add_right n _) hi) hs ?_
    show _ ∉ (number (UInt64.ofNat n) ps).map Prod.fst
    rw [mem_number_iff ps hs hn]
    omega
  linked r' o ho := by
    by_cases hr : r' = r
    · subst hr
      rw [if_pos rfl] at ho
      obtain ⟨j, hj⟩ := List.mem_iff_getElem?.mp ho
      have hlt : j < ps.length := (List.getElem?_eq_some_iff.mp hj).1
      have hloose := h.fresh (n + j) (Nat.le_add_right n j) (by omega)
      refine ⟨n + j, Nat.add_lt_add_left hlt n, keyOf_offer hd hj served r' n, ?_⟩
      have hup : (r', o.fingerprint) ∉ down.filter (·.1 ≠ r') := by simp
      exact ⟨fun _ => (offer_number r' hj hn hloose).1 (not_mem_drop_of_nodup hd hj),
        fun hg => absurd hg hup⟩
    · rw [if_neg hr] at ho
      have hother : ∀ f batch, ¬Change.Ends r' f (.offer r batch : Change PathHandle) :=
        fun _ _ he => hr (Eq.symm he)
      have hk : ∀ i < n, ⟨UInt64.ofNat i⟩ ∉
          (.offer r (number (UInt64.ofNat n) ps) : Change PathHandle).keys := by
        intro i hi
        show _ ∉ (number (UInt64.ofNat n) ps).map Prod.fst
        rw [mem_number_iff ps (by omega) hn]
        omega
      obtain ⟨i, hi, hkey, hlink⟩ :=
        h.linked_of_ne (fun f => hother f _) (fun f => hother f _) hk ho
      have hdown : (r', o.fingerprint) ∈ down.filter (·.1 ≠ r) ↔ (r', o.fingerprint) ∈ down := by
        simp [hr]
      refine ⟨i, Nat.lt_add_right _ hi, hkey, ?_⟩
      rw [hdown]
      exact hlink

theorem Mirrors.retract (h : Mirrors served caller n offered down) (r : RemoteAddress)
    (f : Fingerprint) :
    Mirrors served (caller.removePath r f) n offered ((r, f) :: down) where
  fresh i hi hs := h.loose_apply (c := .retract r f) hi hs List.not_mem_nil
  linked r' o ho := by
    obtain ⟨i, hi, hkey, hlink⟩ := h.linked r' o ho
    refine ⟨i, hi, hkey, ?_⟩
    have hgone : (r', o.fingerprint) ∈ (r, f) :: down ↔
        (.retract r f : Change PathHandle).Ends r' o.fingerprint ∨ (r', o.fingerprint) ∈ down := by
      simp only [List.mem_cons, Prod.mk.injEq, Change.Ends, eq_comm]
    rw [hgone]
    exact hlink.apply (c := .retract r f) List.not_mem_nil

theorem Mirrors.forget (h : Mirrors served caller n offered down) (r : RemoteAddress) :
    Mirrors (served.removeRemote r) (caller.removeRemote r) n
      (fun r' => if r' = r then [] else offered r') down where
  fresh i hi hs := h.loose_apply (c := .forget r) hi hs List.not_mem_nil
  linked r' o ho := by
    by_cases hr : r' = r
    · rw [if_pos hr] at ho
      exact absurd ho List.not_mem_nil
    · rw [if_neg hr] at ho
      have hother : ∀ f, ¬Change.Ends r' f (.forget r : Change PathHandle) :=
        fun _ he => hr (Eq.symm he)
      exact h.linked_of_ne hother hother (fun _ _ => List.not_mem_nil) ho

/-- The handle the far end finds leads the caller to its own object, unless the path is down. -/
theorem Mirrors.resolve_keyOf (h : Mirrors served caller n offered down) {r : RemoteAddress}
    {o : PathObject} (ho : o ∈ offered r) :
    (served.keyOf r o.fingerprint).bind caller.resolve =
      if (r, o.fingerprint) ∈ down then none else some o := by
  obtain ⟨i, -, hkey, hlink⟩ := h.linked r o ho
  rw [hkey]
  exact hlink.resolve

end PathPolicy.Remote
