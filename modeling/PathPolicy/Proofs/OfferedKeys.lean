import PathPolicy.Proofs.HandleTable
import PathPolicy.Proofs.LatestOffer

/-!
# Keys that were offered

A key that was once offered for a fingerprint may come back at any time. If no key is offered
twice, it stands for a path object only as long as the offer that had it has not ended. So with the
handles of a table that issues its own, what a handle leads to is of the list installed last.
-/

namespace PathPolicy

namespace OfferTable

variable {κ : Type}

/-- At some time the key was what an offer for the remote had for the fingerprint. -/
def Offered (cs : List (Change κ)) (r : RemoteAddress) (f : Fingerprint) (k : κ) : Prop :=
  ∃ before batch after, cs = before ++ .offer r batch :: after ∧
    (batch.map fun e => (e.2.fingerprint, e.1)).reverse.lookup f = some k

lemma Offered.append {cs : List (Change κ)} {r : RemoteAddress} {f : Fingerprint} {k : κ}
    (h : Offered cs r f k) (ds : List (Change κ)) : Offered (cs ++ ds) r f k := by
  obtain ⟨before, batch, after, rfl, hk⟩ := h
  exact ⟨before, batch, after ++ ds, by simp, hk⟩

/-- With no key in two changes, a key tells where it was offered. -/
lemma split_unique {cs : List (Change κ)} (hn : (cs.flatMap Change.keys).Nodup)
    {before before' after after' : List (Change κ)} {c c' : Change κ} {k : κ}
    (h : cs = before ++ c :: after) (h' : cs = before' ++ c' :: after') (hk : k ∈ c.keys)
    (hk' : k ∈ c'.keys) : before = before' ∧ c = c' ∧ after = after' := by
  subst h
  induction before generalizing before' with
  | nil =>
    cases before' with
    | nil =>
      obtain ⟨rfl, rfl⟩ := List.cons.inj h'
      exact ⟨rfl, rfl, rfl⟩
    | cons d before' =>
      obtain ⟨rfl, rfl⟩ := List.cons.inj h'
      rw [List.nil_append, List.flatMap_cons, List.nodup_append] at hn
      exact absurd rfl (hn.2.2 k hk k (List.mem_flatMap.mpr ⟨c', by simp, hk'⟩))
  | cons d before ih =>
    cases before' with
    | nil =>
      obtain ⟨rfl, rfl⟩ := List.cons.inj h'
      rw [List.cons_append, List.flatMap_cons, List.nodup_append] at hn
      exact absurd rfl (hn.2.2 k hk' k (List.mem_flatMap.mpr ⟨c, by simp, hk⟩))
    | cons d' before' =>
      obtain ⟨rfl, htail⟩ := List.cons.inj h'
      rw [List.cons_append, List.flatMap_cons, List.nodup_append] at hn
      obtain ⟨rfl, hc, ha⟩ := ih hn.2.1 htail
      exact ⟨rfl, hc, ha⟩

variable [DecidableEq κ]

/-- What an offered key leads to is on offer for its remote, under its fingerprint. -/
theorem Offered.current {cs : List (Change κ)} (hn : (cs.flatMap Change.keys).Nodup)
    {r : RemoteAddress} {f : Fingerprint} {k : κ} {o : PathObject} (h : Offered cs r f k)
    (ho : (({} : OfferTable κ).applyAll cs).resolve k = some o) :
    Current cs r k o ∧ (({} : OfferTable κ).applyAll cs).keyOf r o.fingerprint = some k := by
  obtain ⟨before, batch, after, hcs, hlookup⟩ := h
  obtain ⟨front, o', rest, rfl, rfl, hlast⟩ := lookup_fingerprint_eq_some_iff.mp hlookup
  obtain ⟨before', r', front', rest', after', hcs', hrest', -, hstands⟩ :=
    exists_offer_of_resolve ho
  obtain ⟨rfl, hoffer, rfl⟩ := split_unique hn hcs hcs' (k := k)
    (by simp [Change.keys, Change.batch]) (by simp [Change.keys, Change.batch])
  obtain ⟨rfl, hbatch⟩ := Change.offer.inj hoffer
  have hnodup : ((front ++ (k, o') :: rest).map Prod.fst).Nodup := by
    rw [hcs, List.flatMap_append, List.flatMap_cons] at hn
    exact (List.nodup_append.mp (List.nodup_append.mp hn).2.1).1
  rw [List.map_append, List.map_cons, List.nodup_append] at hnodup
  have hfront : k ∉ front.map Prod.fst := fun hm => hnodup.2.2 k hm k List.mem_cons_self rfl
  have hrest : k ∉ rest.map Prod.fst := (List.nodup_cons.mp hnodup.2.1).1
  obtain ⟨rfl, rfl, rfl⟩ := entry_unique hfront hrest hbatch
  -- The key came last with its fingerprint, so its offer has not ended.
  obtain ⟨hopen, hkey⟩ := hstands.resolve_left hlast
  exact ⟨(current_iff cs r k o').mpr ⟨before, front, rest, after, hcs, hopen⟩, hkey⟩

end OfferTable

namespace HandleTable

/-- The paths that `r` was given last, unless its handles were dropped since. -/
def installed (r : RemoteAddress) (cs : List Call) : Option (List PathObject) :=
  cs.foldl (fun paths c => match c with
    | .replace r' ps => if r' = r then some ps else paths
    | .clear r' | .removeRemote r' => if r' = r then none else paths
    | .removePath .. => paths) none

lemma installed_append_singleton (cs : List Call) (c : Call) (r : RemoteAddress) :
    installed r (cs ++ [c]) = match c with
      | .replace r' ps => if r' = r then some ps else installed r cs
      | .clear r' | .removeRemote r' => if r' = r then none else installed r cs
      | .removePath .. => installed r cs := by
  unfold installed
  rw [List.foldl_append, List.foldl_cons, List.foldl_nil]

lemma mem_of_mem_number {next : UInt64} {ps : List PathObject} {h : PathHandle} {o : PathObject}
    (hm : (h, o) ∈ number next ps) : o ∈ ps := by
  induction ps generalizing next with
  | nil => cases hm
  | cons p ps ih =>
    rcases List.mem_cons.mp hm with he | hm
    · exact (Prod.mk.inj he).2 ▸ List.mem_cons_self
    · exact List.mem_cons_of_mem p (ih hm)

lemma exists_installed_of_current {n : Nat} {cs : List Call} {r : RemoteAddress} {h : PathHandle}
    {o : PathObject} (hc : OfferTable.Current (changes n cs) r h o) :
    ∃ ps, installed r cs = some ps ∧ o ∈ ps := by
  induction cs using List.reverseRecOn with
  | nil => simp [changes, OfferTable.Current, OfferTable.latest] at hc
  | append_singleton cs c ih =>
    rw [changes_append] at hc
    rw [installed_append_singleton]
    rcases (OfferTable.current_append_singleton _ _ r h o).mp hc with ⟨batch, hb, hm⟩ | ⟨he, hold⟩
    · cases c with
      | replace r' ps =>
        obtain ⟨rfl, rfl⟩ := OfferTable.Change.offer.inj hb
        exact ⟨ps, if_pos rfl, mem_of_mem_number hm⟩
      | _ => cases hb
    · obtain ⟨ps, hps, hm⟩ := ih hold
      refine ⟨ps, ?_, hm⟩
      cases c with
      | removePath r' f => exact hps
      | _ => exact (if_neg fun hr => he hr).trans hps

lemma flatMap_keys_changes (n : Nat) (cs : List Call) :
    (changes n cs).flatMap OfferTable.Change.keys =
      (List.range' n (issued cs)).map fun i => ⟨UInt64.ofNat i⟩ := by
  induction cs generalizing n with
  | nil => rfl
  | cons c cs ih =>
    rw [changes, List.flatMap_cons, ih, keys_change, map_fst_number, ← List.map_append,
      List.range'_append_1]
    rfl

lemma nodup_keys_changes {n : Nat} {cs : List Call} (h : n + issued cs ≤ UInt64.size) :
    ((changes n cs).flatMap OfferTable.Change.keys).Nodup := by
  rw [flatMap_keys_changes]
  refine List.Nodup.map_on (fun i hi j hj hij => ?_) List.nodup_range'
  rw [List.mem_range'_1] at hi hj
  have heq := congrArg UInt64.toNat (PathHandle.mk.inj hij)
  rwa [UInt64.toNat_ofNat_of_lt' (by omega), UInt64.toNat_ofNat_of_lt' (by omega)] at heq

end HandleTable

end PathPolicy
