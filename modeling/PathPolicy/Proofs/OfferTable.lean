import PathPolicy.OfferTable
import Mathlib.Data.List.Induction

/-!
# Offers through a sequence of changes

A table is changed by offering a batch, by clearing or forgetting a remote, and by retracting one
fingerprint. Two equations say what a change does to the two maps of a table. From them follows
when a key stands for a path object: a key is dropped through its fingerprint, so one whose
fingerprint comes again later in its batch is never dropped.
-/

namespace PathPolicy

inductive OfferTable.Change (κ : Type)
  | offer (r : RemoteAddress) (batch : List (κ × PathObject))
  | clear (r : RemoteAddress)
  | forget (r : RemoteAddress)
  | retract (r : RemoteAddress) (f : Fingerprint)

namespace OfferTable

variable {κ : Type}

def Repeats (f : Fingerprint) (rest : List (κ × PathObject)) : Prop :=
  ∃ e ∈ rest, e.2.fingerprint = f

namespace Change

/-- The offer of `f` for `r`, as it was, ends with the change. -/
def Ends (r : RemoteAddress) (f : Fingerprint) : Change κ → Prop
  | .offer r' _ | .clear r' | .forget r' => r' = r
  | .retract r' f' => r' = r ∧ f' = f

def batch : Change κ → List (κ × PathObject)
  | .offer _ batch => batch
  | _ => []

def keys (c : Change κ) : List κ := c.batch.map Prod.fst

end Change

/-! ### The entries of a batch -/

lemma lookup_reverse_eq_some_iff {α β : Type} [DecidableEq α] {l : List (α × β)} {a : α} {b : β} :
    l.reverse.lookup a = some b ↔
      ∃ front rest, l = front ++ (a, b) :: rest ∧ a ∉ rest.map Prod.fst := by
  rw [List.lookup_eq_some_iff]
  constructor
  · rintro ⟨rest, front, h, hr⟩
    refine ⟨front.reverse, rest.reverse, by simpa using congrArg List.reverse h, ?_⟩
    intro hm
    obtain ⟨e, he, rfl⟩ := List.mem_map.mp hm
    simpa using hr e (List.mem_reverse.mp he)
  · rintro ⟨front, rest, rfl, hr⟩
    refine ⟨rest.reverse, front.reverse, by simp, fun e he => ?_⟩
    rw [bne_iff_ne]
    rintro rfl
    exact hr (List.mem_map_of_mem (List.mem_reverse.mp he))

/-- The key offered for a fingerprint is the one that comes last with it. -/
lemma lookup_fingerprint_eq_some_iff {batch : List (κ × PathObject)} {f : Fingerprint} {k : κ} :
    (batch.map fun e => (e.2.fingerprint, e.1)).reverse.lookup f = some k ↔
      ∃ front o rest, batch = front ++ (k, o) :: rest ∧ o.fingerprint = f ∧ ¬Repeats f rest := by
  rw [lookup_reverse_eq_some_iff]
  constructor
  · rintro ⟨front', rest', h, hr⟩
    obtain ⟨front, rest, rfl, -, h⟩ := List.map_eq_append_iff.mp h
    obtain ⟨⟨k, o⟩, rest, rfl, he, rfl⟩ := List.map_eq_cons_iff.mp h
    obtain ⟨rfl, rfl⟩ := Prod.mk.inj he
    refine ⟨front, o, rest, rfl, rfl, ?_⟩
    rintro ⟨e, hm, he⟩
    exact hr (by simpa using ⟨e.1, e.2, hm, he⟩)
  · rintro ⟨front, o, rest, rfl, rfl, hr⟩
    refine ⟨_, _, List.map_append, ?_⟩
    intro hm
    obtain ⟨e, he, hf⟩ := List.mem_map.mp hm
    obtain ⟨x, hx, rfl⟩ := List.mem_map.mp he
    exact hr ⟨x, hx, hf⟩

lemma entry_unique {k : κ} {o o' : PathObject} {front front' rest rest' : List (κ × PathObject)}
    (hf : k ∉ front.map Prod.fst) (hr : k ∉ rest.map Prod.fst)
    (h : front ++ (k, o) :: rest = front' ++ (k, o') :: rest') :
    front = front' ∧ o = o' ∧ rest = rest' := by
  induction front generalizing front' with
  | nil =>
    cases front' with
    | nil => simpa using h
    | cons e front' =>
      obtain ⟨-, rfl⟩ := List.cons.inj h
      simp at hr
  | cons e front ih =>
    cases front' with
    | nil =>
      obtain ⟨rfl, -⟩ := List.cons.inj h
      simp at hf
    | cons e' front' =>
      obtain ⟨rfl, htail⟩ := List.cons.inj h
      obtain ⟨rfl, hrest⟩ := ih (fun hm => hf (List.mem_cons_of_mem _ hm)) htail
      exact ⟨rfl, hrest⟩

/-! ### One key -/

def Loose (t : OfferTable κ) (k : κ) : Prop := ∀ r f, t.keyOf r f ≠ some k

lemma loose_empty (k : κ) : (({} : OfferTable κ)).Loose k := by
  intro r f
  simp [keyOf, offer]

variable [DecidableEq κ]

/-- The key stands for `o` in the offer for `r`, and in no other place. -/
structure Holds (t : OfferTable κ) (k : κ) (r : RemoteAddress) (o : PathObject) : Prop where
  keyOf_iff : ∀ r' f, t.keyOf r' f = some k ↔ r' = r ∧ f = o.fingerprint
  resolve : t.resolve k = some o

instance (r : RemoteAddress) (f : Fingerprint) (c : Change κ) : Decidable (c.Ends r f) := by
  cases c <;> unfold Change.Ends <;> infer_instance

def apply (t : OfferTable κ) : Change κ → OfferTable κ
  | .offer r batch => t.replaceWith r batch
  | .clear r => t.clear r
  | .forget r => t.removeRemote r
  | .retract r f => t.removePath r f

def applyAll (t : OfferTable κ) (cs : List (Change κ)) : OfferTable κ := cs.foldl apply t

@[simp] lemma applyAll_nil (t : OfferTable κ) : t.applyAll [] = t := rfl

@[simp] lemma applyAll_cons (t : OfferTable κ) (c : Change κ) (cs : List (Change κ)) :
    t.applyAll (c :: cs) = (t.apply c).applyAll cs := rfl

lemma applyAll_append (t : OfferTable κ) (cs ds : List (Change κ)) :
    t.applyAll (cs ++ ds) = (t.applyAll cs).applyAll ds :=
  List.foldl_append

/-! ### What a change does -/

lemma keyOf_clear (t : OfferTable κ) (r r' : RemoteAddress) (f : Fingerprint) :
    (t.clear r).keyOf r' f = if r' = r then none else t.keyOf r' f := by
  unfold keyOf offer clear
  simp only [Dictionary.get?_modify]
  by_cases h : r' = r
  · cases t.offers.get? r <;> simp [h]
  · simp [h]

lemma resolve_clear (t : OfferTable κ) (r : RemoteAddress) (k : κ) (o : PathObject) :
    (t.clear r).resolve k = some o ↔ (∀ f, t.keyOf r f ≠ some k) ∧ t.resolve k = some o := by
  have h : k ∈ (t.offer r).values ↔ ∃ f, t.keyOf r f = some k := Dictionary.mem_values
  simp only [resolve, clear, Dictionary.get?_eraseAll]
  by_cases hk : k ∈ (t.offer r).values
  · simpa [hk] using fun hf => absurd (h.mp hk) (by simpa using hf)
  · have hf : ∀ f, t.keyOf r f ≠ some k := fun f e => hk (h.mpr ⟨f, e⟩)
    simp [hk, hf]

lemma keyOf_removeRemote (t : OfferTable κ) (r r' : RemoteAddress) (f : Fingerprint) :
    (t.removeRemote r).keyOf r' f = if r' = r then none else t.keyOf r' f := by
  unfold keyOf offer removeRemote
  simp only [Dictionary.get?_erase]
  by_cases h : r' = r <;> simp [h]

lemma keyOf_removePath (t : OfferTable κ) (r r' : RemoteAddress) (f f' : Fingerprint) :
    (t.removePath r f).keyOf r' f' = if r' = r ∧ f' = f then none else t.keyOf r' f' := by
  unfold removePath
  cases h : (t.offer r).get? f with
  | none =>
    by_cases hr : r' = r ∧ f' = f
    · simp [hr, keyOf, h]
    · simp [hr]
  | some k =>
    by_cases hr : r' = r
    · subst hr
      simp only [keyOf, offer] at h ⊢
      cases ho : t.offers.get? r' with
      | none => simp [ho] at h
      | some d => simp [Dictionary.get?_modify, ho, Dictionary.get?_erase]
    · simp [keyOf, offer, Dictionary.get?_modify, hr]

lemma resolve_removePath (t : OfferTable κ) (r : RemoteAddress) (f : Fingerprint) (k : κ)
    (o : PathObject) :
    (t.removePath r f).resolve k = some o ↔ t.keyOf r f ≠ some k ∧ t.resolve k = some o := by
  unfold removePath keyOf
  cases h : (t.offer r).get? f with
  | none => simp
  | some k' =>
    by_cases hk : k = k'
    · simp [resolve, hk]
    · simp [resolve, Dictionary.get?_erase, hk, Ne.symm hk]

lemma keyOf_replaceWith (t : OfferTable κ) (r r' : RemoteAddress) (batch : List (κ × PathObject))
    (f : Fingerprint) :
    (t.replaceWith r batch).keyOf r' f =
      if r' = r then (batch.map fun e => (e.2.fingerprint, e.1)).reverse.lookup f
      else t.keyOf r' f := by
  by_cases h : r' = r <;> simp [keyOf, offer, replaceWith, Dictionary.get?_insert,
    Dictionary.get?_insertAll, h]

lemma resolve_replaceWith (t : OfferTable κ) (r : RemoteAddress) (batch : List (κ × PathObject))
    (k : κ) :
    (t.replaceWith r batch).resolve k = (batch.reverse.lookup k).or ((t.clear r).resolve k) :=
  Dictionary.get?_insertAll _ _ _

/-- What the change offers for a fingerprint is the key that comes last with it. -/
theorem keyOf_apply (t : OfferTable κ) (c : Change κ) (r : RemoteAddress) (f : Fingerprint) :
    (t.apply c).keyOf r f =
      if c.Ends r f then (c.batch.map fun e => (e.2.fingerprint, e.1)).reverse.lookup f
      else t.keyOf r f := by
  cases c with
  | offer r' batch => simp only [apply, keyOf_replaceWith, Change.Ends, Change.batch, eq_comm]
  | clear r' => simp [apply, keyOf_clear, Change.Ends, Change.batch, eq_comm]
  | forget r' => simp [apply, keyOf_removeRemote, Change.Ends, Change.batch, eq_comm]
  | retract r' f' => simp [apply, keyOf_removePath, Change.Ends, Change.batch, eq_comm]

/-- A key stands for the object it comes with last, until its offer ends. -/
theorem resolve_apply (t : OfferTable κ) (c : Change κ) (k : κ) (o : PathObject) :
    (t.apply c).resolve k = some o ↔ c.batch.reverse.lookup k = some o ∨
      k ∉ c.keys ∧ (∀ f r, c.Ends r f → t.keyOf r f ≠ some k) ∧ t.resolve k = some o := by
  cases c with
  | offer r' batch =>
    have h : batch.reverse.lookup k = none ↔ k ∉ batch.map Prod.fst := by
      rw [List.lookup_eq_none_iff]
      simp only [List.mem_reverse, bne_iff_ne, List.mem_map, not_exists, not_and]
      exact ⟨fun h e he hk => h e he hk.symm, fun h e he hk => h e he hk.symm⟩
    simp [apply, resolve_replaceWith, Option.or_eq_some_iff, resolve_clear, Change.Ends,
      Change.batch, Change.keys, h]
  | clear r' => simp [apply, resolve_clear, Change.Ends, Change.batch, Change.keys]
  | forget r' =>
    have h : (t.removeRemote r').resolve k = (t.clear r').resolve k := rfl
    simp [apply, h, resolve_clear, Change.Ends, Change.batch, Change.keys]
  | retract r' f' => simp [apply, resolve_removePath, Change.Ends, Change.batch, Change.keys]

/-! ### A key through a sequence of changes -/

lemma keyOf_apply_eq_some_of_not_mem {c : Change κ} {k : κ} (hk : k ∉ c.keys)
    (t : OfferTable κ) (r : RemoteAddress) (f : Fingerprint) :
    (t.apply c).keyOf r f = some k ↔ ¬c.Ends r f ∧ t.keyOf r f = some k := by
  rw [keyOf_apply]
  split_ifs with h
  · simp only [h, not_true_eq_false, false_and, iff_false]
    rw [lookup_fingerprint_eq_some_iff]
    rintro ⟨front, o, rest, hb, -, -⟩
    exact hk (by simp [Change.keys, hb])
  · simp [h]

lemma resolve_apply_of_not_mem {c : Change κ} {k : κ} (hk : k ∉ c.keys)
    (t : OfferTable κ) (o : PathObject) :
    (t.apply c).resolve k = some o ↔
      (∀ f r, c.Ends r f → t.keyOf r f ≠ some k) ∧ t.resolve k = some o := by
  rw [resolve_apply]
  constructor
  · rintro (h | ⟨-, h⟩)
    · obtain ⟨front, rest, hb, -⟩ := lookup_reverse_eq_some_iff.mp h
      exact absurd (by simp [Change.keys, hb]) hk
    · exact h
  · exact fun h => .inr ⟨hk, h⟩

/-- A key in no offer is out of reach of all changes that do not use it again. -/
lemma Loose.applyAll {t : OfferTable κ} {k : κ} (h : t.Loose k) {cs : List (Change κ)}
    (hk : ∀ c ∈ cs, k ∉ c.keys) :
    (t.applyAll cs).Loose k ∧ (t.applyAll cs).resolve k = t.resolve k := by
  induction cs generalizing t with
  | nil => exact ⟨h, rfl⟩
  | cons c cs ih =>
    have hc := hk c List.mem_cons_self
    have hloose : (t.apply c).Loose k := fun r f e =>
      h r f ((keyOf_apply_eq_some_of_not_mem hc t r f).mp e).2
    have hres : (t.apply c).resolve k = t.resolve k := by
      apply Option.ext
      intro o
      rw [resolve_apply_of_not_mem hc]
      exact and_iff_right fun f r _ => h r f
    obtain ⟨h1, h2⟩ := ih hloose fun c hm => hk c (List.mem_cons_of_mem _ hm)
    exact ⟨h1, h2.trans hres⟩

lemma Holds.apply {t : OfferTable κ} {k : κ} {r : RemoteAddress} {o : PathObject}
    (h : t.Holds k r o) {c : Change κ} (hk : k ∉ c.keys) (hc : ¬c.Ends r o.fingerprint) :
    (t.apply c).Holds k r o where
  keyOf_iff r' f := by
    rw [keyOf_apply_eq_some_of_not_mem hk, h.keyOf_iff]
    constructor
    · exact And.right
    · rintro ⟨rfl, rfl⟩
      exact ⟨hc, rfl, rfl⟩
  resolve := by
    rw [resolve_apply_of_not_mem hk]
    refine ⟨fun f r' he hf => ?_, h.resolve⟩
    obtain ⟨rfl, rfl⟩ := (h.keyOf_iff r' f).mp hf
    exact hc he

/-- A change that ends the offer of its fingerprint drops the key. -/
lemma Holds.drop {t : OfferTable κ} {k : κ} {r : RemoteAddress} {o : PathObject}
    (h : t.Holds k r o) {c : Change κ} (hk : k ∉ c.keys) (hc : c.Ends r o.fingerprint) :
    (t.apply c).Loose k ∧ (t.apply c).resolve k = none := by
  constructor
  · intro r' f e
    obtain ⟨he, hf⟩ := (keyOf_apply_eq_some_of_not_mem hk t r' f).mp e
    obtain ⟨rfl, rfl⟩ := (h.keyOf_iff r' f).mp hf
    exact he hc
  · rw [Option.eq_none_iff_forall_ne_some]
    intro o' e
    exact ((resolve_apply_of_not_mem hk t o').mp e).1 _ _ hc ((h.keyOf_iff _ _).mpr ⟨rfl, rfl⟩)

lemma Holds.applyAll {t : OfferTable κ} {k : κ} {r : RemoteAddress} {o : PathObject}
    (h : t.Holds k r o) {cs : List (Change κ)} (hk : ∀ c ∈ cs, k ∉ c.keys) :
    ((∀ c ∈ cs, ¬c.Ends r o.fingerprint) → (t.applyAll cs).Holds k r o) ∧
      ((∃ c ∈ cs, c.Ends r o.fingerprint) → (t.applyAll cs).resolve k = none) := by
  induction cs generalizing t with
  | nil => exact ⟨fun _ => h, by simp⟩
  | cons c cs ih =>
    have hc := hk c List.mem_cons_self
    have hcs := fun d hd => hk d (List.mem_cons_of_mem c hd)
    by_cases he : c.Ends r o.fingerprint
    · obtain ⟨hl, hn⟩ := h.drop hc he
      refine ⟨fun hall => absurd he (hall c List.mem_cons_self), fun _ => ?_⟩
      exact (hl.applyAll hcs).2.trans hn
    · obtain ⟨h1, h2⟩ := ih (h.apply hc he) hcs
      refine ⟨fun hall => h1 fun d hd => hall d (List.mem_cons_of_mem c hd), ?_⟩
      rintro ⟨d, hd, hde⟩
      rcases List.mem_cons.mp hd with rfl | hd
      · exact absurd hde he
      · exact h2 ⟨d, hd, hde⟩

/-- Once offered, a key holds its object, unless the fingerprint comes again in the batch: then
no offer has the key, and it stands for its object all the same. -/
lemma Loose.offer {t : OfferTable κ} {k : κ} (h : t.Loose k) (r : RemoteAddress) (o : PathObject)
    {front rest : List (κ × PathObject)} (hf : k ∉ front.map Prod.fst)
    (hr : k ∉ rest.map Prod.fst) :
    let t' := t.apply (.offer r (front ++ (k, o) :: rest))
    (¬Repeats o.fingerprint rest → t'.Holds k r o) ∧
      (Repeats o.fingerprint rest → t'.Loose k ∧ t'.resolve k = some o) := by
  intro t'
  have hkey : ∀ r' f, t'.keyOf r' f = some k ↔
      r' = r ∧ f = o.fingerprint ∧ ¬Repeats o.fingerprint rest := by
    intro r' f
    change (t.apply (.offer r (front ++ (k, o) :: rest))).keyOf r' f = some k ↔ _
    rw [keyOf_apply]
    by_cases hrr : r = r'
    · rw [if_pos (show Change.Ends r' f (.offer r _) from hrr), lookup_fingerprint_eq_some_iff]
      constructor
      · rintro ⟨front', o', rest', hb, rfl, hn⟩
        obtain ⟨-, rfl, rfl⟩ := entry_unique hf hr hb
        exact ⟨hrr.symm, rfl, hn⟩
      · rintro ⟨-, rfl, hn⟩
        exact ⟨front, o, rest, rfl, rfl, hn⟩
    · rw [if_neg (show ¬Change.Ends r' f (.offer r _) from hrr)]
      exact ⟨fun e => absurd e (h r' f), fun e => absurd e.1.symm hrr⟩
  have hres : t'.resolve k = some o :=
    (resolve_apply t _ k o).mpr (.inl (lookup_reverse_eq_some_iff.mpr ⟨front, rest, rfl, hr⟩))
  refine ⟨fun hn => ⟨fun r' f => ?_, hres⟩, fun hy => ⟨fun r' f e => ?_, hres⟩⟩
  · rw [hkey]
    exact ⟨fun e => ⟨e.1, e.2.1⟩, fun e => ⟨e.1, e.2, hn⟩⟩
  · exact ((hkey r' f).mp e).2.2 hy

/-- A key that stands for an object was offered it by the last change that used the key, and
since then either the offer has not ended or the fingerprint had come again in the batch. -/
theorem exists_offer_of_resolve {cs : List (Change κ)} {k : κ} {o : PathObject}
    (h : (({} : OfferTable κ).applyAll cs).resolve k = some o) :
    ∃ before r front rest after, cs = before ++ .offer r (front ++ (k, o) :: rest) :: after ∧
      k ∉ rest.map Prod.fst ∧ (∀ c ∈ after, k ∉ c.keys) ∧
      (Repeats o.fingerprint rest ∨ (∀ c ∈ after, ¬c.Ends r o.fingerprint) ∧
        (({} : OfferTable κ).applyAll cs).keyOf r o.fingerprint = some k) := by
  induction cs using List.reverseRecOn with
  | nil => simp [resolve] at h
  | append_singleton cs c ih =>
    have happ : (({} : OfferTable κ).applyAll (cs ++ [c])) = (applyAll {} cs).apply c := by
      rw [applyAll_append, applyAll_cons, applyAll_nil]
    rw [happ] at h ⊢
    rcases (resolve_apply _ c k o).mp h with hb | ⟨hk, he, hold⟩
    · obtain ⟨front, rest, hb, hr⟩ := lookup_reverse_eq_some_iff.mp hb
      cases c with
      | offer r batch =>
        obtain rfl : batch = _ := hb
        refine ⟨cs, r, front, rest, [], rfl, hr, by simp, ?_⟩
        by_cases hrep : Repeats o.fingerprint rest
        · exact .inl hrep
        · refine .inr ⟨by simp, ?_⟩
          rw [keyOf_apply, if_pos (show Change.Ends r _ (.offer r _) from rfl)]
          exact lookup_fingerprint_eq_some_iff.mpr ⟨front, o, rest, rfl, rfl, hrep⟩
      | clear => simp [Change.batch] at hb
      | forget => simp [Change.batch] at hb
      | retract => simp [Change.batch] at hb
    · obtain ⟨before, r, front, rest, after, rfl, hr, hl, hs⟩ := ih hold
      refine ⟨before, r, front, rest, after ++ [c], by simp, hr, ?_, ?_⟩
      · simpa [or_imp, forall_and] using ⟨hl, hk⟩
      · rcases hs with hrep | ⟨hn, hkey⟩
        · exact .inl hrep
        · have hc : ¬c.Ends r o.fingerprint := fun hc => he _ _ hc hkey
          refine .inr ⟨by simpa [or_imp, forall_and] using ⟨hn, hc⟩, ?_⟩
          exact (keyOf_apply_eq_some_of_not_mem hk _ _ _).mpr ⟨hc, hkey⟩

end OfferTable

end PathPolicy
