import PathPolicy.Proofs.OfferTable
import Mathlib.Data.List.Induction
import Mathlib.Data.List.Nodup

/-!
# Keys that the caller chooses

A caller that chooses the keys of its batches may use one again. It does no harm as long as no key
of a new batch is one of the latest offers still in force: then what a key stands for is read off
the changes, and beside the latest offers only keys of repeated fingerprints stand for anything.
-/

namespace PathPolicy.OfferTable

variable {κ : Type}

/-- What is left of the batch last offered for `r`; nothing once `r` is cleared or forgotten. -/
def latest (r : RemoteAddress) (cs : List (Change κ)) : Option (List (κ × PathObject)) :=
  cs.foldl (fun offered c => match c with
    | .offer r' batch => if r' = r then some batch else offered
    | .clear r' | .forget r' => if r' = r then none else offered
    | .retract r' f =>
      if r' = r then offered.map (·.filter fun e => e.2.fingerprint ≠ f) else offered) none

/-- The key stands for `o` in the latest offer for `r`. -/
def Current (cs : List (Change κ)) (r : RemoteAddress) (k : κ) (o : PathObject) : Prop :=
  ∃ batch, latest r cs = some batch ∧ (k, o) ∈ batch

/-- The key was offered for `o`, whose fingerprint came again in the batch, and never since. -/
def Leftover (cs : List (Change κ)) (k : κ) (o : PathObject) : Prop :=
  ∃ before r front rest after, cs = before ++ .offer r (front ++ (k, o) :: rest) :: after ∧
    Repeats o.fingerprint rest ∧ ∀ c ∈ after, k ∉ c.keys

/-- The keys of a change differ from each other and from those of the latest offers before it. -/
def Fresh (before : List (Change κ)) (c : Change κ) : Prop :=
  c.keys.Nodup ∧ ∀ k ∈ c.keys, ∀ r o, ¬Current before r k o

def AllFresh (cs : List (Change κ)) : Prop :=
  ∀ before c after, cs = before ++ c :: after → Fresh before c

lemma allFresh_nil : AllFresh ([] : List (Change κ)) := by
  intro before c after h
  simp at h

lemma AllFresh.append_singleton {cs : List (Change κ)} {c : Change κ} (h : AllFresh cs)
    (hc : Fresh cs c) : AllFresh (cs ++ [c]) := by
  intro before d after hd
  rcases List.eq_nil_or_concat' after with rfl | ⟨after, e, rfl⟩
  · obtain ⟨rfl, hcd⟩ := List.append_inj' hd rfl
    obtain rfl := List.singleton_inj.mp hcd
    exact hc
  · rw [← List.cons_append, ← List.append_assoc] at hd
    exact h before d after (List.append_inj' hd rfl).1

lemma AllFresh.of_append {cs ds : List (Change κ)} (h : AllFresh (cs ++ ds)) : AllFresh cs :=
  fun before c after hcs => h before c (after ++ ds) (by simp [hcs])

lemma latest_append_singleton (cs : List (Change κ)) (c : Change κ) (r : RemoteAddress) :
    latest r (cs ++ [c]) = match c with
      | .offer r' batch => if r' = r then some batch else latest r cs
      | .clear r' | .forget r' => if r' = r then none else latest r cs
      | .retract r' f =>
        if r' = r then (latest r cs).map (·.filter fun e => e.2.fingerprint ≠ f)
        else latest r cs := by
  unfold latest
  rw [List.foldl_append, List.foldl_cons, List.foldl_nil]

/-- What is on offer after a change was on offer before and has not ended, or is offered by it. -/
lemma current_append_singleton (cs : List (Change κ)) (c : Change κ) (r : RemoteAddress) (k : κ)
    (o : PathObject) :
    Current (cs ++ [c]) r k o ↔
      (∃ batch, c = .offer r batch ∧ (k, o) ∈ batch) ∨
        ¬c.Ends r o.fingerprint ∧ Current cs r k o := by
  unfold Current
  rw [latest_append_singleton]
  cases c with
  | offer r' batch =>
    by_cases h : r' = r
    · subst h
      simp [Change.Ends]
    · simp [Change.Ends, h]
  | clear r' => by_cases h : r' = r <;> simp [Change.Ends, h]
  | forget r' => by_cases h : r' = r <;> simp [Change.Ends, h]
  | retract r' f =>
    by_cases h : r' = r
    · subst h
      simp only [if_true, Option.map_eq_some_iff, Change.Ends, true_and, reduceCtorEq, false_and,
        exists_false, false_or]
      constructor
      · rintro ⟨_, ⟨batch, hb, rfl⟩, hm⟩
        obtain ⟨hm, hf⟩ := List.mem_filter.mp hm
        exact ⟨fun e => of_decide_eq_true hf e.symm, batch, hb, hm⟩
      · rintro ⟨hf, batch, hb, hm⟩
        exact ⟨_, ⟨batch, hb, rfl⟩, List.mem_filter.mpr ⟨hm, decide_eq_true fun e => hf e.symm⟩⟩
    · simp [Change.Ends, h]

lemma Current.append {cs ds : List (Change κ)} {r : RemoteAddress} {k : κ} {o : PathObject}
    (h : Current cs r k o) (hd : ∀ c ∈ ds, ¬c.Ends r o.fingerprint) : Current (cs ++ ds) r k o := by
  induction ds using List.reverseRecOn with
  | nil => simpa using h
  | append_singleton ds c ih =>
    have hc : ¬c.Ends r o.fingerprint := hd c (by simp)
    rw [← List.append_assoc, current_append_singleton]
    exact .inr ⟨hc, ih fun d hm => hd d (List.mem_append_left _ hm)⟩

/-- A key on offer was put on offer by some change, and no change since ended it. -/
lemma current_iff (cs : List (Change κ)) (r : RemoteAddress) (k : κ) (o : PathObject) :
    Current cs r k o ↔ ∃ before front rest after,
      cs = before ++ .offer r (front ++ (k, o) :: rest) :: after ∧
        ∀ c ∈ after, ¬c.Ends r o.fingerprint := by
  constructor
  · intro h
    induction cs using List.reverseRecOn with
    | nil => simp [Current, latest] at h
    | append_singleton cs c ih =>
      rcases (current_append_singleton cs c r k o).mp h with ⟨batch, rfl, hm⟩ | ⟨he, hold⟩
      · obtain ⟨front, rest, rfl⟩ := List.append_of_mem hm
        exact ⟨cs, front, rest, [], rfl, by simp⟩
      · obtain ⟨before, front, rest, after, rfl, hn⟩ := ih hold
        refine ⟨before, front, rest, after ++ [c], by simp, ?_⟩
        intro d hd
        rcases List.mem_append.mp hd with hd | hd
        · exact hn d hd
        · rwa [List.mem_singleton.mp hd]
  · rintro ⟨before, front, rest, after, rfl, hn⟩
    have hoffer : Current (before ++ [.offer r (front ++ (k, o) :: rest)]) r k o :=
      (current_append_singleton before _ r k o).mpr (.inl ⟨_, rfl, by simp⟩)
    simpa using hoffer.append hn

/-- Fresh keys are on one remote's offer at a time. -/
lemma AllFresh.remote_eq {cs : List (Change κ)} (h : AllFresh cs) {k : κ} {r r' : RemoteAddress}
    {o o' : PathObject} (ho : Current cs r k o) (ho' : Current cs r' k o') : r = r' := by
  induction cs using List.reverseRecOn with
  | nil => simp [Current, latest] at ho
  | append_singleton cs c ih =>
    have hfresh : Fresh cs c := h cs c [] rfl
    have hkeys {r : RemoteAddress} {o : PathObject} {batch : List (κ × PathObject)}
        (hm : (k, o) ∈ batch) : k ∈ (Change.offer r batch).keys := List.mem_map_of_mem hm
    rw [current_append_singleton] at ho ho'
    rcases ho with ⟨batch, rfl, hm⟩ | ⟨-, ho⟩ <;> rcases ho' with ⟨batch', hc, hm'⟩ | ⟨-, ho'⟩
    · obtain ⟨rfl, -⟩ := Change.offer.inj hc
      rfl
    · exact absurd ho' (hfresh.2 k (hkeys hm) r' o')
    · exact absurd ho (hfresh.2 k (hc ▸ hkeys hm') r o)
    · exact ih h.of_append ho ho'

variable [DecidableEq κ]

lemma exists_current_of_keyOf {cs : List (Change κ)} {r : RemoteAddress} {f : Fingerprint} {k : κ}
    (h : (({} : OfferTable κ).applyAll cs).keyOf r f = some k) :
    ∃ o, o.fingerprint = f ∧ Current cs r k o := by
  induction cs using List.reverseRecOn with
  | nil => exact absurd h (loose_empty k r f)
  | append_singleton cs c ih =>
    rw [applyAll_append, applyAll_cons, applyAll_nil, keyOf_apply] at h
    split_ifs at h with he
    · obtain ⟨front, o, rest, hb, hf, -⟩ := lookup_fingerprint_eq_some_iff.mp h
      cases c with
      | offer r' batch =>
        obtain rfl : r' = r := he
        obtain rfl : batch = _ := hb
        exact ⟨o, hf, (current_append_singleton cs _ r' k o).mpr (.inl ⟨_, rfl, by simp⟩)⟩
      | clear => simp [Change.batch] at hb
      | forget => simp [Change.batch] at hb
      | retract => simp [Change.batch] at hb
    · obtain ⟨o, rfl, ho⟩ := ih h
      exact ⟨o, rfl, (current_append_singleton cs c r k o).mpr (.inr ⟨he, ho⟩)⟩

lemma Fresh.loose {cs : List (Change κ)} {c : Change κ} (h : Fresh cs c) {k : κ}
    (hk : k ∈ c.keys) : (({} : OfferTable κ).applyAll cs).Loose k := by
  intro r f he
  obtain ⟨o, -, ho⟩ := exists_current_of_keyOf he
  exact h.2 k hk r o ho

/-- Right after a fresh offer its key holds the object, or stands for it out of reach. -/
lemma Fresh.offer {cs : List (Change κ)} {r : RemoteAddress} {k : κ} {o : PathObject}
    {front rest : List (κ × PathObject)}
    (h : Fresh cs (.offer r (front ++ (k, o) :: rest))) :
    let t := ({} : OfferTable κ).applyAll (cs ++ [.offer r (front ++ (k, o) :: rest)])
    (¬Repeats o.fingerprint rest → t.Holds k r o) ∧
      (Repeats o.fingerprint rest → t.Loose k ∧ t.resolve k = some o) := by
  have hn : (front.map Prod.fst ++ k :: rest.map Prod.fst).Nodup := by
    simpa [Change.keys, Change.batch] using h.1
  obtain ⟨-, hrest, hdis⟩ := List.nodup_append.mp hn
  have hf : k ∉ front.map Prod.fst := fun hm => hdis k hm k List.mem_cons_self rfl
  have hr : k ∉ rest.map Prod.fst := (List.nodup_cons.mp hrest).1
  have hl := h.loose (k := k) (by simp [Change.keys, Change.batch])
  simp only [applyAll_append, applyAll_cons, applyAll_nil]
  exact hl.offer r o hf hr

/-- With fresh keys, a key stands for what it has in a latest offer, or for what it was left with
when its fingerprint came again. -/
theorem resolve_eq_some_iff {cs : List (Change κ)} (h : AllFresh cs) (k : κ) (o : PathObject) :
    (({} : OfferTable κ).applyAll cs).resolve k = some o ↔
      (∃ r, Current cs r k o) ∨ Leftover cs k o := by
  have hsplit (before after : List (Change κ)) (c : Change κ) :
      before ++ c :: after = before ++ [c] ++ after := by simp
  constructor
  · intro hres
    obtain ⟨before, r, front, rest, after, hcs, -, hk, hrep | ⟨hn, -⟩⟩ := exists_offer_of_resolve hres
    · exact .inr ⟨before, r, front, rest, after, hcs, hrep, hk⟩
    · exact .inl ⟨r, (current_iff cs r k o).mpr ⟨before, front, rest, after, hcs, hn⟩⟩
  · rintro (⟨r, hcur⟩ | ⟨before, r, front, rest, after, rfl, hrep, hk⟩)
    · obtain ⟨before, front, rest, after, rfl, hn⟩ := (current_iff cs r k o).mp hcur
      -- A later change that used the key would have met it in the latest offer for `r`.
      have hk : ∀ c ∈ after, k ∉ c.keys := by
        intro c hc hm
        obtain ⟨mid, last, rfl⟩ := List.append_of_mem hc
        refine (h (before ++ .offer r (front ++ (k, o) :: rest) :: mid) c last (by simp)).2
          k hm r o ?_
        refine (current_iff _ r k o).mpr ⟨before, front, rest, mid, rfl, fun d hd => ?_⟩
        exact hn d (List.mem_append_left _ hd)
      obtain ⟨honce, hagain⟩ := (h before _ after rfl).offer
      rw [hsplit, applyAll_append]
      by_cases hrep : Repeats o.fingerprint rest
      · obtain ⟨hl, hr⟩ := hagain hrep
        exact (hl.applyAll hk).2.trans hr
      · exact (((honce hrep).applyAll hk).1 hn).resolve
    · obtain ⟨hl, hr⟩ := (h before _ after rfl).offer.2 hrep
      rw [hsplit, applyAll_append]
      exact (hl.applyAll hk).2.trans hr

end PathPolicy.OfferTable
