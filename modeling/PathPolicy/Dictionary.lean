/-!
# Dictionaries

A finite map kept as a list of entries, each key once. `get?` is its view: every operation is
described by what `get?` answers afterwards.
-/

namespace PathPolicy

structure Dictionary (κ α : Type) where
  entries : List (κ × α)
  nodup : (entries.map Prod.fst).Nodup

namespace Dictionary

variable {κ α : Type}

instance : EmptyCollection (Dictionary κ α) := ⟨⟨[], List.nodup_nil⟩⟩

instance : Inhabited (Dictionary κ α) := ⟨∅⟩

theorem nodup_filter (d : Dictionary κ α) (keep : κ × α → Bool) :
    ((d.entries.filter keep).map Prod.fst).Nodup :=
  d.nodup.sublist (List.filter_sublist.map Prod.fst)

variable [DecidableEq κ]

def get? (d : Dictionary κ α) (k : κ) : Option α := d.entries.lookup k

def contains (d : Dictionary κ α) (k : κ) : Bool := (d.get? k).isSome

def erase (d : Dictionary κ α) (k : κ) : Dictionary κ α :=
  ⟨d.entries.filter (fun e => e.1 ≠ k), d.nodup_filter _⟩

theorem not_mem_keys_erase (d : Dictionary κ α) (k : κ) :
    k ∉ (d.erase k).entries.map Prod.fst := by
  simp [erase]

def insert (d : Dictionary κ α) (k : κ) (a : α) : Dictionary κ α :=
  ⟨(k, a) :: (d.erase k).entries, List.nodup_cons.mpr ⟨d.not_mem_keys_erase k, (d.erase k).nodup⟩⟩

/-- Keeps the entries whose key is accepted. -/
def restrict (d : Dictionary κ α) (keep : κ → Bool) : Dictionary κ α :=
  ⟨d.entries.filter (fun e => keep e.1), d.nodup_filter _⟩

/-- Applies `f` to the value at `k`, if there is one. -/
def modify (d : Dictionary κ α) (k : κ) (f : α → α) : Dictionary κ α :=
  match d.get? k with
  | none => d
  | some a => d.insert k (f a)

def eraseAll (d : Dictionary κ α) (ks : List κ) : Dictionary κ α := ks.foldl erase d

/-- Of several values for one key, the last stays. -/
def insertAll (d : Dictionary κ α) (es : List (κ × α)) : Dictionary κ α :=
  es.foldl (fun d e => d.insert e.1 e.2) d

def size (d : Dictionary κ α) : Nat := d.entries.length

def keys (d : Dictionary κ α) : List κ := d.entries.map Prod.fst

def values (d : Dictionary κ α) : List α := d.entries.map Prod.snd

@[simp] theorem get?_empty (k : κ) : ({} : Dictionary κ α).get? k = none := rfl

theorem lookup_filter (keep : κ → Bool) (l : List (κ × α)) (k : κ) :
    (l.filter (fun e => keep e.1)).lookup k = if keep k then l.lookup k else none := by
  induction l with
  | nil => simp
  | cons e r ih =>
    obtain ⟨k', a⟩ := e
    by_cases h : k = k'
    · subst h
      by_cases hk : keep k <;> simp [hk, ih]
    · have hb : (k == k') = false := by simpa using h
      by_cases hk : keep k' <;> simp [List.lookup_cons, hk, hb, ih]

theorem get?_restrict (d : Dictionary κ α) (keep : κ → Bool) (k : κ) :
    (d.restrict keep).get? k = if keep k then d.get? k else none :=
  lookup_filter keep d.entries k

theorem get?_erase (d : Dictionary κ α) (k k' : κ) :
    (d.erase k).get? k' = if k' = k then none else d.get? k' := by
  show (d.entries.filter (fun e => decide (e.1 ≠ k))).lookup k' = _
  rw [lookup_filter (fun x => decide (x ≠ k))]
  by_cases h : k' = k <;> simp [h, get?]

@[simp] theorem get?_erase_self (d : Dictionary κ α) (k : κ) : (d.erase k).get? k = none := by
  simp [get?_erase]

theorem get?_insert (d : Dictionary κ α) (k k' : κ) (a : α) :
    (d.insert k a).get? k' = if k' = k then some a else d.get? k' := by
  show List.lookup k' ((k, a) :: (d.erase k).entries) = _
  rw [List.lookup_cons]
  by_cases h : k' = k
  · simp [h]
  · have hb : (k' == k) = false := by simpa using h
    have hk := get?_erase d k k'
    simp only [hb, h, if_false] at hk ⊢
    exact hk

@[simp] theorem get?_insert_self (d : Dictionary κ α) (k : κ) (a : α) :
    (d.insert k a).get? k = some a := by
  simp [get?_insert]

theorem get?_modify (d : Dictionary κ α) (k k' : κ) (f : α → α) :
    (d.modify k f).get? k' = if k' = k then (d.get? k).map f else d.get? k' := by
  unfold modify
  cases h : d.get? k with
  | none =>
    by_cases hk : k' = k
    · simp [hk, h]
    · simp [hk]
  | some a => simp [get?_insert]

theorem get?_eraseAll (d : Dictionary κ α) (ks : List κ) (k : κ) :
    (d.eraseAll ks).get? k = if k ∈ ks then none else d.get? k := by
  induction ks generalizing d with
  | nil => simp [eraseAll]
  | cons x r ih =>
    have := ih (d.erase x)
    simp only [eraseAll, List.foldl_cons] at this ⊢
    rw [this, get?_erase]
    by_cases hx : k = x <;> by_cases hr : k ∈ r <;> simp [hx, hr]

theorem get?_insertAll (d : Dictionary κ α) (es : List (κ × α)) (k : κ) :
    (d.insertAll es).get? k = (es.reverse.lookup k).or (d.get? k) := by
  induction es generalizing d with
  | nil => simp [insertAll]
  | cons e r ih =>
    obtain ⟨k', a⟩ := e
    have := ih (d.insert k' a)
    simp only [insertAll, List.foldl_cons] at this ⊢
    rw [this, get?_insert, List.reverse_cons, List.lookup_append, Option.or_assoc]
    by_cases h : k = k'
    · simp [h]
    · have hb : (k == k') = false := by simpa using h
      simp [List.lookup_cons, hb, h]

theorem lookup_eq_some_iff_mem {l : List (κ × α)} (h : (l.map Prod.fst).Nodup) (k : κ) (a : α) :
    l.lookup k = some a ↔ (k, a) ∈ l := by
  induction l with
  | nil => simp
  | cons e r ih =>
    obtain ⟨k', b⟩ := e
    rw [List.map_cons, List.nodup_cons] at h
    by_cases hk : k = k'
    · subst hk
      have hr : ∀ x, (k, x) ∉ r := fun x hx => h.1 (List.mem_map.mpr ⟨_, hx, rfl⟩)
      simp [hr, eq_comm]
    · have hb : (k == k') = false := by simpa using hk
      simp [List.lookup_cons, hb, hk, ih h.2]

theorem mem_entries {d : Dictionary κ α} {k : κ} {a : α} :
    (k, a) ∈ d.entries ↔ d.get? k = some a :=
  (lookup_eq_some_iff_mem d.nodup k a).symm

theorem mem_values {d : Dictionary κ α} {a : α} : a ∈ d.values ↔ ∃ k, d.get? k = some a := by
  simp [values, ← mem_entries]

/-- The size is the length of any list that has each entry once. -/
theorem size_eq_length {d : Dictionary κ α} {l : List (κ × α)} (hl : l.Nodup)
    (h : ∀ k a, (k, a) ∈ l ↔ d.get? k = some a) : d.size = l.length := by
  have hd : d.entries.Nodup := by
    have hkeys : d.entries.Pairwise fun e e' => e.1 ≠ e'.1 := List.pairwise_map.mp d.nodup
    exact hkeys.imp fun hne he => hne (congrArg Prod.fst he)
  refine ((List.perm_ext_iff_of_nodup hd hl).mpr fun e => ?_).length_eq
  obtain ⟨k, a⟩ := e
  rw [h, mem_entries]

end Dictionary

end PathPolicy
