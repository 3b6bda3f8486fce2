import PathPolicy.Proofs.RetainedTables
import Mathlib.Algebra.Group.End
import Mathlib.Data.List.Nodup
import Mathlib.Logic.Equiv.Basic

/-!
# The names of tables

The identities of tables are names. What a call makes of the tables that are retained depends on
which of their names are equal and on nothing else, so states that differ in these names stay so, as
long as new tables are told apart from those retained. A table can stand for a path though it is not
retained, and its name can be given to a new one that then takes its place. So two states that
differ in the names of retained tables differ in names only just when the same is left over in both.
-/

namespace PathPolicy

section

variable {κ : Type} [DecidableEq κ]

/-- Distinct keys are taken to others by a permutation that does with the rest what `ρ` does. -/
lemma exists_perm_map (ρ : Equiv.Perm κ) {as bs : List κ} (ha : as.Nodup) (hb : bs.Nodup)
    (hl : as.length = bs.length) :
    ∃ σ : Equiv.Perm κ, as.map σ = bs ∧ ∀ k, k ∉ as → ρ k ∉ bs → σ k = ρ k := by
  induction as generalizing bs with
  | nil =>
    obtain rfl := List.eq_nil_of_length_eq_zero hl.symm
    exact ⟨ρ, rfl, fun _ _ _ => rfl⟩
  | cons a as ih =>
    cases bs with
    | nil => cases hl
    | cons b bs =>
      obtain ⟨ha', has⟩ := List.nodup_cons.mp ha
      obtain ⟨hb', hbs⟩ := List.nodup_cons.mp hb
      obtain ⟨σ, hσ, hrest⟩ := ih has hbs (Nat.succ.inj hl)
      -- What `σ` does to the tails stays, as they are met by neither end of the swap.
      refine ⟨Equiv.swap (σ a) b * σ, ?_, fun k hk hk' => ?_⟩
      · have htail : as.map (Equiv.swap (σ a) b * σ) = as.map σ := by
          refine List.map_congr_left fun k hk => Equiv.swap_apply_of_ne_of_ne ?_ ?_
          · exact fun he => ha' (σ.injective he ▸ hk)
          · rintro he
            exact hb' (he ▸ hσ ▸ List.mem_map_of_mem hk)
        rw [List.map_cons, htail, hσ, Equiv.Perm.mul_apply, Equiv.swap_apply_left]
      · simp only [List.mem_cons, not_or] at hk hk'
        have hσk := hrest k hk.2 hk'.2
        rw [Equiv.Perm.mul_apply, hσk]
        refine Equiv.swap_apply_of_ne_of_ne (fun he => hk.1 (σ.injective ?_)) hk'.1
        rw [hσk, he]

lemma lookup_map {α β : Type} (ρ : Equiv.Perm κ) (g : α → β) (l : List (κ × α)) (k : κ) :
    (l.map (Prod.map ρ g)).lookup (ρ k) = (l.lookup k).map g := by
  induction l with
  | nil => rfl
  | cons e l ih =>
    obtain ⟨k', a⟩ := e
    by_cases hk : k = k'
    · simp [hk]
    · have hb : (k == k') = false := by simpa using hk
      have hb' : (ρ k == ρ k') = false := by simpa using hk
      simp [List.lookup_cons, hb, hb', ih]

/-- A list with a given image up to order can be put in an order in which it has that image. -/
lemma exists_perm_of_perm_map {α β : Type} {f : α → β} {bs : List β} {as : List α}
    (h : bs.Perm (as.map f)) : ∃ l : List α, l.Perm as ∧ l.map f = bs := by
  have hpaired : List.Forall₂ (fun b a => b = f a) (as.map f) as :=
    List.forall₂_map_left_iff.mpr (List.forall₂_same.mpr fun _ _ => rfl)
  obtain ⟨l, hl, hperm⟩ := List.perm_comp_forall₂ h hpaired
  refine ⟨l, hperm, ?_⟩
  clear h hpaired hperm
  induction hl with
  | nil => rfl
  | cons hb _ ih => rw [List.map_cons, ih, hb]

/-- Dictionaries with the same values have the same entries under other keys. -/
lemma exists_perm_entries {α : Type} (ρ : Equiv.Perm κ) {d d' : Dictionary κ α}
    (h : d.values.Perm d'.values) :
    ∃ σ : Equiv.Perm κ, d'.entries.Perm (d.entries.map (Prod.map σ id)) ∧
      ∀ k, k ∉ d.keys → ρ k ∉ d'.keys → σ k = ρ k := by
  obtain ⟨l, hl, hvalues⟩ := exists_perm_of_perm_map h
  have hkeys : (l.map Prod.fst).Perm d'.keys := hl.map Prod.fst
  have hlength : d.keys.length = (l.map Prod.fst).length := by
    have hlength := congrArg List.length hvalues
    simpa [Dictionary.keys, Dictionary.values] using hlength.symm
  obtain ⟨σ, hσ, hrest⟩ := exists_perm_map ρ d.nodup (hkeys.nodup_iff.mpr d'.nodup) hlength
  refine ⟨σ, ?_, fun k hk hk' => hrest k hk fun hm => hk' (hkeys.mem_iff.mp hm)⟩
  have hfst : l.map Prod.fst = (d.entries.map (Prod.map σ id)).map Prod.fst := by
    rw [← hσ, List.map_map, List.map_map]
    rfl
  have hsnd : l.map Prod.snd = (d.entries.map (Prod.map σ id)).map Prod.snd := by
    rw [hvalues, List.map_map]
    rfl
  rw [← (List.zip_of_prod hfst hsnd).trans (List.zip_of_prod rfl rfl).symm]
  exact hl.symm

end

namespace Script.SelectorState

variable {s s' : SelectorState} {ρ σ : Equiv.Perm TableIdentity} {as bs : List TableIdentity}

/-! ### Tables that are retained -/

/-- The table is retained for `r`. -/
def RetainsFor (s : SelectorState) (r : RemoteAddress) (k : TableIdentity) : Prop :=
  ∃ ks ∈ s.retained.get? r, k ∈ ks

/-- The table is retained for some remote. -/
def Retains (s : SelectorState) (k : TableIdentity) : Prop := ∃ ks ∈ s.retained.values, k ∈ ks

instance (s : SelectorState) (k : TableIdentity) : Decidable (s.Retains k) :=
  inferInstanceAs (Decidable (∃ ks ∈ s.retained.values, k ∈ ks))

/-- What is on offer for a remote is retained for it. -/
def Grounded (s : SelectorState) : Prop := ∀ r f k, s.offers.keyOf r f = some k → s.RetainsFor r k

lemma retains_iff (s : SelectorState) (k : TableIdentity) :
    s.Retains k ↔ ∃ r, s.RetainsFor r k := by
  simp only [Retains, RetainsFor, Dictionary.mem_values, Option.mem_def]
  constructor
  · rintro ⟨ks, ⟨r, hr⟩, hk⟩
    exact ⟨r, ks, hr, hk⟩
  · rintro ⟨r, ks, hr, hk⟩
    exact ⟨ks, ⟨r, hr⟩, hk⟩

lemma Apart.not_retains (h : s.Apart as) {k : TableIdentity} (hk : k ∈ as) : ¬s.Retains k :=
  fun ⟨ks, hks, hm⟩ => h.2 k hk ks hks hm

lemma retainsFor_populate (s : SelectorState) (r r' : RemoteAddress) (ks : List TableIdentity)
    (paths : List PathObject) (k : TableIdentity) :
    (s.populate r ks paths).RetainsFor r' k ↔ if r' = r then k ∈ ks else s.RetainsFor r' k := by
  unfold RetainsFor populate
  rw [Dictionary.get?_insert]
  split_ifs <;> simp

lemma retainsFor_release (s : SelectorState) (r r' : RemoteAddress) (k : TableIdentity) :
    (s.release r).RetainsFor r' k ↔ r' ≠ r ∧ s.RetainsFor r' k := by
  unfold RetainsFor release
  rw [Dictionary.get?_erase]
  split_ifs with hr <;> simp [hr]

lemma grounded_empty : ({} : SelectorState).Grounded :=
  fun r f k hk => absurd hk (OfferTable.loose_empty k r f)

lemma Grounded.settle (h : s.Grounded) (call : SelectorCall) (ks : List TableIdentity) :
    (s.settle call ks).Grounded := by
  have hpopulate (r : RemoteAddress) (paths : List PathObject) :
      (s.populate r ks paths).Grounded := by
    intro r' f k hk
    rw [retainsFor_populate]
    rw [populate, OfferTable.keyOf_replaceWith] at hk
    split_ifs at hk ⊢
    · obtain ⟨front, o, rest, hbatch, -⟩ := OfferTable.lookup_fingerprint_eq_some_iff.mp hk
      exact (List.of_mem_zip (hbatch ▸ List.mem_append_right front List.mem_cons_self)).1
    · exact h r' f k hk
  cases call with
  | start r paths => exact hpopulate r paths
  | refresh r paths => exact hpopulate r paths
  | close r =>
    intro r' f k hk
    rw [SelectorState.settle, retainsFor_release]
    rw [SelectorState.settle, release, OfferTable.keyOf_removeRemote] at hk
    split_ifs at hk with hr
    exact ⟨hr, h r' f k hk⟩
  | path r => exact h
  | pathDown r f i => exact h

/-! ### Other names for the tables that are retained -/

/-- What `s` has of retained tables, `s'` has of them under the names that `ρ` gives. -/
structure LiveRenamed (ρ : Equiv.Perm TableIdentity) (s s' : SelectorState) : Prop where
  lifecycle : s'.lifecycle = s.lifecycle
  retained : ∀ r, s'.retained.get? r = (s.retained.get? r).map (·.map ρ)
  known : ∀ r, s'.offers.containsRemote r = s.offers.containsRemote r
  keyOf : ∀ r f, s'.offers.keyOf r f = (s.offers.keyOf r f).map ρ
  stands : ∀ k, s.Retains k → s'.offers.resolve (ρ k) = s.offers.resolve k

lemma liveRenamed_one (s : SelectorState) : s.LiveRenamed 1 s where
  lifecycle := rfl
  retained r := by simp
  known _ := rfl
  keyOf r f := by simp
  stands _ _ := rfl

namespace LiveRenamed

lemma retainsFor_iff (h : s.LiveRenamed ρ s') (r : RemoteAddress) (k : TableIdentity) :
    s'.RetainsFor r (ρ k) ↔ s.RetainsFor r k := by
  unfold RetainsFor
  rw [h.retained]
  simp

lemma retains_iff (h : s.LiveRenamed ρ s') (k : TableIdentity) :
    s'.Retains (ρ k) ↔ s.Retains k := by
  simp only [SelectorState.retains_iff, h.retainsFor_iff]

/-- Names that are not retained do not matter. -/
lemma congr (h : s.LiveRenamed ρ s') (hg : s.Grounded) (hσ : ∀ k, s.Retains k → σ k = ρ k) :
    s.LiveRenamed σ s' where
  lifecycle := h.lifecycle
  retained r := by
    rw [h.retained]
    refine Option.map_congr fun ks hks => List.map_congr_left fun k hk => ?_
    exact (hσ k ((s.retains_iff k).mpr ⟨r, ks, hks, hk⟩)).symm
  known := h.known
  keyOf r f := by
    rw [h.keyOf]
    refine Option.map_congr fun k hk => ?_
    exact (hσ k ((s.retains_iff k).mpr ⟨r, hg r f k hk⟩)).symm
  stands k hk := by rw [hσ k hk, h.stands k hk]

lemma resolve_clear (h : s.LiveRenamed ρ s') (r : RemoteAddress) {k : TableIdentity}
    (hk : s.Retains k) : (s'.offers.clear r).resolve (ρ k) = (s.offers.clear r).resolve k := by
  apply Option.ext
  intro o
  simp [OfferTable.resolve_clear, h.keyOf, h.stands k hk]

lemma populate (h : s.LiveRenamed ρ s') (r : RemoteAddress) {paths : List PathObject}
    (hl : as.length = paths.length) :
    (s.populate r as paths).LiveRenamed ρ (s'.populate r (as.map ρ) paths) where
  lifecycle := congrArg (·.markPopulated r) h.lifecycle
  retained r' := by
    simp only [SelectorState.populate, Dictionary.get?_insert, h.retained]
    split_ifs <;> rfl
  known r' := by
    have hknown (t : OfferTable TableIdentity) (batch : List (TableIdentity × PathObject)) :=
      OfferTable.containsRemote_apply t (.offer r batch) r'
    simp only [OfferTable.apply] at hknown
    rw [Bool.eq_iff_iff, SelectorState.populate, SelectorState.populate, hknown, hknown, h.known]
    simp
  keyOf r' f := by
    have hlookup := lookup_map 1 ρ ((as.zip paths).map fun e => (e.2.fingerprint, e.1)).reverse f
    rw [List.map_reverse, List.map_map] at hlookup
    simp only [SelectorState.populate, OfferTable.keyOf_replaceWith, List.zip_map_left,
      List.map_map, h.keyOf]
    split_ifs
    · exact hlookup
    · rfl
  stands k hk := by
    simp only [SelectorState.populate, OfferTable.resolve_replaceWith, List.zip_map_left,
      ← List.map_reverse, lookup_map, Option.map_id_fun, id]
    cases hlookup : (as.zip paths).reverse.lookup k with
    | some o => rfl
    | none =>
      -- The name is not new, so it was retained before.
      have hnew : k ∉ as := by
        intro hm
        have hfst : (as.zip paths).map Prod.fst = as := List.map_fst_zip (Nat.le_of_eq hl)
        rw [← hfst] at hm
        obtain ⟨e, he, rfl⟩ := List.mem_map.mp hm
        have hne := List.lookup_eq_none_iff.mp hlookup e (List.mem_reverse.mpr he)
        simp at hne
      obtain ⟨r', hr'⟩ := (SelectorState.retains_iff _ k).mp hk
      rw [retainsFor_populate] at hr'
      split_ifs at hr'
      · exact absurd hr' hnew
      · exact h.resolve_clear r ((s.retains_iff k).mpr ⟨r', hr'⟩)

lemma release (h : s.LiveRenamed ρ s') (r : RemoteAddress) :
    (s.release r).LiveRenamed ρ (s'.release r) where
  lifecycle := congrArg (·.markClosed r) h.lifecycle
  retained r' := by
    simp only [SelectorState.release, Dictionary.get?_erase, h.retained]
    split_ifs <;> rfl
  known r' := by
    have hknown (t : OfferTable TableIdentity) := OfferTable.containsRemote_apply t (.forget r) r'
    simp only [OfferTable.apply] at hknown
    rw [Bool.eq_iff_iff, SelectorState.release, SelectorState.release, hknown, hknown, h.known]
  keyOf r' f := by
    simp only [SelectorState.release, OfferTable.keyOf_removeRemote, h.keyOf]
    split_ifs <;> rfl
  stands k hk := by
    obtain ⟨r', hr'⟩ := (SelectorState.retains_iff _ k).mp hk
    rw [retainsFor_release] at hr'
    exact h.resolve_clear r ((s.retains_iff k).mpr ⟨r', hr'.2⟩)

/-- A call does the same under other names. -/
lemma settle (h : s.LiveRenamed ρ s') (call : SelectorCall)
    (hl : as.length = call.paths.length) :
    (s.settle call as).LiveRenamed ρ (s'.settle call (as.map ρ)) := by
  cases call with
  | start r paths => exact h.populate r hl
  | refresh r paths => exact h.populate r hl
  | close r => exact h.release r
  | path r => exact h
  | pathDown r f i => exact h

/-- New tables can have any names that are not retained: what was retained keeps its names. -/
lemma exists_settle (h : s.LiveRenamed ρ s') (hg : s.Grounded) (call : SelectorCall)
    (ha : s.Apart as) (hb : s'.Apart bs) (hla : as.length = call.paths.length)
    (hlb : bs.length = call.paths.length) :
    ∃ σ : Equiv.Perm TableIdentity, (∀ k, s.Retains k → σ k = ρ k) ∧ as.map σ = bs ∧
      (s.settle call as).LiveRenamed σ (s'.settle call bs) := by
  obtain ⟨σ, hmap, hrest⟩ := exists_perm_map ρ ha.1 hb.1 (hla.trans hlb.symm)
  have hσ (k : TableIdentity) (hk : s.Retains k) : σ k = ρ k :=
    hrest k (fun hm => ha.not_retains hm hk)
      fun hm => hb.not_retains hm ((h.retains_iff k).mpr hk)
  refine ⟨σ, hσ, hmap, ?_⟩
  rw [← hmap]
  exact (h.congr hg hσ).settle call hla

end LiveRenamed

/-! ### What is left over -/

/-- The tables that stand for paths and are not retained. -/
def leftover (s : SelectorState) : Dictionary TableIdentity PathObject :=
  s.offers.objects.restrict fun k => ¬s.Retains k

lemma get?_leftover (s : SelectorState) (k : TableIdentity) (o : PathObject) :
    s.leftover.get? k = some o ↔ ¬s.Retains k ∧ s.offers.resolve k = some o := by
  rw [leftover, Dictionary.get?_restrict]
  by_cases hk : s.Retains k <;> simp [hk, OfferTable.resolve]

lemma not_mem_keys_leftover {k : TableIdentity} (hk : s.Retains k) : k ∉ s.leftover.keys := by
  intro hm
  obtain ⟨⟨k, o⟩, he, rfl⟩ := List.mem_map.mp hm
  rw [Dictionary.mem_entries, get?_leftover] at he
  exact he.1 hk

/-- The states differ in the names of tables only. -/
structure Renamed (ρ : Equiv.Perm TableIdentity) (s s' : SelectorState) : Prop
    extends LiveRenamed ρ s s' where
  standsAll : ∀ k, s'.offers.resolve (ρ k) = s.offers.resolve k

/-- Retained tables are under other names, and so are those left over. -/
lemma LiveRenamed.renamed_iff (h : s.LiveRenamed ρ s') :
    s.Renamed ρ s' ↔ s'.leftover.entries.Perm (s.leftover.entries.map (Prod.map ρ id)) := by
  have hmem (k : TableIdentity) (o : PathObject) :
      (ρ k, o) ∈ s.leftover.entries.map (Prod.map ρ id) ↔ (k, o) ∈ s.leftover.entries := by
    simp [Prod.ext_iff]
  have hnodup (d : Dictionary TableIdentity PathObject) : d.entries.Nodup := .of_map _ d.nodup
  have hnodup' : (s.leftover.entries.map (Prod.map ρ id)).Nodup :=
    (hnodup _).map (ρ.injective.prodMap Function.injective_id)
  rw [List.perm_ext_iff_of_nodup (hnodup _) hnodup']
  constructor
  · rintro hall ⟨k, o⟩
    obtain ⟨k, rfl⟩ := ρ.surjective k
    rw [hmem, Dictionary.mem_entries, Dictionary.mem_entries, get?_leftover, get?_leftover,
      h.retains_iff, hall.standsAll]
  · intro hall
    refine ⟨h, fun k => ?_⟩
    by_cases hk : s.Retains k
    · exact h.stands k hk
    · apply Option.ext
      intro o
      have hiff := hall (ρ k, o)
      rw [hmem, Dictionary.mem_entries, Dictionary.mem_entries, get?_leftover, get?_leftover,
        h.retains_iff] at hiff
      simpa [hk] using hiff

/-- States that differ in the names of retained tables differ in names only just when tables left
over stand for the same paths in both. -/
theorem LiveRenamed.exists_renamed_iff (h : s.LiveRenamed ρ s') (hg : s.Grounded) :
    (∃ σ, s.Renamed σ s') ↔ s.leftover.values.Perm s'.leftover.values := by
  constructor
  · rintro ⟨σ, hσ⟩
    have hperm := (hσ.toLiveRenamed.renamed_iff.mp hσ).map Prod.snd
    rw [List.map_map] at hperm
    exact hperm.symm
  · intro hvalues
    obtain ⟨σ, hperm, hrest⟩ := exists_perm_entries ρ hvalues
    have hσ (k : TableIdentity) (hk : s.Retains k) : σ k = ρ k :=
      hrest k (not_mem_keys_leftover hk) (not_mem_keys_leftover ((h.retains_iff k).mpr hk))
    exact ⟨σ, (h.congr hg hσ).renamed_iff.mpr hperm⟩

end Script.SelectorState

end PathPolicy
