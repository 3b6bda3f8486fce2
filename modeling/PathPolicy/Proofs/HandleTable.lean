import PathPolicy.Proofs.OfferTable
import Mathlib.Data.List.Basic
import Mathlib.Data.List.Nodup

/-!
# Handles through a sequence of calls

A table that issues its own handles is an offer table whose keys are numbered: the handles of a
batch continue where the last batch ended. So no handle is issued twice as long as the counter
does not run over, and what becomes of a handle is decided by its batch and by the calls after it.
Dropping a remote drops those handles whose fingerprint does not come again in their batch.
-/

namespace PathPolicy.HandleTable

/-- A call on a table that issues its own handles. -/
inductive Call
  | replace (r : RemoteAddress) (paths : List PathObject)
  | clear (r : RemoteAddress)
  | removeRemote (r : RemoteAddress)
  | removePath (r : RemoteAddress) (f : Fingerprint)

namespace Call

def paths : Call → List PathObject
  | .replace _ paths => paths
  | _ => []

/-- The call drops the handles of `r`. -/
def Drops (r : RemoteAddress) : Call → Prop
  | .replace r' _ | .clear r' | .removeRemote r' => r' = r
  | .removePath .. => False

/-- What the call changes, with `n` the number of the next handle. -/
def change (n : Nat) : Call → OfferTable.Change PathHandle
  | .replace r paths => .offer r (number (UInt64.ofNat n) paths)
  | .clear r => .clear r
  | .removeRemote r => .forget r
  | .removePath r f => .retract r f

end Call

def apply (t : HandleTable) : Call → HandleTable
  | .replace r paths => (t.issue r paths).2
  | .clear r => t.clear r
  | .removeRemote r => t.removeRemote r
  | .removePath r f => t.removePath r f

def applyAll (t : HandleTable) (cs : List Call) : HandleTable := cs.foldl apply t

def issued : List Call → Nat
  | [] => 0
  | c :: cs => c.paths.length + issued cs

@[simp] lemma issued_append (cs ds : List Call) : issued (cs ++ ds) = issued cs + issued ds := by
  induction cs with
  | nil => simp [issued]
  | cons c cs ih => simp [issued, ih, Nat.add_assoc]

def changes (n : Nat) : List Call → List (OfferTable.Change PathHandle)
  | [] => []
  | c :: cs => c.change n :: changes (n + c.paths.length) cs

/-! ### Numbered batches -/

lemma ofNat_add_one (n : Nat) : UInt64.ofNat n + 1 = UInt64.ofNat (n + 1) := by
  rw [UInt64.ofNat_add]
  rfl

lemma number_append (n : Nat) (ps qs : List PathObject) :
    number (UInt64.ofNat n) (ps ++ qs) =
      number (UInt64.ofNat n) ps ++ number (UInt64.ofNat (n + ps.length)) qs := by
  induction ps generalizing n with
  | nil => rfl
  | cons p ps ih =>
    simp only [List.cons_append, number, ofNat_add_one, ih, List.length_cons]
    rw [Nat.add_assoc n 1, Nat.add_comm 1]

lemma map_fst_number (n : Nat) (ps : List PathObject) :
    (number (UInt64.ofNat n) ps).map Prod.fst =
      (List.range' n ps.length).map fun i => ⟨UInt64.ofNat i⟩ := by
  induction ps generalizing n with
  | nil => rfl
  | cons p ps ih =>
    rw [number, ofNat_add_one, List.map_cons, ih, List.length_cons, List.range'_succ, List.map_cons]

lemma zip_map_fst_number (next : UInt64) (ps : List PathObject) :
    ((number next ps).map Prod.fst).zip ps = number next ps := by
  induction ps generalizing next with
  | nil => rfl
  | cons p ps ih => simp only [number, List.map_cons, List.zip_cons_cons, ih]

/-- A handle belongs to one number only, below the size of the counter. -/
lemma mem_number_iff {n i : Nat} (ps : List PathObject) (hi : i < UInt64.size)
    (hn : n + ps.length ≤ UInt64.size) :
    (⟨UInt64.ofNat i⟩ : PathHandle) ∈ (number (UInt64.ofNat n) ps).map Prod.fst ↔
      n ≤ i ∧ i < n + ps.length := by
  simp only [map_fst_number, List.mem_map, List.mem_range'_1, PathHandle.mk.injEq]
  constructor
  · rintro ⟨j, hj, he⟩
    have := congrArg UInt64.toNat he
    rw [UInt64.toNat_ofNat_of_lt' (by omega), UInt64.toNat_ofNat_of_lt' hi] at this
    omega
  · exact fun h => ⟨i, h, rfl⟩

/-! ### Calls as changes -/

lemma next_apply (t : HandleTable) (c : Call) :
    (t.apply c).next = t.next + c.paths.length.toUInt64 := by
  cases c <;> simp [apply, issue, clear, removeRemote, removePath, Call.paths]

lemma apply_toOfferTable {t : HandleTable} {n : Nat} (h : t.next = UInt64.ofNat n) (c : Call) :
    (t.apply c).toOfferTable = t.toOfferTable.apply (c.change n) := by
  cases c <;> simp [apply, issue, clear, removeRemote, removePath, Call.change, OfferTable.apply, h]

lemma applyAll_eq {t : HandleTable} {n : Nat} (h : t.next = UInt64.ofNat n) (cs : List Call) :
    (t.applyAll cs).toOfferTable = t.toOfferTable.applyAll (changes n cs) ∧
      (t.applyAll cs).next = UInt64.ofNat (n + issued cs) := by
  induction cs generalizing t n with
  | nil => simpa [applyAll, changes, issued] using h
  | cons c cs ih =>
    have hnext : (t.apply c).next = UInt64.ofNat (n + c.paths.length) := by
      rw [next_apply, h, UInt64.ofNat_add]
    obtain ⟨h1, h2⟩ := ih hnext
    simp only [applyAll, List.foldl_cons] at h1 h2 ⊢
    refine ⟨?_, ?_⟩
    · rw [h1, apply_toOfferTable h, changes, OfferTable.applyAll_cons]
    · rw [h2]
      simp [issued, Nat.add_assoc]

lemma changes_append (n : Nat) (cs ds : List Call) :
    changes n (cs ++ ds) = changes n cs ++ changes (n + issued cs) ds := by
  induction cs generalizing n with
  | nil => rfl
  | cons c cs ih => simp [changes, ih, issued, Nat.add_assoc]

lemma keys_change (n : Nat) (c : Call) :
    (c.change n).keys = (number (UInt64.ofNat n) c.paths).map Prod.fst := by
  cases c <;> rfl

lemma not_mem_keys_of_mem_changes {n i : Nat} {cs : List Call} (hi : i < n)
    (hn : n + issued cs ≤ UInt64.size) :
    ∀ c ∈ changes n cs, (⟨UInt64.ofNat i⟩ : PathHandle) ∉ c.keys := by
  induction cs generalizing n with
  | nil => simp [changes]
  | cons c cs ih =>
    rw [issued] at *
    intro d hd
    rcases List.mem_cons.mp hd with rfl | hd
    · rw [keys_change, mem_number_iff _ (by omega) (by omega)]
      omega
    · exact ih (by omega) (by omega) d hd

lemma not_mem_keys_of_lt {n i : Nat} {cs : List Call} (hi : n + issued cs ≤ i)
    (hs : i < UInt64.size) :
    ∀ c ∈ changes n cs, (⟨UInt64.ofNat i⟩ : PathHandle) ∉ c.keys := by
  induction cs generalizing n with
  | nil => simp [changes]
  | cons c cs ih =>
    rw [issued] at *
    intro d hd
    rcases List.mem_cons.mp hd with rfl | hd
    · rw [keys_change, mem_number_iff _ hs (by omega)]
      omega
    · exact ih (by omega) d hd

lemma ends_change_of_drops {c : Call} {r : RemoteAddress} (h : c.Drops r) (n : Nat)
    (f : Fingerprint) : (c.change n).Ends r f := by
  cases c <;> first | exact h | exact h.elim

lemma repeats_number {f : Fingerprint} (n : Nat) (ps : List PathObject) :
    OfferTable.Repeats f (number (UInt64.ofNat n) ps) ↔ f ∈ ps.map PathObject.fingerprint := by
  induction ps generalizing n with
  | nil => simp [OfferTable.Repeats, number]
  | cons p ps ih =>
    have := ih (n + 1)
    simp only [OfferTable.Repeats] at this
    simp only [OfferTable.Repeats, number, ofNat_add_one, List.mem_cons, List.map_cons,
      exists_eq_or_imp, this, eq_comm (a := f)]

lemma number_eq_append_cons (n : Nat) {paths : List PathObject} {i : Nat} {o : PathObject}
    (ho : paths[i]? = some o) :
    number (UInt64.ofNat n) paths = number (UInt64.ofNat n) (paths.take i) ++
      (⟨UInt64.ofNat (n + i)⟩, o) :: number (UInt64.ofNat (n + i + 1)) (paths.drop (i + 1)) := by
  obtain ⟨hi, rfl⟩ := List.getElem?_eq_some_iff.mp ho
  conv_lhs => rw [← List.take_append_drop i paths, List.drop_eq_getElem_cons hi]
  rw [number_append, List.length_take, Nat.min_eq_left (Nat.le_of_lt hi), number, ofNat_add_one]

lemma handle_eq_of_getElem?_issue {t : HandleTable} {n : Nat} (hn : t.next = UInt64.ofNat n)
    {r : RemoteAddress} {paths : List PathObject} {i : Nat} {h : PathHandle}
    (hh : (t.issue r paths).1[i]? = some h) : h = ⟨UInt64.ofNat (n + i)⟩ := by
  simp only [issue, hn, map_fst_number, List.getElem?_map] at hh
  obtain ⟨j, hj, rfl⟩ := Option.map_eq_some_iff.mp hh
  obtain ⟨hi, rfl⟩ := List.getElem?_eq_some_iff.mp hj
  simp

/-- What a handle stands for once it is issued, and whether the offer has it. -/
lemma offer_number {t : OfferTable PathHandle} {n i : Nat} (r : RemoteAddress)
    {paths : List PathObject} {o : PathObject} (ho : paths[i]? = some o)
    (hn : n + paths.length ≤ UInt64.size) (hl : t.Loose ⟨UInt64.ofNat (n + i)⟩) :
    let t' := t.apply (.offer r (number (UInt64.ofNat n) paths))
    let again := o.fingerprint ∈ (paths.drop (i + 1)).map PathObject.fingerprint
    (¬again → t'.Holds ⟨UInt64.ofNat (n + i)⟩ r o) ∧
      (again → t'.Loose ⟨UInt64.ofNat (n + i)⟩ ∧ t'.resolve ⟨UInt64.ofNat (n + i)⟩ = some o) := by
  have hi : i < paths.length := (List.getElem?_eq_some_iff.mp ho).1
  have hfront : (⟨UInt64.ofNat (n + i)⟩ : PathHandle) ∉
      (number (UInt64.ofNat n) (paths.take i)).map Prod.fst := by
    rw [mem_number_iff _ (by omega) (by rw [List.length_take]; omega), List.length_take]
    omega
  have hrest : (⟨UInt64.ofNat (n + i)⟩ : PathHandle) ∉
      (number (UInt64.ofNat (n + i + 1)) (paths.drop (i + 1))).map Prod.fst := by
    rw [mem_number_iff _ (by omega) (by rw [List.length_drop]; omega)]
    omega
  have h := hl.offer r o hfront hrest
  rwa [← number_eq_append_cons n ho, repeats_number] at h

/-- Once its remote is dropped, a handle stands for nothing, unless its fingerprint came again in
its batch: then it still stands for the path it was issued for. -/
theorem resolve_after_drop (before after : List Call) (r : RemoteAddress)
    (paths : List PathObject) (drop : Call) (hd : drop.Drops r)
    (hn : issued (before ++ .replace r paths :: after ++ [drop]) < UInt64.size)
    {i : Nat} {o : PathObject} {h : PathHandle} (ho : paths[i]? = some o)
    (hh : ((({} : HandleTable).applyAll before).issue r paths).1[i]? = some h) :
    (({} : HandleTable).applyAll (before ++ .replace r paths :: after ++ [drop])).resolve h =
      if o.fingerprint ∈ (paths.drop (i + 1)).map PathObject.fingerprint then some o else none := by
  have hi : i < paths.length := (List.getElem?_eq_some_iff.mp ho).1
  obtain ⟨ht, hnext⟩ := applyAll_eq (t := {}) (n := 1) rfl before
  obtain ⟨hall, -⟩ := applyAll_eq (t := {}) (n := 1) rfl (before ++ .replace r paths :: after ++ [drop])
  have hsize : 1 + issued before + paths.length + issued (after ++ [drop]) ≤ UInt64.size := by
    simp only [issued_append, issued, Call.paths] at hn ⊢
    omega
  obtain rfl := handle_eq_of_getElem?_issue hnext hh
  generalize hm : 1 + issued before = n at *
  have hloose : (({} : HandleTable).applyAll before).Loose ⟨UInt64.ofNat (n + i)⟩ := by
    rw [ht]
    exact ((OfferTable.loose_empty _).applyAll (not_mem_keys_of_lt (by omega) (by omega))).1
  have hlater : ∀ c ∈ changes (n + paths.length) (after ++ [drop]),
      (⟨UInt64.ofNat (n + i)⟩ : PathHandle) ∉ c.keys :=
    not_mem_keys_of_mem_changes (by omega) hsize
  have hrun : changes 1 (before ++ .replace r paths :: after ++ [drop]) = changes 1 before ++
      .offer r (number (UInt64.ofNat n) paths) :: changes (n + paths.length) (after ++ [drop]) := by
    rw [List.append_assoc, changes_append, hm]
    rfl
  rw [hall, hrun, OfferTable.applyAll_append, OfferTable.applyAll_cons, ← ht]
  obtain ⟨honce, hagain⟩ := offer_number r ho (by omega) hloose
  split_ifs with hrep
  · obtain ⟨hl, hr⟩ := hagain hrep
    exact (hl.applyAll hlater).2.trans hr
  · refine ((honce hrep).applyAll hlater).2
      ⟨drop.change (n + paths.length + issued after), ?_, ends_change_of_drops hd _ _⟩
    rw [changes_append]
    exact List.mem_append_right _ List.mem_cons_self

/-- Two paths with one fingerprint: after clearing the remote the first handle still stands. -/
theorem resolve_repeated_after_clear :
    let path (label : Nat) : PathObject := ⟨some label, ⟨⟨"1-ff00:0:110"⟩, ⟨"1-ff00:0:112"⟩, ⟨"a"⟩, .epoch, none⟩⟩
    let calls : List Call := [.replace ⟨"r"⟩ [path 0, path 1], .clear ⟨"r"⟩]
    issued calls < UInt64.size ∧
      ((({} : HandleTable)).issue ⟨"r"⟩ [path 0, path 1]).1 = [⟨1⟩, ⟨2⟩] ∧
      (({} : HandleTable).applyAll calls).resolve ⟨1⟩ = some (path 0) := by
  intro path calls
  refine ⟨by decide, rfl, ?_⟩
  exact resolve_after_drop [] [] ⟨"r"⟩ [path 0, path 1] (.clear ⟨"r"⟩) rfl (by decide) (i := 0)
    (o := path 0) (h := ⟨1⟩) rfl rfl

end PathPolicy.HandleTable
