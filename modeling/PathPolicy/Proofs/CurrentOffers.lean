import PathPolicy.Proofs.OfferedKeys

/-!
# The table of current offers

If no batch repeats a fingerprint, the two maps of a table are one relation read in two ways: which
key stands for which path object on which remote's current offer. A key leads to the object it has
there, a fingerprint to the key it has there, and to nothing else. So a table that issues its own
handles holds, for each remote, what is left of the paths it was given last.
-/

namespace PathPolicy

namespace OfferTable

variable {κ : Type}

/-- The change offers no fingerprint twice. -/
def Change.Distinct (c : Change κ) : Prop := (c.batch.map fun e => e.2.fingerprint).Nodup

/-- What is left on offer for `r`. -/
def onOffer (r : RemoteAddress) (cs : List (Change κ)) : List (κ × PathObject) :=
  (latest r cs).getD []

lemma mem_onOffer_iff {r : RemoteAddress} {cs : List (Change κ)} {k : κ} {o : PathObject} :
    (k, o) ∈ onOffer r cs ↔ Current cs r k o := by
  unfold onOffer Current
  cases latest r cs <;> simp

lemma onOffer_append_singleton (cs : List (Change κ)) (c : Change κ) (r : RemoteAddress) :
    onOffer r (cs ++ [c]) = match c with
      | .offer r' batch => if r' = r then batch else onOffer r cs
      | .clear r' | .forget r' => if r' = r then [] else onOffer r cs
      | .retract r' f =>
        if r' = r then (onOffer r cs).filter fun e => e.2.fingerprint ≠ f else onOffer r cs := by
  unfold onOffer
  rw [latest_append_singleton]
  cases c with
  | retract r' f =>
    by_cases hr : r' = r
    · cases latest r cs <;> simp [hr]
    · simp [hr]
  | _ => dsimp only; split_ifs <;> rfl

/-- What tells the entries of every batch apart tells apart those left on offer. -/
lemma nodup_map_onOffer {α : Type} (g : κ × PathObject → α) {cs : List (Change κ)}
    (h : ∀ c ∈ cs, (c.batch.map g).Nodup) (r : RemoteAddress) :
    ((onOffer r cs).map g).Nodup := by
  induction cs using List.reverseRecOn with
  | nil => simp [onOffer, latest]
  | append_singleton cs c ih =>
    have hcs := ih fun d hd => h d (List.mem_append_left _ hd)
    have hc : (c.batch.map g).Nodup := h c (by simp)
    rw [onOffer_append_singleton]
    cases c with
    | offer r' batch =>
      dsimp only
      split_ifs
      · exact hc
      · exact hcs
    | retract r' f =>
      dsimp only
      split_ifs
      · exact hcs.sublist (List.filter_sublist.map _)
      · exact hcs
    | _ =>
      dsimp only
      split_ifs
      · exact List.nodup_nil
      · exact hcs

lemma nodup_onOffer {cs : List (Change κ)} (h : ∀ c ∈ cs, c.Distinct) (r : RemoteAddress) :
    ((onOffer r cs).map fun e => e.2.fingerprint).Nodup :=
  nodup_map_onOffer _ h r

/-- No key is twice on an offer that was made with fresh keys. -/
lemma AllFresh.nodup_keys {cs : List (Change κ)} (h : AllFresh cs) (r : RemoteAddress) :
    ((onOffer r cs).map Prod.fst).Nodup := by
  refine nodup_map_onOffer Prod.fst (fun c hc => ?_) r
  obtain ⟨before, after, hcs⟩ := List.append_of_mem hc
  exact (h before c after hcs).1

/-- Keys that are offered once each are fresh in every offer. -/
lemma allFresh_of_nodup {cs : List (Change κ)} (h : (cs.flatMap Change.keys).Nodup) :
    AllFresh cs := by
  rintro before c after rfl
  rw [List.flatMap_append, List.flatMap_cons, List.nodup_append] at h
  obtain ⟨-, hlater, hapart⟩ := h
  refine ⟨(List.nodup_append.mp hlater).1, fun k hk r o hcur => ?_⟩
  obtain ⟨front, rest, hb⟩ : ∃ front rest, .offer r (front ++ (k, o) :: rest) ∈ before := by
    obtain ⟨before', front, rest, after', rfl, -⟩ := (current_iff before r k o).mp hcur
    exact ⟨front, rest, by simp⟩
  have hbefore : k ∈ before.flatMap Change.keys :=
    List.mem_flatMap.mpr ⟨_, hb, by simp [Change.keys, Change.batch]⟩
  exact hapart k hbefore k (List.mem_append_left _ hk) rfl

lemma not_leftover {cs : List (Change κ)} (h : ∀ c ∈ cs, c.Distinct) (k : κ) (o : PathObject) :
    ¬Leftover cs k o := by
  rintro ⟨before, r, front, rest, after, rfl, ⟨e, he, hf⟩, -⟩
  have hd : (Change.offer r (front ++ (k, o) :: rest)).Distinct := h _ (by simp)
  rw [Change.Distinct, Change.batch, List.map_append, List.map_cons, List.nodup_append] at hd
  exact (List.nodup_cons.mp hd.2.1).1 (List.mem_map.mpr ⟨e, he, hf⟩)

/-! ### Changes on other remotes -/

/-- The remote that the change is about. -/
def Change.remote : Change κ → RemoteAddress
  | .offer r _ | .clear r | .forget r | .retract r _ => r

lemma Change.Ends.remote_eq {c : Change κ} {r : RemoteAddress} {f : Fingerprint}
    (h : c.Ends r f) : r = c.remote := by
  cases c with
  | retract r' f' => exact h.1.symm
  | _ => exact h.symm

/-- A key that was put on offer for one remote is on no other remote's offer. -/
lemma remote_eq_of_current {cs : List (Change κ)} (hn : (cs.flatMap Change.keys).Nodup)
    {c : Change κ} (hc : c ∈ cs) {k : κ} (hk : k ∈ c.keys) {r : RemoteAddress} {o : PathObject}
    (ho : Current cs r k o) : r = c.remote := by
  obtain ⟨before, front, rest, after, hcs, -⟩ := (current_iff cs r k o).mp ho
  obtain ⟨before', after', hcs'⟩ := List.append_of_mem hc
  obtain ⟨-, rfl, -⟩ := split_unique hn hcs hcs' (by simp [Change.keys, Change.batch]) hk
  rfl

/-! ### What the keys lead to -/

lemma Change.mem_batch_iff {c : Change κ} {r : RemoteAddress} {f : Fingerprint} (h : c.Ends r f)
    {e : κ × PathObject} : e ∈ c.batch ↔ ∃ batch, c = .offer r batch ∧ e ∈ batch := by
  cases c with
  | offer r' batch =>
    obtain rfl : r' = r := h
    simp [Change.batch]
  | _ => simp [Change.batch]

/-- In a batch without repetition, a fingerprint leads to the one entry that has it. -/
lemma Change.Distinct.lookup_eq_some_iff {c : Change κ} (h : c.Distinct) {f : Fingerprint} {k : κ} :
    (c.batch.map fun e => (e.2.fingerprint, e.1)).reverse.lookup f = some k ↔
      ∃ o, (k, o) ∈ c.batch ∧ o.fingerprint = f := by
  have hkeys : ((c.batch.map fun e => (e.2.fingerprint, e.1)).reverse.map Prod.fst).Nodup := by
    rw [List.map_reverse, List.nodup_reverse, List.map_map]
    exact h
  rw [Dictionary.lookup_eq_some_iff_mem hkeys]
  simp [and_comm]

variable [DecidableEq κ]

/-- A fingerprint leads to the key of the path on offer that has it. -/
lemma keyOf_eq_some_iff {cs : List (Change κ)} (h : ∀ c ∈ cs, c.Distinct) (r : RemoteAddress)
    (f : Fingerprint) (k : κ) :
    (({} : OfferTable κ).applyAll cs).keyOf r f = some k ↔
      ∃ o, (k, o) ∈ onOffer r cs ∧ o.fingerprint = f := by
  simp only [mem_onOffer_iff]
  induction cs using List.reverseRecOn with
  | nil => simp [keyOf, offer, Current, latest]
  | append_singleton cs c ih =>
    have hcs := ih fun d hd => h d (List.mem_append_left _ hd)
    have hc : c.Distinct := h c (by simp)
    simp only [applyAll_append, applyAll_cons, applyAll_nil, keyOf_apply, current_append_singleton]
    split_ifs with he
    · rw [hc.lookup_eq_some_iff]
      refine exists_congr fun o => and_congr_left fun hf => ?_
      rw [Change.mem_batch_iff he, hf]
      simp [he]
    · rw [hcs]
      refine exists_congr fun o => and_congr_left fun hf => ?_
      have hno : ¬∃ batch, c = .offer r batch ∧ (k, o) ∈ batch := by
        rintro ⟨batch, rfl, -⟩
        exact he rfl
      rw [hf]
      simp [he, hno]

/-- A key stands for the object it has on some current offer, and for nothing else. -/
lemma AllFresh.resolve_iff {cs : List (Change κ)} (hf : AllFresh cs) (h : ∀ c ∈ cs, c.Distinct)
    (k : κ) (o : PathObject) :
    (({} : OfferTable κ).applyAll cs).resolve k = some o ↔ ∃ r, (k, o) ∈ onOffer r cs := by
  simp only [mem_onOffer_iff]
  rw [resolve_eq_some_iff hf, or_iff_left (not_leftover h k o)]

lemma resolve_iff_mem_onOffer {cs : List (Change κ)} (h : ∀ c ∈ cs, c.Distinct)
    (hn : (cs.flatMap Change.keys).Nodup) (k : κ) (o : PathObject) :
    (({} : OfferTable κ).applyAll cs).resolve k = some o ↔ ∃ r, (k, o) ∈ onOffer r cs :=
  (allFresh_of_nodup hn).resolve_iff h k o

lemma count_applyAll {cs : List (Change κ)} (h : ∀ c ∈ cs, c.Distinct) (r : RemoteAddress) :
    (({} : OfferTable κ).applyAll cs).count r = (onOffer r cs).length := by
  have hkeys := nodup_onOffer h r
  have hnodup : ((onOffer r cs).map fun e => (e.2.fingerprint, e.1)).Nodup :=
    .of_map Prod.fst (by rwa [List.map_map])
  rw [count, Dictionary.size_eq_length hnodup, List.length_map]
  intro f k
  have hkey := keyOf_eq_some_iff h r f k
  rw [keyOf] at hkey
  rw [hkey]
  simp [and_comm]

lemma get?_offers_apply {c : Change κ} {r : RemoteAddress} (hr : r ≠ c.remote)
    (t : OfferTable κ) : (t.apply c).offers.get? r = t.offers.get? r := by
  cases c with
  | offer r' batch => exact (Dictionary.get?_insert ..).trans (if_neg hr)
  | clear r' => exact (Dictionary.get?_modify ..).trans (if_neg hr)
  | forget r' => exact (Dictionary.get?_erase ..).trans (if_neg hr)
  | retract r' f =>
    simp only [apply, removePath]
    split
    · rfl
    · exact (Dictionary.get?_modify ..).trans (if_neg hr)

/-- A remote is known once it has an offer, and no more once it is forgotten. -/
lemma containsRemote_apply (t : OfferTable κ) (c : Change κ) (r : RemoteAddress) :
    (t.apply c).containsRemote r ↔
      (∃ batch, c = .offer r batch) ∨ c ≠ .forget r ∧ t.containsRemote r := by
  simp only [containsRemote, Dictionary.contains]
  by_cases hr : r = c.remote
  · subst hr
    cases c with
    | offer r' batch => simp [apply, replaceWith, Change.remote]
    | clear r' => simp [apply, clear, Dictionary.get?_modify, Change.remote]
    | forget r' => simp [apply, removeRemote, Change.remote]
    | retract r' f =>
      simp only [apply, removePath, Change.remote]
      split <;> simp [Dictionary.get?_modify]
  · rw [get?_offers_apply hr]
    have hoffer : ¬∃ batch, c = .offer r batch := by
      rintro ⟨batch, rfl⟩
      exact hr rfl
    have hforget : c ≠ .forget r := by
      rintro rfl
      exact hr rfl
    simp [hoffer, hforget]

/-- What a key stands for is not changed on behalf of a remote it was never offered for. -/
lemma resolve_apply_of_ne {cs : List (Change κ)} {c d : Change κ}
    (hn : ((cs ++ [c]).flatMap Change.keys).Nodup) (hd : d ∈ cs) (hr : d.remote ≠ c.remote) {k : κ}
    (hk : k ∈ d.keys) :
    ((({} : OfferTable κ).applyAll cs).apply c).resolve k =
      (({} : OfferTable κ).applyAll cs).resolve k := by
  rw [List.flatMap_append, List.nodup_append] at hn
  obtain ⟨hcs, -, hapart⟩ := hn
  have hfresh : k ∉ c.keys := fun hc =>
    hapart k (List.mem_flatMap.mpr ⟨d, hd, hk⟩) k (by simpa using hc) rfl
  apply Option.ext
  intro o
  rw [resolve_apply_of_not_mem hfresh, and_iff_right]
  intro f r he hkey
  obtain ⟨o', -, ho'⟩ := exists_current_of_keyOf hkey
  exact hr ((remote_eq_of_current hcs hd hk ho').symm.trans he.remote_eq)

end OfferTable

namespace HandleTable

/-- The remote that the call is about. -/
def Call.remote : Call → RemoteAddress
  | .replace r _ | .clear r | .removeRemote r | .removePath r _ => r

lemma remote_change (n : Nat) (c : Call) : (c.change n).remote = c.remote := by
  cases c <;> rfl

/-- The handles that the call answers. -/
def answered (t : HandleTable) : Call → List PathHandle
  | .replace r paths => (t.issue r paths).1
  | _ => []

/-- The calls, each with the handles that it answered. -/
def log (t : HandleTable) : List Call → List (Call × List PathHandle)
  | [] => []
  | c :: cs => (c, t.answered c) :: (t.apply c).log cs

/-- What a call leaves on offer for `r`: a replaced offer has the paths given, each under the handle
answered for it. -/
def offerAfter (r : RemoteAddress) (offer : List (PathHandle × PathObject)) :
    Call × List PathHandle → List (PathHandle × PathObject)
  | (.replace r' paths, handles) => if r' = r then handles.zip paths else offer
  | (.clear r', _) | (.removeRemote r', _) => if r' = r then [] else offer
  | (.removePath r' f, _) =>
    if r' = r then offer.filter fun e => e.2.fingerprint ≠ f else offer

/-- The paths of the last `replace` of `r` that are not cleared, removed with the remote or removed
singly since. A path on offer is one that a handle was issued for: the same path offered anew is
another one. -/
def currentOffer (r : RemoteAddress) (entries : List (Call × List PathHandle)) :
    List (PathHandle × PathObject) :=
  entries.foldl (offerAfter r) []

lemma applyAll_append_singleton (t : HandleTable) (cs : List Call) (c : Call) :
    t.applyAll (cs ++ [c]) = (t.applyAll cs).apply c :=
  List.foldl_append

lemma log_append (t : HandleTable) (cs ds : List Call) :
    t.log (cs ++ ds) = t.log cs ++ (t.applyAll cs).log ds := by
  induction cs generalizing t with
  | nil => rfl
  | cons c cs ih => exact congrArg _ (ih (t.apply c))

lemma currentOffer_append_singleton (r : RemoteAddress) (entries : List (Call × List PathHandle))
    (e : Call × List PathHandle) :
    currentOffer r (entries ++ [e]) = offerAfter r (currentOffer r entries) e := by
  unfold currentOffer
  rw [List.foldl_append, List.foldl_cons, List.foldl_nil]

/-- The offer told by the log is the one left by the changes. -/
lemma currentOffer_log (cs : List Call) (r : RemoteAddress) :
    currentOffer r (({} : HandleTable).log cs) = OfferTable.onOffer r (changes 1 cs) := by
  induction cs using List.reverseRecOn with
  | nil => rfl
  | append_singleton cs c ih =>
    have hnext := (applyAll_eq (t := {}) (n := 1) rfl cs).2
    rw [log_append, changes_append]
    change currentOffer r (_ ++ [(c, ({} : HandleTable).applyAll cs |>.answered c)]) =
      OfferTable.onOffer r (_ ++ [c.change (1 + issued cs)])
    rw [currentOffer_append_singleton, ih, OfferTable.onOffer_append_singleton]
    cases c with
    | replace r' paths =>
      simp only [answered, issue, hnext, offerAfter, Call.change, zip_map_fst_number]
    | _ => rfl

lemma answered_eq {t : HandleTable} {n : Nat} (h : t.next = UInt64.ofNat n) (c : Call) :
    t.answered c = (c.change n).keys := by
  cases c <;>
    simp [answered, issue, h, Call.change, OfferTable.Change.keys, OfferTable.Change.batch]

lemma flatMap_answered {t : HandleTable} {n : Nat} (h : t.next = UInt64.ofNat n) (cs : List Call) :
    (t.log cs).flatMap Prod.snd = (changes n cs).flatMap OfferTable.Change.keys := by
  induction cs generalizing t n with
  | nil => rfl
  | cons c cs ih =>
    have hnext : (t.apply c).next = UInt64.ofNat (n + c.paths.length) := by
      rw [next_apply, h, UInt64.ofNat_add]
    rw [log, List.flatMap_cons, ih hnext, changes, List.flatMap_cons, answered_eq h]

lemma pairwise_keys_changes {n : Nat} {cs : List Call} (h : n + issued cs ≤ UInt64.size) :
    ((changes n cs).flatMap OfferTable.Change.keys).Pairwise (·.number < ·.number) := by
  rw [flatMap_keys_changes, List.pairwise_map]
  refine List.Pairwise.imp_of_mem (fun {i j} hi hj (hij : i < j) => ?_) List.pairwise_lt_range'
  rw [List.mem_range'_1] at hi hj
  rw [UInt64.lt_iff_toNat_lt, UInt64.toNat_ofNat_of_lt' (by omega),
    UInt64.toNat_ofNat_of_lt' (by omega)]
  exact hij

lemma length_answered (t : HandleTable) (c : Call) : (t.answered c).length = c.paths.length := by
  have h : t.next = UInt64.ofNat t.next.toNat := by simp
  rw [answered_eq h, keys_change, map_fst_number, List.length_map, List.length_range']

lemma length_of_mem_log {t : HandleTable} {cs : List Call} {e : Call × List PathHandle}
    (h : e ∈ t.log cs) : e.2.length = e.1.paths.length := by
  induction cs generalizing t with
  | nil => cases h
  | cons c cs ih =>
    rcases List.mem_cons.mp h with rfl | h
    · exact t.length_answered c
    · exact ih h

/-- What the table has about a remote is as it was after a call on another one. -/
lemma get?_offers_apply {c : Call} {r : RemoteAddress} (hr : r ≠ c.remote) (t : HandleTable) :
    (t.apply c).offers.get? r = t.offers.get? r := by
  have hnext : t.next = UInt64.ofNat t.next.toNat := by simp
  rw [apply_toOfferTable hnext]
  exact OfferTable.get?_offers_apply (by rwa [remote_change]) t.toOfferTable

lemma containsRemote_apply (t : HandleTable) (c : Call) (r : RemoteAddress) :
    (t.apply c).containsRemote r ↔
      (∃ paths, c = .replace r paths) ∨ c ≠ .removeRemote r ∧ t.containsRemote r := by
  have hnext : t.next = UInt64.ofNat t.next.toNat := by simp
  rw [apply_toOfferTable hnext, OfferTable.containsRemote_apply]
  cases c <;> simp [Call.change]

/-- A remote is known from when it was replaced until it is removed. -/
lemma containsRemote_applyAll (cs : List Call) (r : RemoteAddress) :
    (({} : HandleTable).applyAll cs).containsRemote r ↔ ∃ before paths after,
      cs = before ++ .replace r paths :: after ∧ .removeRemote r ∉ after := by
  induction cs using List.reverseRecOn with
  | nil => simp [applyAll, OfferTable.containsRemote, Dictionary.contains]
  | append_singleton cs c ih =>
    rw [applyAll_append_singleton, containsRemote_apply, ih]
    constructor
    · rintro (⟨paths, rfl⟩ | ⟨hc, before, paths, after, rfl, hafter⟩)
      · exact ⟨cs, paths, [], rfl, List.not_mem_nil⟩
      · exact ⟨before, paths, after ++ [c], by simp, by simpa using ⟨hafter, Ne.symm hc⟩⟩
    · rintro ⟨before, paths, after, hcs, hafter⟩
      rcases List.eq_nil_or_concat' after with rfl | ⟨after, d, rfl⟩
      · obtain ⟨-, hc⟩ := List.append_inj' hcs rfl
        exact .inl ⟨paths, List.singleton_inj.mp hc⟩
      · rw [← List.cons_append, ← List.append_assoc] at hcs
        obtain ⟨rfl, hc⟩ := List.append_inj' hcs rfl
        obtain rfl := List.singleton_inj.mp hc
        simp only [List.mem_append, List.mem_singleton, not_or] at hafter
        exact .inr ⟨Ne.symm hafter.2, before, paths, after, rfl, hafter.1⟩

lemma map_snd_number (next : UInt64) (ps : List PathObject) :
    (number next ps).map Prod.snd = ps := by
  induction ps generalizing next with
  | nil => rfl
  | cons p ps ih => rw [number, List.map_cons, ih]

lemma batch_change (n : Nat) (c : Call) :
    (c.change n).batch = number (UInt64.ofNat n) c.paths := by
  cases c <;> rfl

lemma distinct_of_mem_changes {cs : List Call}
    (h : ∀ c ∈ cs, (c.paths.map PathObject.fingerprint).Nodup) {n : Nat} :
    ∀ d ∈ changes n cs, d.Distinct := by
  induction cs generalizing n with
  | nil => simp [changes]
  | cons c cs ih =>
    intro d hd
    rcases List.mem_cons.mp hd with rfl | hd
    · have hc := h c List.mem_cons_self
      rw [← map_snd_number (UInt64.ofNat n) c.paths, ← batch_change, List.map_map] at hc
      exact hc
    · exact ih (fun c' hc' => h c' (List.mem_cons_of_mem c hc')) d hd

/-- The handles answered to the calls on `r`. -/
def answeredFor (r : RemoteAddress) (entries : List (Call × List PathHandle)) : List PathHandle :=
  (entries.filter fun e => e.1.remote = r).flatMap Prod.snd

lemma exists_change_of_answeredFor {t : HandleTable} {n : Nat} (hn : t.next = UInt64.ofNat n)
    {cs : List Call} {r : RemoteAddress} {h : PathHandle} (hh : h ∈ answeredFor r (t.log cs)) :
    ∃ d ∈ changes n cs, d.remote = r ∧ h ∈ d.keys := by
  induction cs generalizing t n with
  | nil => simp [answeredFor, log] at hh
  | cons c cs ih =>
    have hnext : (t.apply c).next = UInt64.ofNat (n + c.paths.length) := by
      rw [next_apply, hn, UInt64.ofNat_add]
    obtain ⟨e, he, hm⟩ := List.mem_flatMap.mp hh
    obtain ⟨he, hr⟩ := List.mem_filter.mp he
    rcases List.mem_cons.mp he with rfl | he
    · refine ⟨c.change n, List.mem_cons_self, ?_, answered_eq hn c ▸ hm⟩
      rw [remote_change]
      exact of_decide_eq_true hr
    · have hlater : h ∈ answeredFor r ((t.apply c).log cs) :=
        List.mem_flatMap.mpr ⟨e, List.mem_filter.mpr ⟨he, hr⟩, hm⟩
      obtain ⟨d, hd, hdr⟩ := ih hnext hlater
      exact ⟨d, List.mem_cons_of_mem _ hd, hdr⟩

/-- The tables answer alike about `r` and about the handles that were answered for it. -/
structure Agree (r : RemoteAddress) (handles : List PathHandle) (t t' : HandleTable) : Prop where
  resolve : ∀ h ∈ handles, t'.resolve h = t.resolve h
  keyOf : ∀ f, t'.keyOf r f = t.keyOf r f
  count : t'.count r = t.count r
  containsRemote : t'.containsRemote r = t.containsRemote r

lemma agree_apply {cs : List Call} {c : Call} (hn : issued (cs ++ [c]) < UInt64.size)
    {r : RemoteAddress} (hr : r ≠ c.remote) :
    Agree r (answeredFor r (({} : HandleTable).log cs)) (({} : HandleTable).applyAll cs)
      ((({} : HandleTable).applyAll cs).apply c) := by
  have hoffers := get?_offers_apply hr (({} : HandleTable).applyAll cs)
  refine ⟨fun h hh => ?_, fun f => ?_, ?_, ?_⟩
  · obtain ⟨ht, hnext⟩ := applyAll_eq (t := {}) (n := 1) rfl cs
    obtain ⟨d, hd, rfl, hk⟩ := exists_change_of_answeredFor (t := {}) (n := 1) rfl hh
    have hkeys : ((changes 1 (cs ++ [c])).flatMap OfferTable.Change.keys).Nodup :=
      nodup_keys_changes (by omega)
    rw [changes_append] at hkeys
    rw [apply_toOfferTable hnext, ht]
    exact OfferTable.resolve_apply_of_ne hkeys hd (by rwa [remote_change]) hk
  · rw [OfferTable.keyOf, OfferTable.keyOf, OfferTable.offer, OfferTable.offer, hoffers]
  · rw [OfferTable.count, OfferTable.count, OfferTable.offer, OfferTable.offer, hoffers]
  · rw [OfferTable.containsRemote, OfferTable.containsRemote, Dictionary.contains,
      Dictionary.contains, hoffers]

/-- The table after the calls holds the current offers and nothing else. -/
structure HoldsOffers (cs : List Call) : Prop where
  /-- Handles are answered in increasing order over the whole run. -/
  increasing : ((({} : HandleTable).log cs).flatMap Prod.snd).Pairwise (·.number < ·.number)
  /-- A `replace` answers one handle for each path, in the order of the paths. -/
  one_each : ∀ e ∈ ({} : HandleTable).log cs, e.2.length = e.1.paths.length
  resolve_iff : ∀ h p, (({} : HandleTable).applyAll cs).resolve h = some p ↔
    ∃ r, (h, p) ∈ currentOffer r (({} : HandleTable).log cs)
  keyOf_iff : ∀ r f h, (({} : HandleTable).applyAll cs).keyOf r f = some h ↔
    ∃ p, (h, p) ∈ currentOffer r (({} : HandleTable).log cs) ∧ p.fingerprint = f
  count_eq : ∀ r, (({} : HandleTable).applyAll cs).count r =
    (currentOffer r (({} : HandleTable).log cs)).length
  containsRemote_iff : ∀ r, (({} : HandleTable).applyAll cs).containsRemote r ↔
    ∃ before paths after, cs = before ++ .replace r paths :: after ∧ .removeRemote r ∉ after
  /-- No call changes an answer about another remote. -/
  apart : ∀ before c after, cs = before ++ c :: after → ∀ r, r ≠ c.remote →
    Agree r (answeredFor r (({} : HandleTable).log before)) (({} : HandleTable).applyAll before)
      (({} : HandleTable).applyAll (before ++ [c]))

/-- A table that was never given a fingerprint twice in one call holds the current offers, as long
as its counter does not run over. -/
theorem holdsOffers (cs : List Call)
    (hd : ∀ c ∈ cs, (c.paths.map PathObject.fingerprint).Nodup)
    (hn : issued cs < UInt64.size) : HoldsOffers cs := by
  have hstart : ({} : HandleTable).next = UInt64.ofNat 1 := rfl
  have ht := (applyAll_eq hstart cs).1
  have hdistinct := distinct_of_mem_changes hd (n := 1)
  have hsize : 1 + issued cs ≤ UInt64.size := by omega
  constructor
  case increasing =>
    rw [flatMap_answered hstart]
    exact pairwise_keys_changes hsize
  case one_each => exact fun e he => length_of_mem_log he
  case resolve_iff =>
    intro h p
    simp only [ht, currentOffer_log]
    exact OfferTable.resolve_iff_mem_onOffer hdistinct (nodup_keys_changes hsize) h p
  case keyOf_iff =>
    intro r f h
    rw [ht, currentOffer_log]
    exact OfferTable.keyOf_eq_some_iff hdistinct r f h
  case count_eq =>
    intro r
    rw [ht, currentOffer_log]
    exact OfferTable.count_applyAll hdistinct r
  case containsRemote_iff => exact containsRemote_applyAll cs
  case apart =>
    rintro before c after rfl r hr
    rw [applyAll_append_singleton]
    refine agree_apply ?_ hr
    simp only [issued_append, issued] at hn ⊢
    omega

/-- Two remotes are offered paths, one offer is replaced and one path removed. -/
theorem holdsOffers_of_two_remotes :
    let path (name : String) : PathObject :=
      ⟨some 0, ⟨⟨"1-ff00:0:110"⟩, ⟨"1-ff00:0:112"⟩, ⟨name⟩, .epoch, none⟩⟩
    let calls : List Call := [.replace ⟨"r"⟩ [path "a", path "b"], .replace ⟨"s"⟩ [path "a"],
      .removePath ⟨"r"⟩ ⟨"a"⟩, .replace ⟨"s"⟩ [path "c", path "a"]]
    (∀ c ∈ calls, (c.paths.map PathObject.fingerprint).Nodup) ∧ issued calls < UInt64.size ∧
      HoldsOffers calls := by
  intro path calls
  have hd : ∀ c ∈ calls, (c.paths.map PathObject.fingerprint).Nodup := by decide
  have hn : issued calls < UInt64.size := by decide
  exact ⟨hd, hn, holdsOffers calls hd hn⟩

end HandleTable

end PathPolicy
