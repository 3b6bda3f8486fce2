import PathPolicy.Proofs.Codec
import PathPolicy.Remote.SelectorMessage
import Mathlib.Tactic.Common

/-!
# Selector messages on the wire

A message to a selector is read back as it was written. Only an instant before the epoch keeps one
from being written, and how long it gets does not depend on the handles in it.
-/

namespace PathPolicy.Codec

open Remote

/-! ### Names and numbers -/

lemma readsBack_remoteAddress (r : RemoteAddress) : remoteAddress.ReadsBack r :=
  ReadsBack.map (readsBack_text r.text) rfl

lemma readsBack_fingerprint (f : Fingerprint) : fingerprint.ReadsBack f :=
  ReadsBack.map (readsBack_text f.text) rfl

lemma readsBack_network (n : Network) : network.ReadsBack n :=
  ReadsBack.map (readsBack_text n.text) rfl

lemma readsBack_pathHandle (h : PathHandle) : pathHandle.ReadsBack h :=
  ReadsBack.map (readsBack_u64 h.number) rfl

lemma readsBack_interface (i : Interface) : interface.ReadsBack i :=
  ReadsBack.map (ReadsBack.pair (readsBack_network i.network) (readsBack_u64 i.number)) rfl

lemma readsBack_location (l : Location) : location.ReadsBack l :=
  ReadsBack.map (ReadsBack.pair (readsBack_u32 l.latitude)
    (ReadsBack.pair (readsBack_u32 l.longitude) (readsBack_text l.address))) rfl

lemma readsBack_linkType (t : LinkType) : (enumeration : Codec LinkType).ReadsBack t :=
  readsBack_enumeration t (by cases t <;> rfl)

/-! ### Times -/

lemma secondsAndNanos_append (tooLong : DecodeFault) (d : Span) (rest : List UInt8) :
    secondsAndNanos tooLong
        (littleEndian 8 d.seconds.toNat ++ (littleEndian 4 d.nanos.val.toUInt32.toNat ++ rest)) =
      .ok (d, rest) := by
  have hlt : d.nanos.val < nanosPerSecond := d.nanos.isLt
  have hn : d.nanos.val.toUInt32.toNat = d.nanos.val :=
    UInt32.toNat_ofNat_of_lt' (Nat.lt_trans hlt (by decide))
  have htotal : d.seconds.toNat + d.nanos.val / nanosPerSecond = d.seconds.toNat := by
    rw [Nat.div_eq_of_lt hlt, Nat.add_zero]
  simp only [secondsAndNanos, decode_u64, decode_u32, ok_bind]
  simp only [hn, htotal, Nat.mod_eq_of_lt hlt, Nat.toUInt64, UInt64.ofNat_toNat]
  exact if_pos d.seconds.toNat_lt

lemma encode_span (d : Span) : span.encode d =
    .ok (littleEndian 8 d.seconds.toNat ++ littleEndian 4 d.nanos.val.toUInt32.toNat) := rfl

lemma readsBack_span (d : Span) : span.ReadsBack d := by
  intro bs rest h _
  obtain rfl := Except.ok.inj ((encode_span d).symm.trans h)
  rw [List.append_assoc]
  exact secondsAndNanos_append _ d rest

lemma toUInt64_lt_of_not_isBeforeEpoch {t : Instant} (h : t.isBeforeEpoch = false) :
    t.seconds.toUInt64 < 0x8000000000000000 := by
  have hnonneg : 0 ≤ t.seconds.toBitVec.toInt := by
    have hle := of_decide_eq_false h
    rw [Int64.lt_iff_toInt_lt] at hle
    exact Int.not_lt.mp hle
  have hlt := BitVec.toInt_pos_iff.mp hnonneg
  rw [UInt64.lt_iff_toNat_lt]
  exact Nat.lt_of_mul_lt_mul_left (a := 2) hlt

lemma readsBack_instant (t : Instant) : instant.ReadsBack t := by
  intro bs rest h _
  by_cases ht : t.isBeforeEpoch
  · simp only [instant, ht, if_true] at h
    cases h
  · rw [Bool.not_eq_true] at ht
    simp only [instant, ht, Bool.false_eq_true, if_false] at h
    obtain rfl := Except.ok.inj ((encode_span _).symm.trans h)
    rw [List.append_assoc]
    have hread := secondsAndNanos_append .instantTooLate ⟨t.seconds.toUInt64, t.nanos⟩ rest
    simp only [instant, hread, ok_bind, toUInt64_lt_of_not_isBeforeEpoch ht, if_true,
      Int64.toInt64_toUInt64]
    rfl

lemma takes_span (d : Span) : span.Takes d 12 :=
  ⟨_, encode_span d, by rw [List.length_append, length_littleEndian, length_littleEndian]⟩

lemma takes_instant {t : Instant} (h : t.isBeforeEpoch = false) : instant.Takes t 12 := by
  obtain ⟨bs, hb, hl⟩ := takes_span ⟨t.seconds.toUInt64, t.nanos⟩
  refine ⟨bs, ?_, hl⟩
  simp only [instant, h, Bool.false_eq_true, if_false, hb]

/-! ### Sizes of the elements of lists -/

lemma takes_interface (i : Interface) :
    interface.Takes i (8 + i.network.text.utf8ByteSize + 8) :=
  Takes.map (Takes.pair (takes_text i.network.text) (takes_number 8 _ _ i.number))

lemma takes_location (l : Location) :
    location.Takes l (4 + (4 + (8 + l.address.utf8ByteSize))) :=
  Takes.map (Takes.pair (takes_number 4 _ _ l.latitude)
    (Takes.pair (takes_number 4 _ _ l.longitude) (takes_text l.address)))

lemma takes_pathHandle (h : PathHandle) : pathHandle.Takes h 8 :=
  Takes.map (takes_number 8 _ _ h.number)

lemma neverEmpty_pathRecord : pathRecord.NeverEmpty := by
  intro r bs h
  obtain ⟨xs, hx, ys, -, rfl⟩ := encode_pair_eq_ok.mp h
  rw [List.length_append, (takes_pathHandle r.handle).length_eq hx]
  omega

/-! ### Paths -/

lemma readsBack_pathMetadata (m : PathMetadata) : pathMetadata.ReadsBack m := by
  have hinterfaces : (list interface).ReadsBack m.interfaces :=
    ReadsBack.list (neverEmpty_of_takes takes_interface fun _ => Nat.succ_pos _)
      fun i _ => readsBack_interface i
  have hlatency : (list span).ReadsBack m.latency :=
    ReadsBack.list (neverEmpty_of_takes takes_span fun _ => Nat.succ_pos _)
      fun d _ => readsBack_span d
  have hbandwidth : (list u64).ReadsBack m.bandwidth :=
    ReadsBack.list (neverEmpty_of_takes (takes_number 8 _ _) fun _ => Nat.succ_pos _)
      fun n _ => readsBack_u64 n
  have hlinkTypes : (list enumeration).ReadsBack m.linkTypes :=
    ReadsBack.list (neverEmpty_of_takes takes_enumeration fun _ => Nat.succ_pos _)
      fun t _ => readsBack_linkType t
  have hhops : (list u32).ReadsBack m.internalHops :=
    ReadsBack.list (neverEmpty_of_takes (takes_number 4 _ _) fun _ => Nat.succ_pos _)
      fun n _ => readsBack_u32 n
  have hnotes : (list text).ReadsBack m.notes :=
    ReadsBack.list (neverEmpty_of_takes takes_text fun _ => Nat.add_pos_left (by decide) _)
      fun s _ => readsBack_text s
  have hlocations : (list location).ReadsBack m.locations :=
    ReadsBack.list (neverEmpty_of_takes takes_location fun _ => Nat.add_pos_left (by decide) _)
      fun l _ => readsBack_location l
  exact ReadsBack.map (ReadsBack.pair (readsBack_u16 m.mtu) <| ReadsBack.pair hinterfaces <|
    ReadsBack.pair hlatency <| ReadsBack.pair hbandwidth <| ReadsBack.pair hlinkTypes <|
    ReadsBack.pair hhops <| ReadsBack.pair hnotes hlocations) rfl

lemma readsBack_path (p : Path) : path.ReadsBack p :=
  ReadsBack.map (ReadsBack.pair (readsBack_network p.source) <|
    ReadsBack.pair (readsBack_network p.destination) <|
    ReadsBack.pair (readsBack_fingerprint p.fingerprint) <|
    ReadsBack.pair (readsBack_instant p.expiry) <|
    ReadsBack.option fun m _ => readsBack_pathMetadata m) rfl

lemma exists_takes_pathMetadata (m : PathMetadata) : ∃ n, pathMetadata.Takes m n := by
  have hnumber (width : Nat) {α : Type} (f : α → Nat) (g : Nat → α) (as : List α) :
      ∃ n, (list (number width f g)).Takes as n :=
    exists_takes_list fun a _ => ⟨_, takes_number width f g a⟩
  obtain ⟨_, hinterfaces⟩ := exists_takes_list fun i (_ : i ∈ m.interfaces) => ⟨_, takes_interface i⟩
  obtain ⟨_, hlatency⟩ := exists_takes_list fun d (_ : d ∈ m.latency) => ⟨_, takes_span d⟩
  obtain ⟨_, hbandwidth⟩ := hnumber 8 UInt64.toNat UInt64.ofNat m.bandwidth
  obtain ⟨_, hlinkTypes⟩ :=
    exists_takes_list fun t (_ : t ∈ m.linkTypes) => ⟨_, takes_enumeration t⟩
  obtain ⟨_, hhops⟩ := hnumber 4 UInt32.toNat UInt32.ofNat m.internalHops
  obtain ⟨_, hnotes⟩ := exists_takes_list fun s (_ : s ∈ m.notes) => ⟨_, takes_text s⟩
  obtain ⟨_, hlocations⟩ := exists_takes_list fun l (_ : l ∈ m.locations) => ⟨_, takes_location l⟩
  exact ⟨_, Takes.map (Takes.pair (takes_number 2 _ _ m.mtu) <| Takes.pair hinterfaces <|
    Takes.pair hlatency <| Takes.pair hbandwidth <| Takes.pair hlinkTypes <|
    Takes.pair hhops <| Takes.pair hnotes hlocations)⟩

/-- A path can be written if it does not expire before the epoch. -/
lemma exists_takes_path {p : Path} (h : p.expiry.isBeforeEpoch = false) : ∃ n, path.Takes p n := by
  have hmetadata : ∃ n, (option pathMetadata).Takes p.metadata n := by
    cases p.metadata with
    | none => exact ⟨_, takes_option_none _⟩
    | some m =>
      obtain ⟨n, hn⟩ := exists_takes_pathMetadata m
      exact ⟨n + 1, hn.option_some⟩
  obtain ⟨_, hm⟩ := hmetadata
  exact ⟨_, Takes.map (Takes.pair (takes_text p.source.text) <|
    Takes.pair (takes_text p.destination.text) <|
    Takes.pair (takes_text p.fingerprint.text) <| Takes.pair (takes_instant h) hm)⟩

/-! ### Messages -/

lemma readsBack_pathRecord (r : PathRecord) : pathRecord.ReadsBack r :=
  ReadsBack.map (ReadsBack.pair (readsBack_pathHandle r.handle) (readsBack_path r.path)) rfl

theorem readsBack_selectorMessage (m : SelectorMessage) : selectorMessage.ReadsBack m := by
  have hpaths (records : List PathRecord) : (list pathRecord).ReadsBack records :=
    ReadsBack.list neverEmpty_pathRecord fun r _ => readsBack_pathRecord r
  exact ReadsBack.map (ReadsBack.pair (ReadsBack.option fun r _ => readsBack_remoteAddress r) <|
    ReadsBack.pair (ReadsBack.option fun records _ => hpaths records) <|
    ReadsBack.pair (ReadsBack.option fun f _ => readsBack_fingerprint f) <|
    ReadsBack.option fun i _ => readsBack_interface i) rfl

lemma readsBack_pathReply (r : PathReply) : pathReply.ReadsBack r :=
  ReadsBack.map (ReadsBack.option fun h _ => readsBack_pathHandle h) rfl

lemma takes_pathReply (r : PathReply) : ∃ n ≤ 9, pathReply.Takes r n := by
  rcases r with ⟨_ | h⟩
  · exact ⟨1, by decide, Takes.map (takes_option_none _)⟩
  · exact ⟨9, Nat.le_refl _, Takes.map (takes_pathHandle h).option_some⟩

end PathPolicy.Codec
