import PathPolicy.Proofs.Frame
import PathPolicy.Proofs.SelectorMessage
import PathPolicy.Remote.TracerMessageCodec

/-!
# Codecs of whole types

A codec is lossless if it reads back every value it can write, and total if it can write every
value. Both pass from the parts of a record to the record, so for most records they are found by
composition. What is left open by totality is what has an instant in it.
-/

namespace PathPolicy

/-! ### Enumerations -/

/-- Every value has its own position, which can be written in four bytes. -/
class LawfulEnumeration (α : Type) [Enumeration α] : Prop where
  nodup : (Enumeration.all : List α).Nodup
  mem_all : ∀ a : α, a ∈ (Enumeration.all : List α)
  length_lt : (Enumeration.all : List α).length < UInt32.size

namespace Enumeration

variable {α : Type} [Enumeration α] [LawfulEnumeration α] [DecidableEq α]

lemma position_lt (a : α) : position a < (all : List α).length :=
  List.idxOf_lt_length_iff.mpr (LawfulEnumeration.mem_all a)

lemma ofPosition?_position (a : α) : ofPosition? (position a) = some a := by
  rw [ofPosition?, List.getElem?_eq_getElem (position_lt a)]
  exact congrArg some (List.getElem_idxOf (position_lt a))

lemma position_of_ofPosition? {n : Nat} {a : α} (h : ofPosition? n = some a) : position a = n := by
  obtain ⟨hn, rfl⟩ := List.getElem?_eq_some_iff.mp h
  exact LawfulEnumeration.nodup.idxOf_getElem n hn

lemma toNat_position (a : α) : (position a).toUInt32.toNat = position a :=
  UInt32.toNat_ofNat_of_lt' (Nat.lt_trans (position_lt a) LawfulEnumeration.length_lt)

end Enumeration

instance : LawfulEnumeration LinkType :=
  ⟨by decide, fun a => by cases a <;> decide, by decide⟩

instance : LawfulEnumeration MethodErrorKind :=
  ⟨by decide, fun a => by cases a <;> decide, by decide⟩

namespace Telemetry

instance : LawfulEnumeration Perspective :=
  ⟨by decide, fun a => by cases a <;> decide, by decide⟩

instance : LawfulEnumeration PacketType :=
  ⟨by decide, fun a => by cases a <;> decide, by decide⟩

instance : LawfulEnumeration PacketDropReason :=
  ⟨by decide, fun a => by cases a <;> decide, by decide⟩

instance : LawfulEnumeration PacketLossReason :=
  ⟨by decide, fun a => by cases a <;> decide, by decide⟩

instance : LawfulEnumeration EncryptionLevel :=
  ⟨by decide, fun a => by cases a <;> decide, by decide⟩

instance : LawfulEnumeration CongestionState :=
  ⟨by decide, fun a => by cases a <;> decide, by decide⟩

instance : LawfulEnumeration TimerType :=
  ⟨by decide, fun a => by cases a <;> decide, by decide⟩

lemma EventKind.mem_all (k : EventKind) : k ∈ EventKind.all := by
  cases k <;> decide

end Telemetry

namespace Codec

variable {α β : Type} {a : Codec α} {b : Codec β} {c : Codec α}

/-! ### What can be written -/

def Encodes (c : Codec α) (v : α) : Prop := ∃ bs, c.encode v = .ok bs

lemma Takes.encodes {v : α} {n : Nat} (h : c.Takes v n) : c.Encodes v :=
  h.imp fun _ hbs => hbs.1

@[simp] lemma encodes_pair {p : α × β} :
    (pair a b).Encodes p ↔ a.Encodes p.1 ∧ b.Encodes p.2 := by
  constructor
  · rintro ⟨bs, h⟩
    obtain ⟨xs, hx, ys, hy, -⟩ := encode_pair_eq_ok.mp h
    exact ⟨⟨xs, hx⟩, ys, hy⟩
  · rintro ⟨⟨xs, hx⟩, ys, hy⟩
    exact ⟨xs ++ ys, encode_pair_eq_ok.mpr ⟨xs, hx, ys, hy, rfl⟩⟩

@[simp] lemma encodes_map {f : α → β} {g : β → α} {v : β} :
    (c.map f g).Encodes v ↔ c.Encodes (g v) := Iff.rfl

@[simp] lemma encodes_option {o : Option α} :
    c.option.Encodes o ↔ ∀ v ∈ o, c.Encodes v := by
  cases o with
  | none => exact ⟨fun _ => by simp, fun _ => ⟨[0], rfl⟩⟩
  | some v =>
    simp only [Option.mem_some_iff, forall_eq']
    constructor
    · rintro ⟨bs, h⟩
      obtain ⟨xs, hx, -⟩ := encode_option_some_eq_ok.mp h
      exact ⟨xs, hx⟩
    · rintro ⟨xs, hx⟩
      exact ⟨1 :: xs, encode_option_some_eq_ok.mpr ⟨xs, hx, rfl⟩⟩

@[simp] lemma encodes_list {vs : List α} : c.list.Encodes vs ↔ ∀ v ∈ vs, c.Encodes v := by
  have hmany : (∃ ys, encodeMany c vs = .ok ys) ↔ ∀ v ∈ vs, c.Encodes v := by
    induction vs with
    | nil => exact ⟨fun _ => by simp, fun _ => ⟨[], rfl⟩⟩
    | cons v vs ih =>
      simp only [List.forall_mem_cons, ← ih]
      constructor
      · rintro ⟨ys, h⟩
        obtain ⟨xs, hx, ys, hy, -⟩ := encodeMany_cons_eq_ok.mp h
        exact ⟨⟨xs, hx⟩, ys, hy⟩
      · rintro ⟨⟨xs, hx⟩, ys, hy⟩
        exact ⟨xs ++ ys, encodeMany_cons_eq_ok.mpr ⟨xs, hx, ys, hy, rfl⟩⟩
  rw [← hmany]
  constructor
  · rintro ⟨bs, h⟩
    obtain ⟨ys, hy, -⟩ := encode_list_eq_ok.mp h
    exact ⟨ys, hy⟩
  · rintro ⟨ys, hy⟩
    exact ⟨_, encode_list_eq_ok.mpr ⟨ys, hy, rfl⟩⟩

@[simp] lemma encodes_instant {t : Instant} : instant.Encodes t ↔ t.isBeforeEpoch = false := by
  constructor
  · rintro ⟨bs, h⟩
    by_contra ht
    simp only [instant, Bool.not_eq_false] at h ht
    rw [if_pos ht] at h
    cases h
  · exact fun ht => (takes_instant ht).encodes

/-! ### Total codecs -/

class Total (c : Codec α) : Prop where
  encodes : ∀ v, c.Encodes v

@[simp] lemma encodes_of_total [Total c] (v : α) : c.Encodes v := Total.encodes v

instance (width : Nat) (toNat : α → Nat) (ofNat : Nat → α) : Total (number width toNat ofNat) :=
  ⟨fun _ => ⟨_, rfl⟩⟩

instance : Total u8 := inferInstanceAs (Total (number ..))

instance : Total u16 := inferInstanceAs (Total (number ..))

instance : Total u32 := inferInstanceAs (Total (number ..))

instance : Total u64 := inferInstanceAs (Total (number ..))

instance : Total i64 := inferInstanceAs (Total (number ..))

instance : Total unit := ⟨fun _ => ⟨_, rfl⟩⟩

instance : Total boolean := ⟨fun _ => ⟨_, rfl⟩⟩

instance : Total bytes := ⟨fun v => (takes_bytes v).encodes⟩

instance : Total text := ⟨fun v => (takes_text v).encodes⟩

instance : Total span := ⟨fun v => (takes_span v).encodes⟩

instance : Total resetToken := ⟨fun _ => ⟨_, rfl⟩⟩

instance [Enumeration α] [DecidableEq α] : Total (enumeration : Codec α) :=
  ⟨fun v => (takes_enumeration v).encodes⟩

instance [Total a] [Total b] : Total (pair a b) := ⟨fun _ => by simp⟩

instance [Total c] : Total c.option := ⟨fun _ => by simp⟩

instance [Total c] : Total c.list := ⟨fun _ => by simp⟩

instance (f : α → β) (g : β → α) [Total c] : Total (c.map f g) := ⟨fun _ => by simp⟩

/-! ### Lossless codecs -/

class Lossless (c : Codec α) : Prop where
  readsBack : ∀ v, c.ReadsBack v

instance : Lossless u8 := ⟨readsBack_u8⟩

instance : Lossless u16 := ⟨readsBack_u16⟩

instance : Lossless u32 := ⟨readsBack_u32⟩

instance : Lossless u64 := ⟨readsBack_u64⟩

instance : Lossless i64 :=
  ⟨fun v => readsBack_number v.toUInt64.toNat_lt (by simp)⟩

instance : Lossless unit := ⟨readsBack_unit⟩

instance : Lossless boolean where
  readsBack v := by
    rintro bs rest ⟨⟩ -
    rw [List.singleton_append]
    simp only [boolean, decode_u8_cons, ok_bind]
    cases v <;> rfl

instance : Lossless bytes := ⟨readsBack_bytes⟩

instance : Lossless text := ⟨readsBack_text⟩

instance : Lossless span := ⟨readsBack_span⟩

instance : Lossless instant := ⟨readsBack_instant⟩

instance : Lossless resetToken where
  readsBack v := by
    rintro bs rest ⟨⟩ -
    have htake := takeExact_append v.bytes rest
    rw [v.length_eq] at htake
    simp only [resetToken, htake, Telemetry.ResetToken.ofList?, dif_pos v.length_eq]

instance [Enumeration α] [DecidableEq α] [LawfulEnumeration α] :
    Lossless (enumeration : Codec α) where
  readsBack v := readsBack_enumeration v <| by
    rw [Enumeration.toNat_position, Enumeration.ofPosition?_position]

instance [Lossless a] [Lossless b] : Lossless (pair a b) :=
  ⟨fun p => ReadsBack.pair (Lossless.readsBack p.1) (Lossless.readsBack p.2)⟩

instance [Lossless c] : Lossless c.option :=
  ⟨fun _ => ReadsBack.option fun v _ => Lossless.readsBack v⟩

lemma Lossless.list [Lossless c] (hw : c.NeverEmpty) : Lossless c.list :=
  ⟨fun _ => ReadsBack.list hw fun v _ => Lossless.readsBack v⟩

lemma Lossless.map [Lossless c] {f : α → β} {g : β → α} (h : ∀ v, f (g v) = v) :
    Lossless (c.map f g) :=
  ⟨fun v => ReadsBack.map (Lossless.readsBack (g v)) (h v)⟩

/-! ### Records -/

open Telemetry Remote

instance : Total connectionId := inferInstanceAs (Total (Codec.map ..))

instance : Lossless connectionId := Lossless.map fun _ => rfl

instance : Total versionNumber := inferInstanceAs (Total (Codec.map ..))

instance : Lossless versionNumber := Lossless.map fun _ => rfl

instance : Lossless (list versionNumber) :=
  Lossless.list (neverEmpty_of_takes (fun v => Takes.map (takes_number 4 _ _ v.number))
    fun _ => Nat.succ_pos _)

instance : Total packetHeader := inferInstanceAs (Total (Codec.map ..))

instance : Lossless packetHeader := Lossless.map fun _ => rfl

instance : Total extendedHeader := inferInstanceAs (Total (Codec.map ..))

instance : Lossless extendedHeader := Lossless.map fun _ => rfl

instance : Total ackRange := inferInstanceAs (Total (Codec.map ..))

instance : Lossless ackRange := Lossless.map fun _ => rfl

instance : Lossless (list ackRange) :=
  Lossless.list (neverEmpty_of_takes
    (fun r => Takes.map (Takes.pair (takes_number 8 _ _ r.smallest) (takes_number 8 _ _ r.largest)))
    fun _ => Nat.succ_pos _)

instance : Total ackFrame := inferInstanceAs (Total (Codec.map ..))

instance : Lossless ackFrame := Lossless.map fun _ => rfl

instance : Total rttStats := inferInstanceAs (Total (Codec.map ..))

instance : Lossless rttStats := Lossless.map fun _ => rfl

instance : Total transportParameters := inferInstanceAs (Total (Codec.map ..))

instance : Lossless transportParameters := Lossless.map fun _ => rfl

instance : Total tracingId := inferInstanceAs (Total (Codec.map ..))

instance : Lossless tracingId := Lossless.map fun _ => rfl

instance : Lossless tracerMessage := Lossless.map fun _ => rfl

end Codec

end PathPolicy
