import PathPolicy.Codec.Path
import Mathlib.Algebra.Group.Nat.Defs
import Mathlib.Data.List.Forall2
import Mathlib.Tactic.Common

/-!
# Reading back what was written

A codec reads a value back when it decodes every encoding of it, followed by anything, to the value
and what followed. The one condition is that lengths fit their eight bytes. Each way of building a
codec keeps the property, so a record has it by composition.
-/

namespace PathPolicy.Codec

variable {α β : Type}

def ReadsBack (c : Codec α) (a : α) : Prop :=
  ∀ bs rest, c.encode a = .ok bs → bs.length < UInt64.size → c.decode (bs ++ rest) = .ok (a, rest)

/-- The value can be written, and takes up `n` bytes. -/
def Takes (c : Codec α) (a : α) (n : Nat) : Prop := ∃ bs, c.encode a = .ok bs ∧ bs.length = n

/-- Every value that can be written takes up room. -/
def NeverEmpty (c : Codec α) : Prop := ∀ a bs, c.encode a = .ok bs → 0 < bs.length

/-- Both values can be written, and take up equally many bytes. -/
def SameSize (c : Codec α) (a b : α) : Prop := ∃ n, c.Takes a n ∧ c.Takes b n

/-! ### Numbers -/

lemma takeExact_append (front rest : List UInt8) :
    takeExact front.length (front ++ rest) = some (front, rest) := by
  simp [takeExact]

@[simp] lemma length_littleEndian (k n : Nat) : (littleEndian k n).length = k := by
  induction k generalizing n with
  | zero => rfl
  | succ k ih => simp [littleEndian, ih]

lemma littleEndianValue_littleEndian {k n : Nat} (h : n < 256 ^ k) :
    littleEndianValue (littleEndian k n) = n := by
  induction k generalizing n with
  | zero =>
    have : n = 0 := by simpa using h
    simp [littleEndian, littleEndianValue, this]
  | succ k ih =>
    have hdiv : n / 256 < 256 ^ k := by
      rw [Nat.div_lt_iff_lt_mul (by decide), ← Nat.pow_succ]
      exact h
    rw [littleEndian, littleEndianValue, ih hdiv]
    exact Nat.mod_add_div n 256

lemma readsBack_number {width : Nat} {toNat : α → Nat} {ofNat : Nat → α} {a : α}
    (hlt : toNat a < 256 ^ width) (hback : ofNat (toNat a) = a) :
    (number width toNat ofNat).ReadsBack a := by
  rintro bs rest ⟨⟩ -
  have htake := takeExact_append (littleEndian width (toNat a)) rest
  rw [length_littleEndian] at htake
  simp only [number, htake, littleEndianValue_littleEndian hlt, hback]

lemma readsBack_u8 (n : UInt8) : u8.ReadsBack n :=
  readsBack_number n.toNat_lt (by simp)

lemma readsBack_u16 (n : UInt16) : u16.ReadsBack n :=
  readsBack_number n.toNat_lt (by simp)

lemma readsBack_u32 (n : UInt32) : u32.ReadsBack n :=
  readsBack_number n.toNat_lt (by simp)

lemma readsBack_u64 (n : UInt64) : u64.ReadsBack n :=
  readsBack_number n.toNat_lt (by simp)

lemma encode_u32 (n : UInt32) : u32.encode n = .ok (littleEndian 4 n.toNat) := rfl

lemma encode_u64 (n : UInt64) : u64.encode n = .ok (littleEndian 8 n.toNat) := rfl

@[simp] lemma decode_u32 (n : UInt32) (rest : List UInt8) :
    u32.decode (littleEndian 4 n.toNat ++ rest) = .ok (n, rest) :=
  readsBack_u32 n _ rest rfl (by rw [length_littleEndian]; decide)

@[simp] lemma decode_u64 (n : UInt64) (rest : List UInt8) :
    u64.decode (littleEndian 8 n.toNat ++ rest) = .ok (n, rest) :=
  readsBack_u64 n _ rest rfl (by rw [length_littleEndian]; decide)

@[simp] lemma decode_u8_cons (n : UInt8) (rest : List UInt8) :
    u8.decode (n :: rest) = .ok (n, rest) := by
  have hlt : [n].length < UInt64.size := by
    show 1 < UInt64.size
    decide
  simpa using readsBack_u8 n [n] rest (by simp [u8, number, littleEndian]) hlt

/-! ### Ways of building a codec -/

lemma bind_eq_ok {ε : Type} {x : Except ε α} {f : α → Except ε β} {b : β} :
    (x >>= f) = .ok b ↔ ∃ a, x = .ok a ∧ f a = .ok b := by
  cases x with
  | error e => simp [Bind.bind, Except.bind]
  | ok a => simp [Bind.bind, Except.bind]

lemma ok_bind {ε : Type} (a : α) (f : α → Except ε β) : (Except.ok a >>= f) = f a := rfl

lemma encode_pair_eq_ok {a : Codec α} {b : Codec β} {p : α × β} {bs : List UInt8} :
    (pair a b).encode p = .ok bs ↔
      ∃ xs, a.encode p.1 = .ok xs ∧ ∃ ys, b.encode p.2 = .ok ys ∧ xs ++ ys = bs := by
  simp only [pair, bind_eq_ok]
  simp only [pure, Except.pure, Except.ok.injEq]

lemma ReadsBack.pair {a : Codec α} {b : Codec β} {p : α × β} (ha : a.ReadsBack p.1)
    (hb : b.ReadsBack p.2) : (pair a b).ReadsBack p := by
  intro bs rest h hl
  obtain ⟨xs, hx, ys, hy, rfl⟩ := encode_pair_eq_ok.mp h
  rw [List.length_append] at hl
  have hx' := ha xs (ys ++ rest) hx (by omega)
  have hy' := hb ys rest hy (by omega)
  rw [List.append_assoc]
  simp only [Codec.pair, hx', hy', ok_bind]
  rfl

lemma ReadsBack.map {f : α → β} {g : β → α} {c : Codec α} {b : β} (h : c.ReadsBack (g b))
    (hfg : f (g b) = b) : (c.map f g).ReadsBack b := by
  intro bs rest he hl
  have hd := h bs rest he hl
  simp only [Codec.map, hd, ok_bind, hfg]
  rfl

lemma readsBack_unit (a : Unit) : unit.ReadsBack a := by
  rintro bs rest ⟨⟩ -
  rfl

lemma encode_option_some_eq_ok {c : Codec α} {a : α} {bs : List UInt8} :
    c.option.encode (some a) = .ok bs ↔ ∃ xs, c.encode a = .ok xs ∧ 1 :: xs = bs := by
  simp only [option, bind_eq_ok]
  simp only [pure, Except.pure, Except.ok.injEq]

lemma ReadsBack.option {c : Codec α} {o : Option α} (h : ∀ a ∈ o, c.ReadsBack a) :
    c.option.ReadsBack o := by
  intro bs rest he hl
  cases o with
  | none =>
    obtain rfl := Except.ok.inj he
    simp only [Codec.option, List.cons_append, List.nil_append, decode_u8_cons, ok_bind]
    rfl
  | some a =>
    obtain ⟨xs, hx, rfl⟩ := encode_option_some_eq_ok.mp he
    rw [List.length_cons] at hl
    have hd := h a rfl xs rest hx (by omega)
    simp only [Codec.option, List.cons_append, decode_u8_cons, ok_bind, hd]
    rfl

lemma encodeMany_cons_eq_ok {c : Codec α} {a : α} {as : List α} {bs : List UInt8} :
    encodeMany c (a :: as) = .ok bs ↔
      ∃ xs, c.encode a = .ok xs ∧ ∃ ys, encodeMany c as = .ok ys ∧ xs ++ ys = bs := by
  simp only [encodeMany, bind_eq_ok]
  simp only [pure, Except.pure, Except.ok.injEq]

/-- Elements that take up room take up at least as many bytes as there are of them. -/
lemma length_le_of_encodeMany {c : Codec α} (hw : c.NeverEmpty) {as : List α} {bs : List UInt8}
    (h : encodeMany c as = .ok bs) : as.length ≤ bs.length := by
  induction as generalizing bs with
  | nil => simp
  | cons a as ih =>
    obtain ⟨xs, hx, ys, hy, rfl⟩ := encodeMany_cons_eq_ok.mp h
    have hlx := hw a xs hx
    have hly := ih hy
    rw [List.length_append, List.length_cons]
    omega

lemma decodeMany_encodeMany {c : Codec α} {as : List α} {bs : List UInt8}
    (h : encodeMany c as = .ok bs) (hc : ∀ a ∈ as, c.ReadsBack a) (hl : bs.length < UInt64.size)
    (rest : List UInt8) : decodeMany c as.length (bs ++ rest) = .ok (as, rest) := by
  induction as generalizing bs with
  | nil =>
    obtain rfl := Except.ok.inj h
    rfl
  | cons a as ih =>
    obtain ⟨xs, hx, ys, hy, rfl⟩ := encodeMany_cons_eq_ok.mp h
    rw [List.length_append] at hl
    have hx' := hc a List.mem_cons_self xs (ys ++ rest) hx (by omega)
    have hy' := ih hy (fun a ha => hc a (List.mem_cons_of_mem _ ha)) (by omega)
    rw [List.append_assoc, List.length_cons]
    simp only [decodeMany, hx', hy', ok_bind]
    rfl

lemma encode_list_eq_ok {c : Codec α} {as : List α} {bs : List UInt8} :
    c.list.encode as = .ok bs ↔ ∃ ys, encodeMany c as = .ok ys ∧
      littleEndian 8 as.length.toUInt64.toNat ++ ys = bs := by
  simp only [list, encode_u64, ok_bind, bind_eq_ok]
  simp only [pure, Except.pure, Except.ok.injEq]

lemma ReadsBack.list {c : Codec α} (hw : c.NeverEmpty) {as : List α}
    (hc : ∀ a ∈ as, c.ReadsBack a) : c.list.ReadsBack as := by
  intro bs rest h hl
  obtain ⟨ys, hy, rfl⟩ := encode_list_eq_ok.mp h
  rw [List.length_append, length_littleEndian] at hl
  have hlen := length_le_of_encodeMany hw hy
  have hn : as.length.toUInt64.toNat = as.length := UInt64.toNat_ofNat_of_lt' (by omega)
  rw [List.append_assoc]
  simp only [Codec.list, decode_u64, ok_bind]
  rw [hn]
  exact decodeMany_encodeMany hy hc (by omega) rest

lemma readsBack_bytes (a : List UInt8) : bytes.ReadsBack a := by
  intro bs rest h hl
  obtain rfl : littleEndian 8 a.length.toUInt64.toNat ++ a = bs := Except.ok.inj h
  rw [List.length_append, length_littleEndian] at hl
  have hn : a.length.toUInt64.toNat = a.length := UInt64.toNat_ofNat_of_lt' (by omega)
  rw [List.append_assoc]
  simp only [bytes, decode_u64, ok_bind]
  rw [hn, takeExact_append]
  rfl

lemma readsBack_text (s : String) : text.ReadsBack s := by
  intro bs rest h hl
  obtain rfl : littleEndian 8 s.toUTF8.data.toList.length.toUInt64.toNat ++
    s.toUTF8.data.toList = bs := Except.ok.inj h
  rw [List.length_append, length_littleEndian] at hl
  have hn : s.toUTF8.data.toList.length.toUInt64.toNat = s.toUTF8.data.toList.length :=
    UInt64.toNat_ofNat_of_lt' (by omega)
  have hs : String.fromUTF8? s.toUTF8 = some s := dif_pos s.isValidUTF8
  rw [List.append_assoc]
  simp only [text, decode_u64, ok_bind]
  rw [hn, takeExact_append]
  simp only [Array.toArray_toList, hs]
  rfl

lemma readsBack_enumeration [Enumeration α] [DecidableEq α] (a : α)
    (h : Enumeration.ofPosition? (Enumeration.position a).toUInt32.toNat = some a) :
    (enumeration : Codec α).ReadsBack a := by
  rintro bs rest ⟨⟩ -
  simp only [enumeration, decode_u32, ok_bind, h]
  rfl

lemma ReadsBack.outcome {ok : Codec α} {error : Codec β} {o : Except β α}
    (ha : ∀ a, o = .ok a → ok.ReadsBack a) (hb : ∀ b, o = .error b → error.ReadsBack b) :
    (outcome ok error).ReadsBack o := by
  intro bs rest h hl
  cases o with
  | ok a =>
    simp only [Codec.outcome, encode_u32, ok_bind, bind_eq_ok] at h
    obtain ⟨xs, hx, ⟨⟩⟩ := h
    rw [List.length_append, length_littleEndian] at hl
    have hd := ha a rfl xs rest hx (by omega)
    rw [List.append_assoc]
    simp only [Codec.outcome, decode_u32, ok_bind, if_true, hd]
    rfl
  | error b =>
    simp only [Codec.outcome, encode_u32, ok_bind, bind_eq_ok] at h
    obtain ⟨xs, hx, ⟨⟩⟩ := h
    rw [List.length_append, length_littleEndian] at hl
    have hd := hb b rfl xs rest hx (by omega)
    rw [List.append_assoc]
    simp only [Codec.outcome, decode_u32, ok_bind, if_true, hd,
      show (1 : UInt32) ≠ 0 from by decide, if_false]
    rfl

lemma ReadsBack.tagged {count : Nat} {tag : α → Nat} {body : Nat → Codec α} {a : α}
    (hcount : count ≤ UInt32.size) (htag : tag a < count) (h : (body (tag a)).ReadsBack a) :
    (tagged count tag body).ReadsBack a := by
  intro bs rest he hl
  simp only [Codec.tagged, encode_u32, ok_bind, bind_eq_ok] at he
  obtain ⟨xs, hx, ⟨⟩⟩ := he
  rw [List.length_append, length_littleEndian] at hl
  have hd := h xs rest hx (by omega)
  have hn : (tag a).toUInt32.toNat = tag a := UInt32.toNat_ofNat_of_lt' (by omega)
  rw [List.append_assoc]
  simp only [Codec.tagged, decode_u32, ok_bind]
  rw [hn, if_pos htag]
  exact hd

lemma ReadsBack.variant {project : α → Option β} {inject : β → α} {c : Codec β} {a : α} {b : β}
    (hp : project a = some b) (hi : inject b = a) (h : c.ReadsBack b) :
    (variant project inject c).ReadsBack a := by
  intro bs rest he hl
  simp only [Codec.variant, hp] at he
  have hd := h bs rest he hl
  simp only [Codec.variant, hd, ok_bind, hi]
  rfl

/-! ### Sizes -/

lemma Takes.length_eq {c : Codec α} {a : α} {n : Nat} (h : c.Takes a n) {bs : List UInt8}
    (he : c.encode a = .ok bs) : bs.length = n := by
  obtain ⟨xs, hx, hn⟩ := h
  obtain rfl := Except.ok.inj (hx.symm.trans he)
  exact hn

lemma neverEmpty_of_takes {c : Codec α} {size : α → Nat} (h : ∀ a, c.Takes a (size a))
    (hs : ∀ a, 0 < size a) : c.NeverEmpty := by
  intro a bs he
  rw [(h a).length_eq he]
  exact hs a

lemma takes_number (width : Nat) (toNat : α → Nat) (ofNat : Nat → α) (a : α) :
    (number width toNat ofNat).Takes a width :=
  ⟨_, rfl, length_littleEndian _ _⟩

lemma takes_unit (a : Unit) : unit.Takes a 0 := ⟨_, rfl, rfl⟩

lemma takes_bytes (a : List UInt8) : bytes.Takes a (8 + a.length) :=
  ⟨_, rfl, by rw [List.length_append, length_littleEndian]⟩

lemma takes_text (s : String) : text.Takes s (8 + s.utf8ByteSize) :=
  ⟨_, rfl, by rw [List.length_append, length_littleEndian]; rfl⟩

lemma takes_enumeration [Enumeration α] [DecidableEq α] (a : α) :
    (enumeration : Codec α).Takes a 4 :=
  ⟨_, rfl, length_littleEndian _ _⟩

lemma Takes.pair {a : Codec α} {b : Codec β} {p : α × β} {m n : Nat} (ha : a.Takes p.1 m)
    (hb : b.Takes p.2 n) : (pair a b).Takes p (m + n) := by
  obtain ⟨xs, hx, rfl⟩ := ha
  obtain ⟨ys, hy, rfl⟩ := hb
  exact ⟨xs ++ ys, encode_pair_eq_ok.mpr ⟨xs, hx, ys, hy, rfl⟩, List.length_append⟩

lemma Takes.map {c : Codec α} {f : α → β} {g : β → α} {b : β} {n : Nat}
    (h : c.Takes (g b) n) : (c.map f g).Takes b n := h

lemma takes_option_none (c : Codec α) : c.option.Takes none 1 := ⟨_, rfl, rfl⟩

lemma Takes.option_some {c : Codec α} {a : α} {n : Nat} (h : c.Takes a n) :
    c.option.Takes (some a) (n + 1) := by
  obtain ⟨xs, hx, rfl⟩ := h
  exact ⟨1 :: xs, encode_option_some_eq_ok.mpr ⟨xs, hx, rfl⟩, rfl⟩

lemma Takes.sameSize {c : Codec α} {a : α} {n : Nat} (h : c.Takes a n) : c.SameSize a a :=
  ⟨n, h, h⟩

lemma SameSize.pair {a : Codec α} {b : Codec β} {p q : α × β} (ha : a.SameSize p.1 q.1)
    (hb : b.SameSize p.2 q.2) : (pair a b).SameSize p q := by
  obtain ⟨m, hm, hm'⟩ := ha
  obtain ⟨n, hn, hn'⟩ := hb
  exact ⟨m + n, hm.pair hn, hm'.pair hn'⟩

lemma SameSize.map {c : Codec α} {f : α → β} {g : β → α} {b b' : β}
    (h : c.SameSize (g b) (g b')) : (c.map f g).SameSize b b' := h

lemma SameSize.option {c : Codec α} {a b : α} (h : c.SameSize a b) :
    c.option.SameSize (some a) (some b) := by
  obtain ⟨n, hn, hn'⟩ := h
  exact ⟨n + 1, hn.option_some, hn'.option_some⟩

lemma SameSize.encodeMany {c : Codec α} {as bs : List α} (h : List.Forall₂ c.SameSize as bs) :
    ∃ xs ys, encodeMany c as = .ok xs ∧ encodeMany c bs = .ok ys ∧ xs.length = ys.length := by
  induction h with
  | nil => exact ⟨[], [], rfl, rfl, rfl⟩
  | cons hab _ ih =>
    obtain ⟨n, ⟨as, ha, hna⟩, bs, hb, hnb⟩ := hab
    obtain ⟨xs, ys, hx, hy, hl⟩ := ih
    refine ⟨as ++ xs, bs ++ ys, encodeMany_cons_eq_ok.mpr ⟨as, ha, xs, hx, rfl⟩,
      encodeMany_cons_eq_ok.mpr ⟨bs, hb, ys, hy, rfl⟩, ?_⟩
    rw [List.length_append, List.length_append, hna, hnb, hl]

lemma SameSize.list {c : Codec α} {as bs : List α} (h : List.Forall₂ c.SameSize as bs) :
    c.list.SameSize as bs := by
  obtain ⟨xs, ys, hx, hy, hl⟩ := SameSize.encodeMany h
  refine ⟨8 + xs.length, ⟨_, encode_list_eq_ok.mpr ⟨xs, hx, rfl⟩, ?_⟩,
    ⟨_, encode_list_eq_ok.mpr ⟨ys, hy, rfl⟩, ?_⟩⟩
  · rw [List.length_append, length_littleEndian]
  · rw [List.length_append, length_littleEndian, hl]

lemma exists_takes_list {c : Codec α} {as : List α} (h : ∀ a ∈ as, ∃ n, c.Takes a n) :
    ∃ n, c.list.Takes as n := by
  have hself : List.Forall₂ c.SameSize as as :=
    List.forall₂_same.mpr fun a ha => (h a ha).imp fun n hn => ⟨hn, hn⟩
  obtain ⟨n, hn, -⟩ := SameSize.list hself
  exact ⟨n, hn⟩

lemma Takes.outcome_ok {ok : Codec α} {error : Codec β} {a : α} {n : Nat} (h : ok.Takes a n) :
    (outcome ok error).Takes (.ok a) (4 + n) := by
  obtain ⟨xs, hx, rfl⟩ := h
  refine ⟨littleEndian 4 (0 : UInt32).toNat ++ xs, ?_, ?_⟩
  · simp only [Codec.outcome, encode_u32, ok_bind, hx]
    rfl
  · rw [List.length_append, length_littleEndian]

lemma Takes.outcome_error {ok : Codec α} {error : Codec β} {b : β} {n : Nat}
    (h : error.Takes b n) : (outcome ok error).Takes (.error b) (4 + n) := by
  obtain ⟨xs, hx, rfl⟩ := h
  refine ⟨littleEndian 4 (1 : UInt32).toNat ++ xs, ?_, ?_⟩
  · simp only [Codec.outcome, encode_u32, ok_bind, hx]
    rfl
  · rw [List.length_append, length_littleEndian]

lemma Takes.variant {project : α → Option β} {inject : β → α} {c : Codec β} {a : α} {b : β}
    {n : Nat} (h : c.Takes b n) (hp : project a = some b) :
    (variant project inject c).Takes a n := by
  obtain ⟨xs, hx, rfl⟩ := h
  exact ⟨xs, by simp only [Codec.variant, hp, hx], rfl⟩

lemma Takes.tagged {count : Nat} {tag : α → Nat} {body : Nat → Codec α} {a : α} {n : Nat}
    (h : (body (tag a)).Takes a n) : (tagged count tag body).Takes a (4 + n) := by
  obtain ⟨xs, hx, rfl⟩ := h
  refine ⟨littleEndian 4 (tag a).toUInt32.toNat ++ xs, ?_, ?_⟩
  · simp only [Codec.tagged, encode_u32, ok_bind, hx]
    rfl
  · rw [List.length_append, length_littleEndian]

end PathPolicy.Codec
