import PathPolicy.Proofs.RoundTrip

/-!
# Writing again what was read

Whatever bytes arrive, a value read from them can be written again and is then read as the same
value. A frame comes out in the very bytes it was read from. A message may not, since nanoseconds
beyond a second are read as seconds, but it takes up as many bytes as before.
-/

namespace PathPolicy.Codec

variable {α β : Type} {R : List UInt8 → List UInt8 → Prop} {a : Codec α} {b : Codec β} {c : Codec α}

/-- Holds of equal bytes, and of bytes when it holds of their parts. -/
class Congruence (R : List UInt8 → List UInt8 → Prop) : Prop where
  refl : ∀ xs, R xs xs
  append : ∀ {xs ys xs' ys'}, R xs ys → R xs' ys' → R (xs ++ xs') (ys ++ ys')

instance : Congruence Eq where
  refl _ := rfl
  append h h' := congrArg₂ (· ++ ·) h h'

def EquallyLong (xs ys : List UInt8) : Prop := xs.length = ys.length

instance : Congruence EquallyLong where
  refl _ := rfl
  append h h' := by simpa only [EquallyLong, List.length_append] using congrArg₂ (· + ·) h h'

/-- `bs` is an encoding of the value that stands in `R` to the bytes in front of `rest`, and is
read as the value whatever follows it. -/
structure ReadAs (R : List UInt8 → List UInt8 → Prop) (c : Codec α) (input : List UInt8) (v : α)
    (rest front bs : List UInt8) : Prop where
  split : front ++ rest = input
  related : R front bs
  encode : c.encode v = .ok bs
  decode : ∀ later, c.decode (bs ++ later) = .ok (v, later)

/-- Whatever the codec reads it can write, in bytes that stand in `R` to those it has read. -/
class Rewrites (R : List UInt8 → List UInt8 → Prop) (c : Codec α) : Prop where
  exists_readAs : ∀ {input v rest}, c.decode input = .ok (v, rest) →
    ∃ front bs, c.ReadAs R input v rest front bs

/-! ### Numbers -/

lemma littleEndian_littleEndianValue (bs : List UInt8) :
    littleEndian bs.length (littleEndianValue bs) = bs := by
  induction bs with
  | nil => rfl
  | cons b bs ih =>
    have hlow : (b.toNat + 256 * littleEndianValue bs).toUInt8 = b := by
      rw [← UInt8.toNat_inj]
      simp
    have hhigh : (b.toNat + 256 * littleEndianValue bs) / 256 = littleEndianValue bs := by
      have hb := b.toNat_lt
      omega
    rw [List.length_cons, littleEndianValue, littleEndian, hlow, hhigh, ih]

lemma littleEndianValue_lt (bs : List UInt8) : littleEndianValue bs < 256 ^ bs.length := by
  induction bs with
  | nil => decide
  | cons b bs ih =>
    have hb := b.toNat_lt
    rw [littleEndianValue, List.length_cons, Nat.pow_succ]
    omega

lemma takeExact_eq_some_iff {n : Nat} {l front rest : List UInt8} :
    takeExact n l = some (front, rest) ↔ front.length = n ∧ front ++ rest = l := by
  constructor
  · intro h
    exact (Frame.takeExact_length h).imp_right Eq.symm
  · rintro ⟨rfl, rfl⟩
    exact takeExact_append front rest

lemma decode_number_eq_ok {width : Nat} {toNat : α → Nat} {ofNat : Nat → α}
    (hlt : ∀ v, toNat v < 256 ^ width) (hof : ∀ v, ofNat (toNat v) = v)
    (hto : ∀ n < 256 ^ width, toNat (ofNat n) = n) {input rest : List UInt8} {v : α} :
    (number width toNat ofNat).decode input = .ok (v, rest) ↔
      littleEndian width (toNat v) ++ rest = input := by
  constructor
  · intro h
    simp only [number] at h
    cases htake : takeExact width input with
    | none =>
      rw [htake] at h
      cases h
    | some split =>
      obtain ⟨front, rest'⟩ := split
      rw [htake] at h
      obtain ⟨rfl, rfl⟩ := takeExact_eq_some_iff.mp htake
      cases h
      rw [hto _ (littleEndianValue_lt front), littleEndian_littleEndianValue]
  · rintro rfl
    have htake := takeExact_append (littleEndian width (toNat v)) rest
    rw [length_littleEndian] at htake
    simp only [number, htake, littleEndianValue_littleEndian (hlt v), hof]

lemma decode_u8_eq_ok {input rest : List UInt8} {n : UInt8} :
    u8.decode input = .ok (n, rest) ↔ n :: rest = input := by
  refine (decode_number_eq_ok (fun n => n.toNat_lt) (by simp) fun n h => ?_).trans ?_
  · exact UInt8.toNat_ofNat_of_lt' h
  · simp [littleEndian]

lemma decode_u16_eq_ok {input rest : List UInt8} {n : UInt16} :
    u16.decode input = .ok (n, rest) ↔ littleEndian 2 n.toNat ++ rest = input :=
  decode_number_eq_ok (fun n => n.toNat_lt) (by simp) fun _ h => UInt16.toNat_ofNat_of_lt' h

lemma decode_u32_eq_ok {input rest : List UInt8} {n : UInt32} :
    u32.decode input = .ok (n, rest) ↔ littleEndian 4 n.toNat ++ rest = input :=
  decode_number_eq_ok (fun n => n.toNat_lt) (by simp) fun _ h => UInt32.toNat_ofNat_of_lt' h

lemma decode_u64_eq_ok {input rest : List UInt8} {n : UInt64} :
    u64.decode input = .ok (n, rest) ↔ littleEndian 8 n.toNat ++ rest = input :=
  decode_number_eq_ok (fun n => n.toNat_lt) (by simp) fun _ h => UInt64.toNat_ofNat_of_lt' h

lemma decode_i64_eq_ok {input rest : List UInt8} {n : Int64} :
    i64.decode input = .ok (n, rest) ↔ littleEndian 8 n.toUInt64.toNat ++ rest = input :=
  decode_number_eq_ok (fun n => n.toUInt64.toNat_lt) (by simp) fun _ h => by
    simpa using UInt64.toNat_ofNat_of_lt' h

lemma Rewrites.of_exact [Congruence R]
    (h : ∀ {input v rest}, c.decode input = .ok (v, rest) → ∃ bs, bs ++ rest = input ∧
      c.encode v = .ok bs ∧ ∀ later, c.decode (bs ++ later) = .ok (v, later)) : Rewrites R c where
  exists_readAs hd := by
    obtain ⟨bs, hbs, he, hlater⟩ := h hd
    exact ⟨bs, bs, hbs, Congruence.refl bs, he, hlater⟩

lemma Rewrites.of_iff [Congruence R] {encoding : α → List UInt8}
    (he : ∀ v, c.encode v = .ok (encoding v))
    (hd : ∀ {input v rest}, c.decode input = .ok (v, rest) ↔ encoding v ++ rest = input) :
    Rewrites R c :=
  .of_exact fun h => ⟨_, hd.mp h, he _, fun _ => hd.mpr rfl⟩

instance [Congruence R] : Rewrites R u8 :=
  .of_iff (fun n => show u8.encode n = .ok [n] by simp [u8, number, littleEndian]) decode_u8_eq_ok

instance [Congruence R] : Rewrites R u16 := .of_iff (fun _ => rfl) decode_u16_eq_ok

instance [Congruence R] : Rewrites R u32 := .of_iff (fun _ => rfl) decode_u32_eq_ok

instance [Congruence R] : Rewrites R u64 := .of_iff (fun _ => rfl) decode_u64_eq_ok

instance [Congruence R] : Rewrites R i64 := .of_iff (fun _ => rfl) decode_i64_eq_ok

instance [Congruence R] : Rewrites R boolean := .of_exact fun {input v rest} h => by
  simp only [boolean, bind_eq_ok] at h
  obtain ⟨⟨n, rest'⟩, hn, h⟩ := h
  obtain rfl := decode_u8_eq_ok.mp hn
  dsimp only at h
  split_ifs at h with h0 h1
  · obtain ⟨⟩ := h
    exact ⟨[0], by rw [h0]; rfl, rfl, fun later => by simp [boolean, ok_bind]; rfl⟩
  · obtain ⟨⟩ := h
    exact ⟨[1], by rw [h1]; rfl, rfl, fun later => by simp [boolean, ok_bind]; rfl⟩

/-! ### Texts and tokens -/

lemma toUInt64_toNat_length {xs : List UInt8} {n : UInt64} (h : xs.length = n.toNat) :
    xs.length.toUInt64 = n := by
  rw [h]
  exact UInt64.ofNat_toNat

instance [Congruence R] : Rewrites R bytes := .of_exact fun {input v rest} h => by
  simp only [bytes, bind_eq_ok] at h
  obtain ⟨⟨n, rest'⟩, hn, h⟩ := h
  obtain rfl := decode_u64_eq_ok.mp hn
  cases htake : takeExact n.toNat rest' with
  | none => simp [htake] at h
  | some split =>
    rw [htake] at h
    obtain ⟨⟩ := h
    obtain ⟨hlength, rfl⟩ := takeExact_eq_some_iff.mp htake
    refine ⟨littleEndian 8 n.toNat ++ v, List.append_assoc .., ?_, fun later => ?_⟩
    · simp only [bytes, toUInt64_toNat_length hlength, encode_u64, ok_bind]
      rfl
    · have htake' := takeExact_append v later
      rw [hlength] at htake'
      rw [List.append_assoc]
      simp only [bytes, decode_u64, ok_bind, htake']
      rfl

lemma toUTF8_of_fromUTF8? {bs : ByteArray} {s : String} (h : String.fromUTF8? bs = some s) :
    s.toUTF8 = bs := by
  unfold String.fromUTF8? at h
  split at h
  · cases h
    rfl
  · cases h

instance [Congruence R] : Rewrites R text := .of_exact fun {input v rest} h => by
  simp only [text, bind_eq_ok] at h
  obtain ⟨⟨n, rest'⟩, hn, h⟩ := h
  obtain rfl := decode_u64_eq_ok.mp hn
  cases htake : takeExact n.toNat rest' with
  | none => simp [htake] at h
  | some split =>
    obtain ⟨front, rest''⟩ := split
    rw [htake] at h
    dsimp only at h
    cases hs : String.fromUTF8? ⟨front.toArray⟩ with
    | none => simp [hs] at h
    | some s =>
      rw [hs] at h
      obtain ⟨⟩ := h
      obtain ⟨hlength, rfl⟩ := takeExact_eq_some_iff.mp htake
      have hbytes : v.toUTF8.data.toList = front := by rw [toUTF8_of_fromUTF8? hs]
      refine ⟨littleEndian 8 n.toNat ++ front, List.append_assoc .., ?_, fun later => ?_⟩
      · simp only [text, hbytes, toUInt64_toNat_length hlength, encode_u64, ok_bind]
        rfl
      · have htake' := takeExact_append front later
        rw [hlength] at htake'
        rw [List.append_assoc]
        simp only [text, decode_u64, ok_bind, htake', hs]
        rfl

instance [Congruence R] : Rewrites R resetToken := .of_exact fun {input v rest} h => by
  simp only [resetToken] at h
  cases htake : takeExact 16 input with
  | none => simp [htake] at h
  | some split =>
    obtain ⟨front, rest'⟩ := split
    rw [htake] at h
    obtain ⟨hlength, rfl⟩ := takeExact_eq_some_iff.mp htake
    simp only [Telemetry.ResetToken.ofList?, dif_pos hlength] at h
    obtain ⟨⟩ := h
    exact ⟨front, rfl, rfl, fun later => Lossless.readsBack (c := resetToken) ⟨front, hlength⟩ front
      later rfl (by rw [hlength]; decide)⟩

instance [Enumeration α] [DecidableEq α] [LawfulEnumeration α] [Congruence R] :
    Rewrites R (enumeration : Codec α) := .of_exact fun {input v rest} h => by
  simp only [enumeration, bind_eq_ok] at h
  obtain ⟨⟨n, rest'⟩, hn, h⟩ := h
  obtain rfl := decode_u32_eq_ok.mp hn
  cases ha : (Enumeration.ofPosition? n.toNat : Option α) with
  | none => simp [ha] at h
  | some v =>
    simp only [ha] at h
    obtain ⟨⟩ := h
    have hposition : (Enumeration.position v).toUInt32 = n := by
      rw [Enumeration.position_of_ofPosition? ha]
      exact UInt32.ofNat_toNat
    refine ⟨littleEndian 4 n.toNat, rfl, ?_, fun later => ?_⟩
    · simp only [enumeration, hposition, encode_u32]
    · simp only [enumeration, decode_u32, ok_bind, ha]
      rfl

/-! ### Ways of building a codec -/

/-- The same bytes may come in front of what is read and of what is written. -/
lemma ReadAs.behind [Congruence R] {input rest front bs : List UInt8} {v : α} {w : β}
    (h : a.ReadAs R input v rest front bs) (first : List UInt8)
    (he : b.encode w = .ok (first ++ bs))
    (hd : ∀ later, b.decode (first ++ (bs ++ later)) = .ok (w, later)) :
    b.ReadAs R (first ++ input) w rest (first ++ front) (first ++ bs) where
  split := by rw [List.append_assoc, h.split]
  related := Congruence.append (Congruence.refl first) h.related
  encode := he
  decode later := by rw [List.append_assoc, hd]

instance [Congruence R] [Rewrites R a] [Rewrites R b] : Rewrites R (pair a b) where
  exists_readAs {input v rest} h := by
    simp only [pair, bind_eq_ok] at h
    obtain ⟨⟨x, rest₁⟩, hx, ⟨y, rest₂⟩, hy, ⟨⟩⟩ := h
    obtain ⟨fx, xs, rfl, hrx, hex, hdx⟩ := Rewrites.exists_readAs (R := R) hx
    obtain ⟨fy, ys, rfl, hry, hey, hdy⟩ := Rewrites.exists_readAs (R := R) hy
    refine ⟨fx ++ fy, xs ++ ys, List.append_assoc .., Congruence.append hrx hry,
      encode_pair_eq_ok.mpr ⟨xs, hex, ys, hey, rfl⟩, fun later => ?_⟩
    rw [List.append_assoc]
    simp only [pair, hdx, hdy, ok_bind]
    rfl

lemma Rewrites.map [Rewrites R c] {f : α → β} {g : β → α} (hg : ∀ v, g (f v) = v) :
    Rewrites R (c.map f g) where
  exists_readAs {input v rest} h := by
    simp only [Codec.map, bind_eq_ok] at h
    obtain ⟨⟨x, rest'⟩, hx, ⟨⟩⟩ := h
    obtain ⟨front, bs, hsplit, hr, he, hd⟩ := Rewrites.exists_readAs (R := R) hx
    refine ⟨front, bs, hsplit, hr, ?_, fun later => ?_⟩
    · show c.encode (g (f x)) = .ok bs
      rw [hg, he]
    · simp only [Codec.map, hd, ok_bind]
      rfl

instance [Congruence R] [Rewrites R c] : Rewrites R c.option where
  exists_readAs {input v rest} h := by
    simp only [option, bind_eq_ok] at h
    obtain ⟨⟨tag, rest'⟩, htag, h⟩ := h
    obtain rfl := decode_u8_eq_ok.mp htag
    dsimp only at h
    split_ifs at h with h0 h1
    · obtain ⟨⟩ := h
      refine ⟨[0], [0], by rw [h0]; rfl, Congruence.refl _, rfl, fun later => ?_⟩
      simp only [option, List.singleton_append, decode_u8_cons, ok_bind]
      rfl
    · obtain ⟨⟨x, rest''⟩, hx, ⟨⟩⟩ := bind_eq_ok.mp h
      obtain ⟨front, bs, hr⟩ := Rewrites.exists_readAs (R := R) hx
      subst h1
      refine ⟨_, _, hr.behind [1] (encode_option_some_eq_ok.mpr ⟨bs, hr.encode, rfl⟩)
        fun later => ?_⟩
      simp only [option, List.singleton_append, decode_u8_cons, ok_bind, hr.decode]
      rfl

lemma exists_readAs_many [Congruence R] [Rewrites R c] {n : Nat} {input rest : List UInt8}
    {vs : List α} (h : decodeMany c n input = .ok (vs, rest)) :
    vs.length = n ∧ ∃ front bs, front ++ rest = input ∧ R front bs ∧ encodeMany c vs = .ok bs ∧
      ∀ later, decodeMany c n (bs ++ later) = .ok (vs, later) := by
  induction n generalizing input vs with
  | zero =>
    obtain ⟨⟩ := h
    exact ⟨rfl, [], [], rfl, Congruence.refl _, rfl, fun _ => rfl⟩
  | succ n ih =>
    simp only [decodeMany, bind_eq_ok] at h
    obtain ⟨⟨x, rest₁⟩, hx, ⟨ws, rest₂⟩, hw, ⟨⟩⟩ := h
    obtain ⟨fx, xs, rfl, hrx, hex, hdx⟩ := Rewrites.exists_readAs (R := R) hx
    obtain ⟨rfl, fw, ys, rfl, hrw, hew, hdw⟩ := ih hw
    refine ⟨rfl, fx ++ fw, xs ++ ys, List.append_assoc .., Congruence.append hrx hrw,
      encodeMany_cons_eq_ok.mpr ⟨xs, hex, ys, hew, rfl⟩, fun later => ?_⟩
    rw [List.append_assoc]
    simp only [decodeMany, hdx, hdw, ok_bind]
    rfl

instance [Congruence R] [Rewrites R c] : Rewrites R c.list where
  exists_readAs {input v rest} h := by
    simp only [list, bind_eq_ok] at h
    obtain ⟨⟨n, rest'⟩, hn, h⟩ := h
    obtain rfl := decode_u64_eq_ok.mp hn
    obtain ⟨hlength, front, bs, rfl, hr, he, hd⟩ := exists_readAs_many (R := R) h
    have hcount : v.length.toUInt64 = n := by
      rw [hlength]
      exact UInt64.ofNat_toNat
    refine ⟨littleEndian 8 n.toNat ++ front, littleEndian 8 n.toNat ++ bs, List.append_assoc ..,
      Congruence.append (Congruence.refl _) hr, encode_list_eq_ok.mpr ⟨bs, he, by rw [hcount]⟩,
      fun later => ?_⟩
    rw [List.append_assoc]
    simp only [list, decode_u64, ok_bind, hd]

lemma Rewrites.variant [Rewrites R c] {project : β → Option α} {inject : α → β}
    (hp : ∀ v, project (inject v) = some v) : Rewrites R (variant project inject c) where
  exists_readAs {input v rest} h := by
    simp only [Codec.variant, bind_eq_ok] at h
    obtain ⟨⟨x, rest'⟩, hx, ⟨⟩⟩ := h
    obtain ⟨front, bs, hsplit, hr, he, hd⟩ := Rewrites.exists_readAs (R := R) hx
    refine ⟨front, bs, hsplit, hr, by simp only [Codec.variant, hp, he], fun later => ?_⟩
    simp only [Codec.variant, hd, ok_bind]
    rfl

/-- Each variant reads values of its own number only. -/
lemma Rewrites.tagged [Congruence R] {count : Nat} {tag : α → Nat} {body : Nat → Codec α}
    (hbody : ∀ n < count, Rewrites R (body n))
    (htag : ∀ n < count, ∀ {input v rest}, (body n).decode input = .ok (v, rest) → tag v = n) :
    Rewrites R (tagged count tag body) where
  exists_readAs {input v rest} h := by
    simp only [Codec.tagged, bind_eq_ok] at h
    obtain ⟨⟨n, rest'⟩, hn, h⟩ := h
    obtain rfl := decode_u32_eq_ok.mp hn
    dsimp only at h
    split_ifs at h with hcount
    obtain ⟨front, bs, hr⟩ := (hbody _ hcount).exists_readAs h
    have hnumber : n.toNat.toUInt32 = n := UInt32.ofNat_toNat
    refine ⟨_, _, hr.behind (littleEndian 4 n.toNat) ?_ fun later => ?_⟩
    · simp only [Codec.tagged, htag _ hcount h, hnumber, encode_u32, ok_bind, hr.encode]
      rfl
    · simp only [Codec.tagged, decode_u32, ok_bind, if_pos hcount, hr.decode]

instance [Congruence R] [Rewrites R a] [Rewrites R b] : Rewrites R (outcome a b) where
  exists_readAs {input v rest} h := by
    simp only [outcome, bind_eq_ok] at h
    obtain ⟨⟨n, rest'⟩, hn, h⟩ := h
    obtain rfl := decode_u32_eq_ok.mp hn
    dsimp only at h
    split_ifs at h with h0 h1
    · obtain ⟨⟨x, rest''⟩, hx, ⟨⟩⟩ := bind_eq_ok.mp h
      obtain ⟨front, bs, hr⟩ := Rewrites.exists_readAs (R := R) hx
      refine ⟨_, _, hr.behind (littleEndian 4 n.toNat) ?_ fun later => ?_⟩
      · simp only [outcome, encode_u32, ok_bind, hr.encode, h0]
        rfl
      · simp only [outcome, decode_u32, ok_bind, if_pos h0, hr.decode]
        rfl
    · obtain ⟨⟨x, rest''⟩, hx, ⟨⟩⟩ := bind_eq_ok.mp h
      obtain ⟨front, bs, hr⟩ := Rewrites.exists_readAs (R := R) hx
      refine ⟨_, _, hr.behind (littleEndian 4 n.toNat) ?_ fun later => ?_⟩
      · simp only [outcome, encode_u32, ok_bind, hr.encode, h1]
        rfl
      · simp only [outcome, decode_u32, ok_bind, if_neg h0, if_pos h1, hr.decode]
        rfl

/-! ### Times -/

lemma exists_split_of_secondsAndNanos {tooLong : DecodeFault} {input rest : List UInt8} {d : Span}
    (h : secondsAndNanos tooLong input = .ok (d, rest)) :
    ∃ front, front ++ rest = input ∧ front.length = 12 := by
  simp only [secondsAndNanos, bind_eq_ok] at h
  obtain ⟨⟨seconds, rest₁⟩, hs, ⟨nanos, rest₂⟩, hn, h⟩ := h
  obtain rfl := decode_u64_eq_ok.mp hs
  obtain rfl := decode_u32_eq_ok.mp hn
  dsimp only at h
  split_ifs at h
  obtain ⟨⟩ := h
  exact ⟨littleEndian 8 seconds.toNat ++ littleEndian 4 nanos.toNat, List.append_assoc .., by
    rw [List.length_append, length_littleEndian, length_littleEndian]⟩

instance : Rewrites EquallyLong span where
  exists_readAs {input d rest} h := by
    obtain ⟨front, hsplit, hlength⟩ := exists_split_of_secondsAndNanos h
    obtain ⟨bs, he, hbs⟩ := takes_span d
    refine ⟨front, bs, hsplit, hlength.trans hbs.symm, he, fun later => ?_⟩
    exact readsBack_span d bs later he (by rw [hbs]; decide)

lemma isBeforeEpoch_eq_false {n : UInt64} (h : n < 0x8000000000000000) (nanos : Fin nanosPerSecond) :
    (Instant.mk n.toInt64 nanos).isBeforeEpoch = false := by
  refine decide_eq_false fun hneg => ?_
  rw [Int64.lt_iff_toInt_lt] at hneg
  rw [UInt64.lt_iff_toNat_lt] at h
  have hnonneg : 0 ≤ n.toInt64.toBitVec.toInt :=
    BitVec.toInt_pos_iff.mpr (Nat.mul_lt_mul_of_pos_left h (by decide : 0 < 2))
  exact absurd hneg (Int.not_lt.mpr hnonneg)

/-- No instant before the epoch is ever read. -/
lemma isBeforeEpoch_of_decode {input rest : List UInt8} {t : Instant}
    (h : instant.decode input = .ok (t, rest)) : t.isBeforeEpoch = false := by
  simp only [instant, bind_eq_ok] at h
  obtain ⟨⟨d, rest'⟩, -, h⟩ := h
  dsimp only at h
  split_ifs at h with hd
  obtain ⟨⟩ := h
  exact isBeforeEpoch_eq_false hd d.nanos

instance : Rewrites EquallyLong instant where
  exists_readAs {input t rest} h := by
    obtain ⟨bs, he, hbs⟩ := takes_instant (isBeforeEpoch_of_decode h)
    simp only [instant, bind_eq_ok] at h
    obtain ⟨⟨d, rest'⟩, hd, h⟩ := h
    obtain ⟨front, hsplit, hlength⟩ := exists_split_of_secondsAndNanos hd
    dsimp only at h
    split_ifs at h
    obtain ⟨⟩ := h
    exact ⟨front, bs, hsplit, hlength.trans hbs.symm, he, fun later =>
      readsBack_instant _ bs later he (by rw [hbs]; decide)⟩

/-! ### Records -/

open Telemetry Remote

instance [Congruence R] : Rewrites R remoteAddress := Rewrites.map fun _ => rfl

instance [Congruence R] : Rewrites R fingerprint := Rewrites.map fun _ => rfl

instance [Congruence R] : Rewrites R network := Rewrites.map fun _ => rfl

instance [Congruence R] : Rewrites R pathHandle := Rewrites.map fun _ => rfl

instance [Congruence R] : Rewrites R tracingId := Rewrites.map fun _ => rfl

instance [Congruence R] : Rewrites R interface := Rewrites.map fun _ => rfl

instance [Congruence R] : Rewrites R location := Rewrites.map fun _ => rfl

instance : Rewrites EquallyLong pathMetadata := Rewrites.map fun _ => rfl

instance : Rewrites EquallyLong path := Rewrites.map fun _ => rfl

instance : Rewrites EquallyLong pathRecord := Rewrites.map fun _ => rfl

instance : Rewrites EquallyLong selectorMessage := Rewrites.map fun _ => rfl

instance [Congruence R] : Rewrites R connectionId := Rewrites.map fun _ => rfl

instance [Congruence R] : Rewrites R versionNumber := Rewrites.map fun _ => rfl

instance [Congruence R] : Rewrites R packetHeader := Rewrites.map fun _ => rfl

instance [Congruence R] : Rewrites R extendedHeader := Rewrites.map fun _ => rfl

instance [Congruence R] : Rewrites R ackRange := Rewrites.map fun _ => rfl

instance : Rewrites EquallyLong ackFrame := Rewrites.map fun _ => rfl

instance : Rewrites EquallyLong rttStats := Rewrites.map fun _ => rfl

instance : Rewrites EquallyLong transportParameters := Rewrites.map fun _ => rfl

-- Thirty-three fields are more than the search goes through by default.
set_option synthInstance.maxSize 256 in
instance : Rewrites EquallyLong tracerMessage := Rewrites.map fun _ => rfl

/-! ### Frames -/

instance [Congruence R] : Rewrites R methodError := Rewrites.map fun _ => rfl

instance [Congruence R] : Rewrites R frameBody := by
  refine Rewrites.tagged (fun n hn => ?_) fun n hn {input v rest} h => ?_
  · match n with
    | 0 =>
      rw [frameVariant]
      exact Rewrites.variant fun _ => rfl
    | 1 =>
      rw [frameVariant.eq_2 _ Nat.one_ne_zero]
      exact Rewrites.variant fun _ => rfl
  · match n with
    | 0 =>
      obtain ⟨-, -, ⟨⟩⟩ := bind_eq_ok.mp h
      rfl
    | 1 =>
      obtain ⟨-, -, ⟨⟩⟩ := bind_eq_ok.mp h
      rfl

instance [Congruence R] : Rewrites R frame := Rewrites.map fun _ => rfl

/-! ### Sending on -/

/-- Nothing shorter than what a value was read from is read as any value. -/
lemma Rewrites.eq_of_prefix [Rewrites Eq c] {bs p : List UInt8} {v w : α} {rest : List UInt8}
    (hbs : c.decode bs = .ok (v, [])) (hp : p <+: bs) (hw : c.decode p = .ok (w, rest)) :
    p = bs := by
  obtain ⟨after, rfl⟩ := hp
  obtain ⟨front, bs, rfl, rfl, -, hd⟩ := Rewrites.exists_readAs (R := Eq) hw
  rw [List.append_assoc, hd] at hbs
  obtain ⟨rfl, rfl⟩ : rest = [] ∧ after = [] :=
    List.append_eq_nil_iff.mp (Prod.mk.inj (Except.ok.inj hbs)).2
  exact (List.append_nil _).symm

/-- The value can be sent on: it is written in no more bytes than it was read from, and read as
the same value. -/
lemma Rewrites.sendsOn [Rewrites EquallyLong c] {what : String} {input : List UInt8} {v : α}
    (h : c.decodeAs what input = .ok v) :
    ∃ bs, c.encodeAs what v = .ok bs ∧ c.decodeAs what bs = .ok v ∧ bs.length ≤ input.length := by
  obtain ⟨rest, hd⟩ := decodeAs_eq_ok.mp h
  obtain ⟨front, bs, rfl, hr, he, hlater⟩ := Rewrites.exists_readAs (R := EquallyLong) hd
  have hback := hlater []
  rw [List.append_nil] at hback
  refine ⟨bs, encodeAs_eq_ok.mpr he, decodeAs_eq_ok.mpr ⟨[], hback⟩, ?_⟩
  rw [List.length_append, show front.length = bs.length from hr]
  exact Nat.le_add_right _ _

/-- Bytes that are read as a frame begin with the encoding of the frame, and no proper prefix of
the encoding of a frame is read as any frame. A message to a selector or to a tracer that was read
has no instant before the epoch in it and can be sent on. -/
theorem decoding_canonical (what : String) :
    (∀ input f, frame.decodeAs what input = .ok f →
      ∃ bs, frame.encodeAs what f = .ok bs ∧ bs <+: input) ∧
    (∀ f bs p, frame.encodeAs what f = .ok bs → bs.length < UInt64.size → p <+: bs → p ≠ bs →
      ∃ e, frame.decodeAs what p = .error e) ∧
    (∀ input m, selectorMessage.decodeAs what input = .ok m →
      (∀ t ∈ m.instants, t.isBeforeEpoch = false) ∧
      ∃ bs, selectorMessage.encodeAs what m = .ok bs ∧ selectorMessage.decodeAs what bs = .ok m ∧
        bs.length ≤ input.length) ∧
    (∀ input m, tracerMessage.decodeAs what input = .ok m →
      (∀ t ∈ m.instants, t.isBeforeEpoch = false) ∧
      ∃ bs, tracerMessage.encodeAs what m = .ok bs ∧ tracerMessage.decodeAs what bs = .ok m ∧
        bs.length ≤ input.length) := by
  refine ⟨fun input f h => ?_, fun f bs p he hl hp hne => ?_, fun input m h => ?_,
    fun input m h => ?_⟩
  · obtain ⟨rest, hd⟩ := decodeAs_eq_ok.mp h
    obtain ⟨front, bs, hsplit, rfl, he, -⟩ := Rewrites.exists_readAs (R := Eq) hd
    exact ⟨front, encodeAs_eq_ok.mpr he, rest, hsplit⟩
  · have hback := readsBack_frame f bs [] (encodeAs_eq_ok.mp he) hl
    rw [List.append_nil] at hback
    cases hd : frame.decodeAs what p with
    | error e => exact ⟨e, rfl⟩
    | ok g =>
      obtain ⟨rest, hg⟩ := decodeAs_eq_ok.mp hd
      exact absurd (Rewrites.eq_of_prefix hback hp hg) hne
  · obtain ⟨bs, he, hsent⟩ := Rewrites.sendsOn h
    exact ⟨encodes_selectorMessage.mp ⟨bs, encodeAs_eq_ok.mp he⟩, bs, he, hsent⟩
  · obtain ⟨bs, he, hsent⟩ := Rewrites.sendsOn h
    exact ⟨encodes_tracerMessage.mp ⟨bs, encodeAs_eq_ok.mp he⟩, bs, he, hsent⟩

/-- An expiry with two and a half seconds of nanoseconds is accepted and sent on as another
expiry, which is the same instant; a frame is sent on byte for byte, less what followed it. -/
theorem decoding_canonical_carries :
    let message (seconds nanos : Nat) : List UInt8 :=
      [0, 1] ++ littleEndian 8 1 ++ littleEndian 8 3 ++ littleEndian 24 0 ++
        littleEndian 8 seconds ++ littleEndian 4 nanos ++ [0, 0, 0]
    let m : Remote.SelectorMessage :=
      { paths := some [⟨⟨3⟩, ⟨⟨""⟩, ⟨""⟩, ⟨""⟩, ⟨7, 500000000⟩, none⟩⟩] }
    let f : Frame := ⟨5, .response (.error ⟨.misuse, "no"⟩)⟩
    let written := (frame.encode f).toOption.getD []
    selectorMessage.decodeAs "request" (message 5 2500000000) = .ok m ∧
      selectorMessage.encodeAs "request" m = .ok (message 7 500000000) ∧
      selectorMessage.decodeAs "request" (message 7 500000000) = .ok m ∧
      frame.decodeAs "frame" (written ++ [9]) = .ok f ∧ frame.encodeAs "frame" f = .ok written ∧
      written <+: written ++ [9] ∧ ∃ e, frame.decodeAs "frame" (written.take 29) = .error e := by
  intro message m f written
  obtain ⟨hinitial, hproper, -, -⟩ := decoding_canonical "frame"
  obtain ⟨-, -, hsendsOn, -⟩ := decoding_canonical "request"
  have hm : selectorMessage.encodeAs "request" m = .ok (message 7 500000000) := by decide +kernel
  have hread : selectorMessage.decodeAs "request" (message 5 2500000000) = .ok m := by
    decide +kernel
  have hsent : selectorMessage.decodeAs "request" (message 7 500000000) = .ok m := by
    obtain ⟨-, bs, he, hback, -⟩ := hsendsOn _ m hread
    obtain rfl := Except.ok.inj (hm.symm.trans he)
    exact hback
  have hf : frame.encodeAs "frame" f = .ok written := by decide +kernel
  have hlength : written.length = 30 := by decide +kernel
  have hl : written.length < UInt64.size := by
    rw [hlength]
    decide
  have hback : frame.decodeAs "frame" (written ++ [9]) = .ok f :=
    decodeAs_eq_ok.mpr ⟨[9], readsBack_frame f written [9] (encodeAs_eq_ok.mp hf) hl⟩
  refine ⟨hread, hm, hsent, hback, hf, ?_, ?_⟩
  · obtain ⟨bs, he, hp⟩ := hinitial _ f hback
    obtain rfl := Except.ok.inj (hf.symm.trans he)
    exact hp
  · refine hproper f written _ hf hl (List.take_prefix 29 written) fun h => ?_
    have hshort := congrArg List.length h
    rw [List.length_take, hlength] at hshort
    exact absurd hshort (by decide)

end PathPolicy.Codec
