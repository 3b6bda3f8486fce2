import PathPolicy.Call.Connection
import PathPolicy.Proofs.FrameStream
import Mathlib.Data.Nat.Digits.Defs

/-!
# What stands in for a response

A response that no frame can hold is answered for by an error that names its size and the limit.
The error is short whatever the two numbers are, so every limit that a configuration may set leaves
room for it.
-/

namespace PathPolicy

lemma utf8ByteSize_le (s : String) : s.utf8ByteSize ≤ 4 * s.length := by
  have hlist (l : List Char) : (String.ofList l).utf8ByteSize ≤ 4 * l.length := by
    induction l with
    | nil => exact Nat.zero_le _
    | cons c l ih =>
      have hc := Char.utf8Size_le_four c
      rw [String.ofList_cons, String.utf8ByteSize_append, String.utf8ByteSize_singleton,
        List.length_cons]
      omega
  have hs := hlist s.toList
  rwa [String.ofList_toList, String.length_toList] at hs

lemma utf8ByteSize_repr_le {n : Nat} (h : n < UInt64.size) : (Nat.repr n).utf8ByteSize ≤ 80 := by
  have hdigits : (Nat.repr n).length ≤ 20 :=
    Nat.repr_length n 20 (by decide) (Nat.lt_trans h (by decide))
  have hbytes := utf8ByteSize_le (Nat.repr n)
  omega

lemma Frame.length_encoding {f : Frame} {n : Nat} (h : Codec.frame.Takes f n) :
    f.encoding.length = n :=
  h.length_eq (encode_eq f)

namespace Call.Connection

/-- The frame that goes out for a response: the response itself if it can be written. -/
def standing (limit : Nat) (f : Frame) : Frame :=
  if f.encoding.length ≤ limit ∧ f.encoding.length < Frame.headerBound then f
  else { f with body := .response (.error ⟨.internal, "response of " ++
    Nat.repr f.encoding.length ++ " bytes exceeds frame limit of " ++ Nat.repr limit⟩) }

lemma exists_write_iff_length {limit : Nat} {f : Frame} :
    (∃ bs, f.write limit = .ok bs) ↔
      f.encoding.length ≤ limit ∧ f.encoding.length < Frame.headerBound := by
  obtain ⟨n, hn⟩ := Codec.exists_takes_frame f
  rw [Frame.exists_write_iff hn, Frame.length_encoding hn]

lemma write_of_too_long {limit : Nat} {f : Frame}
    (h : ¬(f.encoding.length ≤ limit ∧ f.encoding.length < Frame.headerBound)) :
    f.write limit = .error (.frameTooLarge f.encoding.length limit) := by
  have hyes :
      decide (f.encoding.length > limit) || decide (f.encoding.length ≥ Frame.headerBound) := by
    simp only [Bool.or_eq_true, decide_eq_true_eq]
    omega
  simp only [Frame.write, Codec.encodeAs, Frame.encode_eq, Codec.ok_bind]
  rw [if_pos hyes]
  rfl

lemma responseBytes_eq (limit : Nat) (f : Frame) :
    responseBytes limit f = (standing limit f).write limit := by
  by_cases hf : f.encoding.length ≤ limit ∧ f.encoding.length < Frame.headerBound
  · obtain ⟨bs, hbs⟩ := exists_write_iff_length.mpr hf
    rw [standing, if_pos hf, responseBytes, hbs]
  · rw [standing, if_neg hf, responseBytes, write_of_too_long hf]
    simp only [oversized_eq]

lemma length_oversized_le (id : UInt64) {size limit : Nat} (hsize : size < UInt64.size)
    (hlimit : limit < UInt64.size) :
    (⟨id, .response (.error (oversized size limit))⟩ : Frame).encoding.length ≤ 1024 := by
  have htakes : Codec.frame.Takes ⟨id, .response (.error (oversized size limit))⟩ _ :=
    Codec.takes_response (Codec.takes_methodError _).outcome_error
  have hfirst : ("response of ").utf8ByteSize = 12 := by decide
  have hsecond : (" bytes exceeds frame limit of ").utf8ByteSize = 30 := by decide
  have hs := utf8ByteSize_repr_le hsize
  have hl := utf8ByteSize_repr_le hlimit
  rw [Frame.length_encoding htakes, oversized]
  simp only [String.utf8ByteSize_append, hfirst, hsecond]
  omega

/-- Whatever a response comes to, something can be written for it. -/
theorem exists_write_standing {limit : Nat} {f : Frame} (hlo : 1024 ≤ limit)
    (hhi : limit < UInt64.size) (hf : f.encoding.length < UInt64.size) :
    ∃ bs, (standing limit f).write limit = .ok bs := by
  rw [standing]
  split_ifs with h
  · exact exists_write_iff_length.mpr h
  · have hlength := length_oversized_le f.callId hf hhi
    exact exists_write_iff_length.mpr
      ⟨Nat.le_trans hlength hlo, Nat.lt_of_le_of_lt hlength (by decide)⟩

end Call.Connection

end PathPolicy
