import PathPolicy.Frame
import PathPolicy.Proofs.Codec

/-!
# Frames on a stream

A frame can always be written, up to the limit on its length, and read back from a stream that
goes on with anything.
-/

namespace PathPolicy

namespace Codec

/-- Beside the method and the payload, a request takes up its number, a tag and two lengths. -/
def requestLength (method : String) (payload : List UInt8) : Nat :=
  8 + (4 + (8 + method.utf8ByteSize + (8 + payload.length)))

lemma takes_request (id : UInt64) (method : String) (payload : List UInt8) :
    frame.Takes ⟨id, .request method payload⟩ (requestLength method payload) := by
  have hpair : (pair text bytes).Takes (method, payload) _ :=
    (takes_text method).pair (takes_bytes payload)
  have hbody : (frameVariant 0).Takes (.request method payload)
      (8 + method.utf8ByteSize + (8 + payload.length)) := by
    rw [frameVariant]
    exact Takes.variant hpair rfl
  exact Takes.map (Takes.pair (takes_number 8 _ _ id) (Takes.tagged hbody))

lemma takes_response {id : UInt64} {o : Except MethodError (List UInt8)} {n : Nat}
    (h : (outcome bytes methodError).Takes o n) : frame.Takes ⟨id, .response o⟩ (8 + (4 + n)) := by
  have hbody : (frameVariant 1).Takes (.response o) n := by
    rw [frameVariant.eq_2 _ Nat.one_ne_zero]
    exact Takes.variant h rfl
  exact Takes.map (Takes.pair (takes_number 8 _ _ id) (Takes.tagged hbody))

lemma takes_methodError (e : MethodError) :
    methodError.Takes e (4 + (8 + e.message.utf8ByteSize)) :=
  Takes.map (Takes.pair (takes_enumeration e.kind) (takes_text e.message))

lemma exists_takes_frame (f : Frame) : ∃ n, frame.Takes f n := by
  rcases f with ⟨id, ⟨method, payload⟩ | ⟨⟨e⟩ | payload⟩⟩
  · exact ⟨_, takes_request id method payload⟩
  · exact ⟨_, takes_response ((takes_methodError _).outcome_error)⟩
  · exact ⟨_, takes_response ((takes_bytes payload).outcome_ok)⟩

lemma readsBack_methodError (e : MethodError) : methodError.ReadsBack e := by
  refine ReadsBack.map (ReadsBack.pair (readsBack_enumeration _ ?_) (readsBack_text _)) rfl
  cases e with
  | mk kind message => cases kind <;> rfl

lemma readsBack_frameBody (b : FrameBody) : frameBody.ReadsBack b := by
  cases b with
  | request method payload =>
    have hp : (pair text bytes).ReadsBack (method, payload) :=
      (readsBack_text method).pair (readsBack_bytes payload)
    have hv : (frameVariant 0).ReadsBack (.request method payload) := by
      rw [frameVariant]
      exact ReadsBack.variant rfl rfl hp
    exact ReadsBack.tagged (by decide) Nat.zero_lt_two hv
  | response o =>
    have ho : (outcome bytes methodError).ReadsBack o :=
      ReadsBack.outcome (fun a _ => readsBack_bytes a) fun e _ => readsBack_methodError e
    have hv : (frameVariant 1).ReadsBack (.response o) := by
      rw [frameVariant.eq_2 _ Nat.one_ne_zero]
      exact ReadsBack.variant rfl rfl ho
    exact ReadsBack.tagged (by decide) Nat.one_lt_two hv

lemma readsBack_frame (f : Frame) : frame.ReadsBack f :=
  ReadsBack.map (ReadsBack.pair (readsBack_u64 f.callId) (readsBack_frameBody f.body)) rfl

end Codec

namespace Frame

lemma write_eq_ok_iff {limit : Nat} {f : Frame} {bs : List UInt8} :
    f.write limit = .ok bs ↔ ∃ body, Codec.frame.encode f = .ok body ∧ body.length ≤ limit ∧
      body.length < headerBound ∧ header body.length ++ body = bs := by
  obtain ⟨-, body, hb, -⟩ := Codec.exists_takes_frame f
  simp only [write, Codec.encodeAs, hb, Codec.ok_bind]
  split
  · rename_i hl
    simp only [Bool.or_eq_true, decide_eq_true_eq] at hl
    constructor
    · intro h
      cases h
    · rintro ⟨body, ⟨⟩, hlimit, hbound, -⟩
      omega
  · rename_i hl
    simp only [Bool.or_eq_true, decide_eq_true_eq, not_or, Nat.not_lt, ge_iff_le, Nat.not_le] at hl
    constructor
    · intro h
      exact ⟨body, rfl, hl.1, hl.2, Except.ok.inj h⟩
    · rintro ⟨body, ⟨⟩, -, -, rfl⟩
      rfl

/-- A frame whose body is too long is the only one that cannot be written. -/
theorem write_eq_error {limit : Nat} {f : Frame} {e : CallError} (h : f.write limit = .error e) :
    ∃ size, e = .frameTooLarge size limit := by
  obtain ⟨-, body, hb, -⟩ := Codec.exists_takes_frame f
  simp only [write, Codec.encodeAs, hb, Codec.ok_bind] at h
  split at h
  · exact ⟨_, (Except.error.inj h).symm⟩
  · cases h

lemma isEmpty_of_write {limit : Nat} {f : Frame} {bs : List UInt8} (h : f.write limit = .ok bs) :
    bs.isEmpty = false := by
  obtain ⟨body, -, -, -, rfl⟩ := write_eq_ok_iff.mp h
  rw [List.isEmpty_eq_false_iff, ← List.length_pos_iff, List.length_append, header,
    List.length_reverse, Codec.length_littleEndian]
  exact Nat.lt_add_right _ (by decide)

lemma write_mono {limit limit' : Nat} {f : Frame} {bs : List UInt8} (h : f.write limit = .ok bs)
    (hle : limit ≤ limit') : f.write limit' = .ok bs := by
  obtain ⟨body, hb, hl, hbound, he⟩ := write_eq_ok_iff.mp h
  exact write_eq_ok_iff.mpr ⟨body, hb, Nat.le_trans hl hle, hbound, he⟩

/-- Whether a frame can be written depends on its length alone. -/
lemma exists_write_iff {limit n : Nat} {f : Frame} (h : Codec.frame.Takes f n) :
    (∃ bs, f.write limit = .ok bs) ↔ n ≤ limit ∧ n < headerBound := by
  constructor
  · rintro ⟨bs, hw⟩
    obtain ⟨body, hb, hl, hbound, -⟩ := write_eq_ok_iff.mp hw
    rw [h.length_eq hb] at hl hbound
    exact ⟨hl, hbound⟩
  · rintro ⟨hl, hbound⟩
    obtain ⟨body, hb, rfl⟩ := h
    exact ⟨_, write_eq_ok_iff.mpr ⟨body, hb, hl, hbound, rfl⟩⟩

/-- A payload that was sent is short enough to be read. -/
lemma length_of_write {limit : Nat} {id : UInt64} {method : String} {payload bs : List UInt8}
    (h : (⟨id, .request method payload⟩ : Frame).write limit = .ok bs) :
    payload.length < UInt64.size := by
  obtain ⟨-, hbound⟩ := (exists_write_iff (Codec.takes_request id method payload)).mp ⟨bs, h⟩
  rw [Codec.requestLength] at hbound
  exact Nat.lt_trans (by omega) (show headerBound < UInt64.size by decide)

lemma headerValue_header {n : Nat} (h : n < headerBound) : headerValue (header n) = n := by
  unfold headerValue header
  rw [List.reverse_reverse]
  exact Codec.littleEndianValue_littleEndian h

/-- What was written is read back from the front of a stream. -/
theorem read_write {limit : Nat} {f : Frame} {bs : List UInt8} (h : f.write limit = .ok bs)
    (rest : List UInt8) : read limit (bs ++ rest) = .frame f rest := by
  obtain ⟨body, hb, hl, hbound, rfl⟩ := write_eq_ok_iff.mp h
  have hhead := Codec.takeExact_append (header body.length) (body ++ rest)
  have hlen : (header body.length).length = headerLength := by simp [header]
  have hbody := Codec.readsBack_frame f body [] hb (Nat.lt_trans hbound (by decide))
  rw [hlen] at hhead
  rw [List.append_nil] at hbody
  simp only [read, List.append_assoc, hhead, headerValue_header hbound, Nat.not_lt.mpr hl,
    if_false, Codec.takeExact_append, Codec.decodeAs, hbody]

lemma readMany_nil (limit : Nat) : readMany limit [] = ([], .ok []) := by
  unfold readMany
  rfl

lemma readMany_write {limit : Nat} {f : Frame} {bs : List UInt8} (h : f.write limit = .ok bs)
    (rest : List UInt8) :
    readMany limit (bs ++ rest) = (f :: (readMany limit rest).1, (readMany limit rest).2) := by
  have hread := read_write h rest
  rw [readMany]
  split
  · rename_i hm
    rw [hread] at hm
    cases hm
  · rename_i hm
    rw [hread] at hm
    cases hm
  · rename_i hm
    rw [hread] at hm
    cases hm
    rfl

end Frame

end PathPolicy
