import PathPolicy.Proofs.FrameStream

/-!
# Streams cut short

Of a stream that breaks off at any byte, the frames are read that end before the break. A break
inside a body is noticed. A break inside a header is not: it looks like the end of a stream that
was closed between two frames.
-/

namespace PathPolicy.Frame

/-- Where the first `n` of the frames end on a stream. -/
def boundary (limit : Nat) (frames : List Frame) (n : Nat) : Nat :=
  (writeAll limit (frames.take n)).2.length

lemma boundary_zero (limit : Nat) (frames : List Frame) : boundary limit frames 0 = 0 := rfl

lemma writeAll_cons {limit : Nat} {f : Frame} {bs : List UInt8} (h : f.write limit = .ok bs)
    (frames : List Frame) : (writeAll limit (f :: frames)).2 = bs ++ (writeAll limit frames).2 := by
  simp only [writeAll, h]

lemma boundary_succ {limit : Nat} {f : Frame} {bs : List UInt8} (h : f.write limit = .ok bs)
    (frames : List Frame) (n : Nat) :
    boundary limit (f :: frames) (n + 1) = bs.length + boundary limit frames n := by
  rw [boundary, List.take_succ_cons, writeAll_cons h, List.length_append, boundary]

lemma takeExact_eq_none {n : Nat} {l : List UInt8} (h : l.length < n) :
    Codec.takeExact n l = none := by
  have hn : min n l.length ≠ n := by omega
  simp [Codec.takeExact, hn]

/-- Once the header is complete, its reader waits for the body. -/
lemma read_take_of_lt {limit : Nat} {f : Frame} {bs : List UInt8} (h : f.write limit = .ok bs)
    {k : Nat} (hk : k < bs.length) : read limit (bs.take k) = .more (decide (headerLength ≤ k)) := by
  obtain ⟨body, -, hl, hbound, rfl⟩ := write_eq_ok_iff.mp h
  have hlen : (header body.length).length = headerLength := by simp [header]
  rw [List.length_append, hlen] at hk
  unfold read
  by_cases hhead : headerLength ≤ k
  · have hsplit : (header body.length ++ body).take k =
        header body.length ++ body.take (k - headerLength) := by
      rw [List.take_append, hlen, List.take_of_length_le (by omega)]
    have htake := Codec.takeExact_append (header body.length) (body.take (k - headerLength))
    rw [hlen] at htake
    have hshort : (body.take (k - headerLength)).length < body.length := by
      rw [List.length_take]
      omega
    rw [hsplit, htake]
    dsimp only
    rw [headerValue_header hbound, if_neg (Nat.not_lt.mpr hl), takeExact_eq_none hshort]
    simp [hhead]
  · have hshort : ((header body.length ++ body).take k).length < headerLength := by
      rw [List.length_take]
      omega
    rw [takeExact_eq_none hshort]
    simp [hhead]

lemma readAll_of_more {limit : Nat} {input : List UInt8} {inBody : Bool}
    (h : read limit input = .more inBody) : readAll limit input = ([], endOf inBody) := by
  simp only [readAll, readMany_of_more h, h]

lemma readAll_write {limit : Nat} {f : Frame} {bs : List UInt8} (h : f.write limit = .ok bs)
    (rest : List UInt8) :
    readAll limit (bs ++ rest) = (f :: (readAll limit rest).1, (readAll limit rest).2) := by
  simp only [readAll, readMany_write h]
  rcases readMany limit rest with ⟨frames, e | unread⟩
  · rfl
  · dsimp only
    cases read limit unread <;> rfl

/-- Frames can be read from a stream up to the last boundary before the cut, and the end is taken
for a clean one unless at least a whole header lies between that boundary and the cut. -/
lemma readAll_take {limit : Nat} {frames : List Frame}
    (hw : ∀ f ∈ frames, ∃ bs, f.write limit = .ok bs) {k : Nat}
    (hk : k ≤ (writeAll limit frames).2.length) :
    ∃ n ≤ frames.length, boundary limit frames n ≤ k ∧
      (∀ m ≤ frames.length, boundary limit frames m ≤ k → m ≤ n) ∧
      readAll limit ((writeAll limit frames).2.take k) =
        (frames.take n, endOf (decide (boundary limit frames n + headerLength ≤ k))) := by
  induction frames generalizing k with
  | nil =>
    obtain rfl : k = 0 := by simpa [writeAll] using hk
    exact ⟨0, Nat.le_refl 0, Nat.le_refl 0, fun m hm _ => hm, readAll_of_more rfl⟩
  | cons f frames ih =>
    obtain ⟨bs, hbs⟩ := hw f List.mem_cons_self
    rw [writeAll_cons hbs] at hk ⊢
    by_cases hcut : k < bs.length
    · -- The cut is inside the first frame.
      refine ⟨0, Nat.zero_le _, Nat.zero_le _, fun m _ hmk => ?_, ?_⟩
      · cases m with
        | zero => exact Nat.le_refl 0
        | succ m =>
          rw [boundary_succ hbs] at hmk
          omega
      · rw [List.take_append_of_le_length hcut.le, readAll_of_more (read_take_of_lt hbs hcut),
          boundary_zero, Nat.zero_add]
        rfl
    · have hle : bs.length ≤ k := Nat.not_lt.mp hcut
      rw [List.length_append] at hk
      obtain ⟨n, hn, hnk, hlast, hread⟩ :=
        ih (fun g hg => hw g (List.mem_cons_of_mem f hg)) (k := k - bs.length) (by omega)
      have hend : boundary limit frames n + headerLength ≤ k - bs.length ↔
          boundary limit (f :: frames) (n + 1) + headerLength ≤ k := by
        rw [boundary_succ hbs]
        omega
      refine ⟨n + 1, Nat.succ_le_succ hn, ?_, fun m hm hmk => ?_, ?_⟩
      · rw [boundary_succ hbs]
        omega
      · cases m with
        | zero => exact Nat.zero_le _
        | succ m =>
          rw [boundary_succ hbs] at hmk
          exact Nat.succ_le_succ (hlast m (Nat.le_of_succ_le_succ hm) (by omega))
      · rw [List.take_append, List.take_of_length_le hle, readAll_write hbs, hread,
          List.take_succ_cons]
        simp only [hend]

/-- Of a stream cut after `k` bytes, in whatever pieces they arrive, exactly the frames are read
that lie before the cut. Then the reader meets a lost connection if the cut is inside a body, and
otherwise a clean end: not only between two frames, but also inside a header. -/
theorem readPieces_take {limit : Nat} {frames : List Frame}
    (hw : ∀ f ∈ frames, ∃ bs, f.write limit = .ok bs) {k : Nat}
    (hk : k ≤ (writeAll limit frames).2.length) {pieces : List (List UInt8)}
    (hp : pieces.flatten = (writeAll limit frames).2.take k) :
    ∃ n ≤ frames.length, boundary limit frames n ≤ k ∧
      (∀ m ≤ frames.length, boundary limit frames m ≤ k → m ≤ n) ∧
      readPieces limit pieces = (frames.take n,
        if k < boundary limit frames n + headerLength then none
        else some (.connectionLost "early eof")) := by
  obtain ⟨n, hn, hnk, hlast, hread⟩ := readAll_take hw hk
  refine ⟨n, hn, hnk, hlast, ?_⟩
  rw [readPieces_eq_readAll, hp, hread]
  by_cases hend : k < boundary limit frames n + headerLength
  · rw [if_pos hend, decide_eq_false (Nat.not_le.mpr hend)]
    rfl
  · rw [if_neg hend, decide_eq_true (Nat.not_lt.mp hend)]
    rfl

/-- Three bytes into the second of two frames the stream ends cleanly, although there is no
boundary, and five bytes into it the connection is lost. -/
theorem readPieces_cut_in_header :
    let f : Frame := ⟨1, .request "m" []⟩
    let g : Frame := ⟨2, .response (.ok [7])⟩
    let stream := (writeAll 64 [f, g]).2
    (∀ h ∈ [f, g], ∃ bs, h.write 64 = .ok bs) ∧ stream.length = 33 + 29 ∧
      (∀ m, boundary 64 [f, g] m ≠ 36) ∧
      readPieces 64 [stream.take 36] = ([f], none) ∧
      readPieces 64 [stream.take 38] = ([f], some (.connectionLost "early eof")) := by
  intro f g stream
  have hw : ∀ h ∈ [f, g], ∃ bs, h.write 64 = .ok bs := by
    intro h hh
    have hlt : ∀ h ∈ [f, g], h.encoding.length ≤ 64 := by decide +kernel
    exact ⟨_, by rw [write_eq (by decide), if_pos (hlt h hh)]⟩
  have hlength : stream.length = 33 + 29 := by decide +kernel
  have hone : boundary 64 [f, g] 1 = 33 := by decide +kernel
  have hboundary (m : Nat) : m = 0 ∧ boundary 64 [f, g] m = 0 ∨
      m = 1 ∧ boundary 64 [f, g] m = 33 ∨ boundary 64 [f, g] m = 62 := by
    match m with
    | 0 => exact .inl ⟨rfl, rfl⟩
    | 1 => exact .inr (.inl ⟨rfl, hone⟩)
    | m + 2 =>
      rw [boundary, List.take_of_length_le (by simp)]
      exact .inr (.inr hlength)
  have hcut {k : Nat} (hlo : 33 ≤ k) (hhi : k < 62) :
      readPieces 64 [stream.take k] =
        ([f], if k < 33 + headerLength then none else some (.connectionLost "early eof")) := by
    have hk : k ≤ stream.length := by omega
    have hpieces : [stream.take k].flatten = (writeAll 64 [f, g]).2.take k := by simp [stream]
    obtain ⟨n, -, hnk, hlast, hread⟩ := readPieces_take hw hk hpieces
    have hpos := hlast 1 (by decide) (hone.trans_le hlo)
    obtain rfl : n = 1 := by
      have hn := hboundary n
      omega
    rw [hread, hone]
    rfl
  refine ⟨hw, hlength, fun m => ?_, hcut (by decide) (by decide), hcut (by decide) (by decide)⟩
  have hm := hboundary m
  omega

end PathPolicy.Frame
