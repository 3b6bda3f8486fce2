import PathPolicy.Proofs.ClientMachine
import PathPolicy.Proofs.Frame

/-!
# Streams of frames

What was written frame after frame is read back in the same order, less the frames that were too
long to be written, and the stream then ends cleanly. A reader keeps what does not make a frame
yet, so it does not matter in which pieces the bytes arrive.
-/

namespace PathPolicy.Frame

/-- The body of a frame as it goes out behind its header. -/
def encoding (f : Frame) : List UInt8 := (Codec.frame.encode f).toOption.getD []

/-- What each of the frames comes to, written one after another, and the bytes on the stream. -/
def writeAll (limit : Nat) : List Frame → List (Except CallError Unit) × List UInt8
  | [] => ([], [])
  | f :: fs =>
    let (outcomes, bytes) := writeAll limit fs
    match f.write limit with
    | .ok written => (.ok () :: outcomes, written ++ bytes)
    | .error e => (.error e :: outcomes, bytes)

/-- A reader to which the bytes of a stream come in pieces. -/
structure Reader where
  frames : List Frame := []
  /-- The bytes that do not make a frame yet, or why reading has stopped. -/
  unread : Except CallError (List UInt8) := .ok []

def Reader.feed (limit : Nat) (r : Reader) (piece : List UInt8) : Reader :=
  match r.unread with
  | .error _ => r
  | .ok unread =>
    let (frames, unread) := readMany limit (unread ++ piece)
    ⟨r.frames ++ frames, unread⟩

def Reader.finish (limit : Nat) (r : Reader) : List Frame × StreamEnd :=
  match r.unread with
  | .error e => (r.frames, some e)
  | .ok unread =>
    match read limit unread with
    | .more inBody => (r.frames, endOf inBody)
    | _ => (r.frames, none)

def readPieces (limit : Nat) (pieces : List (List UInt8)) : List Frame × StreamEnd :=
  (pieces.foldl (Reader.feed limit) {}).finish limit

/-! ### Writing -/

lemma encode_eq (f : Frame) : Codec.frame.encode f = .ok f.encoding := by
  obtain ⟨-, body, hb, -⟩ := Codec.exists_takes_frame f
  rw [encoding, hb]
  rfl

lemma write_eq {limit : Nat} (hl : limit < headerBound) (f : Frame) :
    f.write limit =
      if f.encoding.length ≤ limit then .ok (header f.encoding.length ++ f.encoding)
      else .error (.frameTooLarge f.encoding.length limit) := by
  simp only [write, Codec.encodeAs, encode_eq, Codec.ok_bind]
  by_cases hf : f.encoding.length ≤ limit
  · have hbound : f.encoding.length < headerBound := Nat.lt_of_le_of_lt hf hl
    have hno : ¬(decide (f.encoding.length > limit) || decide (f.encoding.length ≥ headerBound)) := by
      simpa using ⟨hf, hbound⟩
    rw [if_pos hf, if_neg hno]
    rfl
  · have hyes : decide (f.encoding.length > limit) || decide (f.encoding.length ≥ headerBound) := by
      simp [Nat.not_le.mp hf]
    rw [if_neg hf, if_pos hyes]
    rfl

lemma writeAll_eq {limit : Nat} (hl : limit < headerBound) (frames : List Frame) :
    writeAll limit frames =
      (frames.map fun f =>
          if f.encoding.length ≤ limit then .ok ()
          else .error (.frameTooLarge f.encoding.length limit),
        (frames.filter fun f => f.encoding.length ≤ limit).flatMap fun f =>
          header f.encoding.length ++ f.encoding) := by
  induction frames with
  | nil => rfl
  | cons f frames ih =>
    rw [writeAll, ih, write_eq hl f]
    by_cases hf : f.encoding.length ≤ limit <;> simp [hf]

lemma writeAll_append_singleton {limit : Nat} {f : Frame} {bs : List UInt8}
    (h : f.write limit = .ok bs) (frames : List Frame) :
    writeAll limit (frames ++ [f]) =
      ((writeAll limit frames).1 ++ [.ok ()], (writeAll limit frames).2 ++ bs) := by
  induction frames with
  | nil => simp [writeAll, h]
  | cons g frames ih =>
    rw [List.cons_append, writeAll, ih, writeAll]
    cases g.write limit <;> simp

/-! ### Reading in pieces -/

lemma takeExact_append_of_eq_some {n : Nat} {input front rest : List UInt8}
    (h : Codec.takeExact n input = some (front, rest)) (later : List UInt8) :
    Codec.takeExact n (input ++ later) = some (front, rest ++ later) := by
  obtain ⟨rfl, rfl⟩ := takeExact_length h
  rw [List.append_assoc]
  exact Codec.takeExact_append front (rest ++ later)

/-- What a reader has found does not change with the bytes behind it. -/
def Read.before (later : List UInt8) : Read → Read
  | .frame f rest => .frame f (rest ++ later)
  | r => r

lemma read_append {limit : Nat} {input : List UInt8} (h : ∀ b, read limit input ≠ .more b)
    (later : List UInt8) : read limit (input ++ later) = (read limit input).before later := by
  unfold read at h ⊢
  cases hhead : Codec.takeExact headerLength input with
  | none =>
    rw [hhead] at h
    exact absurd rfl (h false)
  | some split =>
    obtain ⟨head, rest⟩ := split
    rw [hhead] at h
    rw [takeExact_append_of_eq_some hhead]
    dsimp only at h ⊢
    by_cases hn : headerValue head > limit
    · rw [if_pos hn, if_pos hn]
      rfl
    · rw [if_neg hn] at h
      rw [if_neg hn, if_neg hn]
      cases hbody : Codec.takeExact (headerValue head) rest with
      | none =>
        rw [hbody] at h
        exact absurd rfl (h true)
      | some split =>
        obtain ⟨body, rest⟩ := split
        rw [takeExact_append_of_eq_some hbody]
        dsimp only
        cases Codec.decodeAs "frame" Codec.frame body <;> rfl

lemma readMany_of_more {limit : Nat} {input : List UInt8} {b : Bool}
    (h : read limit input = .more b) : readMany limit input = ([], .ok input) := by
  rw [readMany]
  split <;> simp_all

lemma readMany_of_failed {limit : Nat} {input : List UInt8} {e : CallError}
    (h : read limit input = .failed e) : readMany limit input = ([], .error e) := by
  rw [readMany]
  split <;> simp_all

lemma readMany_of_frame {limit : Nat} {input rest : List UInt8} {f : Frame}
    (h : read limit input = .frame f rest) :
    readMany limit input = (f :: (readMany limit rest).1, (readMany limit rest).2) := by
  rw [readMany]
  split <;> simp_all

/-- Feeding two pieces one after the other is feeding both at once. -/
lemma Reader.feed_append (limit : Nat) (r : Reader) (a b : List UInt8) :
    (r.feed limit a).feed limit b = r.feed limit (a ++ b) := by
  obtain ⟨before, _ | unread⟩ := r
  · rfl
  · simp only [Reader.feed, ← List.append_assoc]
    generalize unread ++ a = input
    -- On the bytes at hand: each frame found there is found again with more bytes behind.
    induction hn : input.length using Nat.strongRecOn generalizing input before with
    | ind n ih =>
      cases hr : read limit input with
      | more inBody => simp [readMany_of_more hr]
      | failed e =>
        have hr' := read_append (show ∀ b, read limit input ≠ .more b by simp [hr]) b
        rw [hr] at hr'
        simp [readMany_of_failed hr, readMany_of_failed hr']
      | frame f rest =>
        have hr' := read_append (show ∀ b, read limit input ≠ .more b by simp [hr]) b
        rw [hr] at hr'
        have hrest := ih rest.length (hn ▸ rest_lt_of_read hr) (before ++ [f]) rest rfl
        simpa [readMany_of_frame hr, readMany_of_frame hr'] using hrest

lemma readMany_append_of_ok {limit : Nat} {a unread : List UInt8} {frames : List Frame}
    (h : readMany limit a = (frames, .ok unread)) (b : List UInt8) :
    readMany limit (a ++ b) =
      (frames ++ (readMany limit (unread ++ b)).1, (readMany limit (unread ++ b)).2) := by
  have hfeed := Reader.feed_append limit {} a b
  simp only [Reader.feed, List.nil_append, h] at hfeed
  obtain ⟨hframes, hunread⟩ := Reader.mk.inj hfeed
  exact Prod.ext hframes.symm hunread.symm

lemma readMany_append_of_error {limit : Nat} {a : List UInt8} {frames : List Frame}
    {e : CallError} (h : readMany limit a = (frames, .error e)) (b : List UInt8) :
    readMany limit (a ++ b) = (frames, .error e) := by
  have hfeed := Reader.feed_append limit {} a b
  simp only [Reader.feed, List.nil_append, h] at hfeed
  obtain ⟨hframes, hunread⟩ := Reader.mk.inj hfeed
  exact Prod.ext hframes.symm hunread.symm

theorem readPieces_eq_readAll (limit : Nat) (pieces : List (List UInt8)) :
    readPieces limit pieces = readAll limit pieces.flatten := by
  have hfeed (r : Reader) (piece : List UInt8) (pieces : List (List UInt8)) :
      pieces.foldl (Reader.feed limit) (r.feed limit piece) =
        r.feed limit (piece ++ pieces.flatten) := by
    induction pieces generalizing piece with
    | nil => simp
    | cons next pieces ih =>
      rw [List.foldl_cons, Reader.feed_append, ih, List.flatten_cons, List.append_assoc]
  have hstart : ({} : Reader).feed limit [] = {} := by
    simp [Reader.feed, readMany_nil]
  rw [readPieces, ← hstart, hfeed, readAll]
  simp only [Reader.feed, Reader.finish, List.nil_append]
  rcases readMany limit pieces.flatten with ⟨frames, e | unread⟩ <;> rfl

/-! ### There and back -/

lemma readMany_writeAll (limit : Nat) (frames : List Frame) :
    readMany limit (writeAll limit frames).2 =
      (frames.filter fun f => (f.write limit).isOk, .ok []) := by
  induction frames with
  | nil => exact readMany_nil limit
  | cons f frames ih =>
    rw [writeAll, List.filter_cons]
    cases hw : f.write limit with
    | error e => simpa [Except.isOk, Except.toBool] using ih
    | ok bytes => simp [Except.isOk, Except.toBool, readMany_write hw, ih]

/-- Frames written one after another are read back in order, whatever the pieces in which their
bytes arrive, except for those above the limit. These are refused and leave nothing behind. -/
theorem readPieces_writeAll {limit : Nat} (hl : limit < headerBound) (frames : List Frame)
    {pieces : List (List UInt8)} (hp : pieces.flatten = (writeAll limit frames).2) :
    (writeAll limit frames).1 = (frames.map fun f =>
        if f.encoding.length ≤ limit then .ok ()
        else .error (.frameTooLarge f.encoding.length limit)) ∧
      (writeAll limit frames).2 = (frames.filter fun f => f.encoding.length ≤ limit).flatMap
        (fun f => header f.encoding.length ++ f.encoding) ∧
      readPieces limit pieces = (frames.filter fun f => f.encoding.length ≤ limit, none) := by
  refine ⟨by rw [writeAll_eq hl], by rw [writeAll_eq hl], ?_⟩
  have hfits : (fun f : Frame => (f.write limit).isOk) =
      fun f => decide (f.encoding.length ≤ limit) := by
    funext f
    rw [write_eq hl]
    split <;> simp_all [Except.isOk, Except.toBool]
  have hread := readMany_writeAll limit frames
  rw [hfits] at hread
  rw [readPieces_eq_readAll, hp, readAll, hread]
  rfl

/-- A frame at the limit, one a byte above it and a response, arriving byte by byte. -/
theorem readPieces_at_limit :
    let fits : Frame := ⟨1, .request "m" [1, 2]⟩
    let tooLong : Frame := ⟨2, .request "m" [1, 2, 3]⟩
    let reply : Frame := ⟨3, .response (.error ⟨.policy, "no"⟩)⟩
    let stream := writeAll 31 [fits, tooLong, reply]
    31 < headerBound ∧ (stream.2.map fun b => [b]).flatten = stream.2 ∧
      stream.1 = [.ok (), .error (.frameTooLarge 32 31), .ok ()] ∧
      stream.2.length = 4 + 31 + (4 + 30) ∧
      readPieces 31 (stream.2.map fun b => [b]) = ([fits, reply], none) := by
  intro fits tooLong reply stream
  have hbytewise : (stream.2.map fun b => [b]).flatten = stream.2 := by
    rw [← List.flatMap_def, List.flatMap_singleton']
  have hlengths : [fits, tooLong, reply].map (fun f => f.encoding.length) = [31, 32, 30] := by
    decide +kernel
  obtain ⟨houtcomes, hbytes, hread⟩ := readPieces_writeAll (by decide) [fits, tooLong, reply] hbytewise
  simp only [List.map_cons, List.map_nil, List.cons.injEq, and_true] at hlengths
  obtain ⟨h1, h2, h3⟩ := hlengths
  refine ⟨by decide, hbytewise, ?_, ?_, ?_⟩
  · rw [houtcomes]
    simp [h1, h2, h3]
  · rw [hbytes]
    simp [h1, h2, h3, header]
    rfl
  · rw [hread]
    simp [h1, h2, h3]

end PathPolicy.Frame

namespace PathPolicy.Call.Client

/-! ### The client's end of a stream -/

lemma reading_route (c : Client) (f : Frame) : (c.route f).reading = c.reading := by
  unfold route
  split
  · rfl
  · unfold deliver
    split <;> rfl

lemma foldl_route (frames : List Frame) (c : Client) :
    (frames.foldl route c).reading = c.reading ∧
      (frames.foldl route c).frameLimit = c.frameLimit := by
  induction frames generalizing c with
  | nil => exact ⟨rfl, rfl⟩
  | cons f frames ih =>
    obtain ⟨hr, hl⟩ := ih (c.route f)
    exact ⟨hr.trans (c.reading_route f), hl.trans (c.alike_route f).frameLimit⟩

def keep (c : Client) (unread : List UInt8) : Client := { c with unread }

lemma deliver_keep (c : Client) (id : UInt64) (reply : Reply) (unread : List UInt8) :
    (c.keep unread).deliver id reply = (c.deliver id reply).keep unread := by
  have hroutes : (c.keep unread).routes = c.routes := rfl
  unfold deliver
  rw [hroutes]
  split <;> rfl

lemma route_keep (c : Client) (f : Frame) (unread : List UInt8) :
    (c.keep unread).route f = (c.route f).keep unread := by
  unfold route
  split
  · rfl
  · exact deliver_keep c _ _ unread

lemma foldl_keep {α : Type} {step : Client → α → Client} {unread : List UInt8}
    (h : ∀ c a, step (c.keep unread) a = (step c a).keep unread) (as : List α) (c : Client) :
    as.foldl step (c.keep unread) = (as.foldl step c).keep unread := by
  induction as generalizing c with
  | nil => rfl
  | cons a as ih => rw [List.foldl_cons, h, ih, List.foldl_cons]

lemma failReading_keep (c : Client) (reason : String) (unread : List UInt8) :
    (c.keep unread).failReading reason = c.failReading reason := by
  have hone (c : Client) (id : UInt64) : failOne (c.keep unread) id = (failOne c id).keep unread :=
    deliver_keep c id (.error c.lostError) unread
  have hfail : (c.keep unread).failAll reason = (c.failAll reason).keep unread :=
    foldl_keep hone c.routes (c.markFailed reason)
  rw [failReading, hfail]
  rfl

/-- The client once its reader has come to `r`. -/
def atReader (c : Client) (r : Frame.Reader) : Client :=
  match r.unread with
  | .ok unread => (r.frames.foldl route c).keep unread
  | .error e => (r.frames.foldl route c).failReading e.message

lemma receive_eq (c : Client) (hr : c.reading) (piece : List UInt8) :
    c.receive piece =
      c.atReader (({ unread := .ok c.unread } : Frame.Reader).feed c.frameLimit piece) := by
  simp only [receive, hr, if_true, Frame.Reader.feed, List.nil_append]
  rcases Frame.readMany c.frameLimit (c.unread ++ piece) with ⟨frames, e | unread⟩ <;> rfl

lemma receive_atReader (c : Client) (hr : c.reading) (r : Frame.Reader) (piece : List UInt8) :
    (c.atReader r).receive piece = c.atReader (r.feed c.frameLimit piece) := by
  obtain ⟨frames, e | unread⟩ := r
  · have hstopped : ((frames.foldl route c).failReading e.message).reading = false := rfl
    simp [atReader, Frame.Reader.feed, receive, hstopped]
  · obtain ⟨hreading, hlimit⟩ := foldl_route frames c
    have hkept : ((frames.foldl route c).keep unread).frameLimit = c.frameLimit := hlimit
    have hunread : ((frames.foldl route c).keep unread).unread = unread := rfl
    have hroute (more : List Frame) : more.foldl route ((frames.foldl route c).keep unread) =
        ((frames ++ more).foldl route c).keep unread := by
      rw [List.foldl_append]
      exact foldl_keep (fun c f => route_keep c f unread) more _
    rw [atReader, receive_eq _ (show ((frames.foldl route c).keep unread).reading from
      hreading.trans hr), hkept, hunread]
    simp only [Frame.Reader.feed, List.nil_append]
    rcases Frame.readMany c.frameLimit (unread ++ piece) with ⟨more, e | rest⟩
    · simp only [atReader, hroute, failReading_keep]
    · simp only [atReader, hroute]
      rfl

/-- A client comes to the same whether two pieces of its stream arrive apart or in one. -/
theorem receive_append (c : Client) (a b : List UInt8) :
    (c.receive a).receive b = c.receive (a ++ b) := by
  by_cases hr : c.reading
  · rw [c.receive_eq hr a, c.receive_atReader hr, Frame.Reader.feed_append, ← c.receive_eq hr]
  · simp [receive, hr]

end PathPolicy.Call.Client
