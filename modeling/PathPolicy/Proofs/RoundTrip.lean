import PathPolicy.Proofs.Lossless

/-!
# Records there and back

Everything that crosses a connection is read back as it was written, whatever follows it, and the
one thing that keeps a value from being written is an instant before the epoch somewhere in it.
-/

namespace PathPolicy

/-! ### The instants in a value -/

def Path.instants (p : Path) : List Instant := [p.expiry]

def Remote.SelectorMessage.instants (m : Remote.SelectorMessage) : List Instant :=
  (m.paths.getD []).flatMap fun r => r.path.instants

def Telemetry.ConnectionEvent.instants : Telemetry.ConnectionEvent → List Instant
  | .setLossTimer _ _ t => [t]
  | _ => []

def Remote.TracerMessage.instants (m : Remote.TracerMessage) : List Instant := m.time.toList

namespace Codec

variable {α β : Type}

/-- A value can be written just when no instant in it is before the epoch, and what was written is
read back from the front of any bytes. -/
def RoundTrips (c : Codec α) (instants : α → List Instant) : Prop :=
  ∀ (what : String) (v : α),
    ((∃ bs, c.encodeAs what v = .ok bs) ↔ ∀ t ∈ instants v, t.isBeforeEpoch = false) ∧
    ∀ bs, c.encodeAs what v = .ok bs → bs.length < UInt64.size →
      ∀ rest, c.decodeAs what (bs ++ rest) = .ok v

lemma encodeAs_eq_ok {what : String} {c : Codec α} {v : α} {bs : List UInt8} :
    c.encodeAs what v = .ok bs ↔ c.encode v = .ok bs := by
  unfold encodeAs
  cases c.encode v <;> simp

lemma decodeAs_eq_ok {what : String} {c : Codec α} {v : α} {input : List UInt8} :
    c.decodeAs what input = .ok v ↔ ∃ rest, c.decode input = .ok (v, rest) := by
  unfold decodeAs
  rcases c.decode input with e | ⟨w, rest⟩ <;> simp

lemma Lossless.roundTrips (c : Codec α) [Lossless c] {instants : α → List Instant}
    (h : ∀ v, c.Encodes v ↔ ∀ t ∈ instants v, t.isBeforeEpoch = false) :
    c.RoundTrips instants := by
  refine fun what v => ⟨?_, fun bs hb hl rest => ?_⟩
  · simp only [encodeAs_eq_ok]
    exact h v
  · exact decodeAs_eq_ok.mpr ⟨rest, Lossless.readsBack v bs rest (encodeAs_eq_ok.mp hb) hl⟩

lemma Total.roundTrips (c : Codec α) [Total c] [Lossless c] : c.RoundTrips fun _ => [] :=
  Lossless.roundTrips c fun v => by simp

/-! ### Paths, replies and frames -/

instance : Total remoteAddress := inferInstanceAs (Total (Codec.map ..))

instance : Total fingerprint := inferInstanceAs (Total (Codec.map ..))

instance : Total network := inferInstanceAs (Total (Codec.map ..))

instance : Total pathHandle := inferInstanceAs (Total (Codec.map ..))

instance : Total interface := inferInstanceAs (Total (Codec.map ..))

instance : Total pathMetadata := ⟨fun m => (exists_takes_pathMetadata m).elim fun _ h => h.encodes⟩

instance : Total pathReply := inferInstanceAs (Total (Codec.map ..))

instance : Total methodError := inferInstanceAs (Total (Codec.map ..))

instance : Total frame := ⟨fun f => (exists_takes_frame f).elim fun _ h => h.encodes⟩

instance : Lossless path := ⟨readsBack_path⟩

instance : Lossless selectorMessage := ⟨readsBack_selectorMessage⟩

instance : Lossless pathReply := ⟨readsBack_pathReply⟩

instance : Lossless methodError := ⟨readsBack_methodError⟩

instance : Lossless frame := ⟨readsBack_frame⟩

lemma encodes_path {p : Path} : path.Encodes p ↔ ∀ t ∈ p.instants, t.isBeforeEpoch = false := by
  simp [path, Path.instants]

lemma encodes_selectorMessage {m : Remote.SelectorMessage} :
    selectorMessage.Encodes m ↔ ∀ t ∈ m.instants, t.isBeforeEpoch = false := by
  simp only [selectorMessage, pathRecord, Remote.SelectorMessage.instants, encodes_map,
    encodes_pair, encodes_option, encodes_list, encodes_path, encodes_of_total, true_and, and_true]
  cases m.paths <;> grind

lemma encodes_tracerMessage {m : Remote.TracerMessage} :
    tracerMessage.Encodes m ↔ ∀ t ∈ m.instants, t.isBeforeEpoch = false := by
  simp [tracerMessage, Remote.TracerMessage.instants]

/-! ### Events -/

open Telemetry

/-- Each event is written as what its variant holds. -/
lemma exists_contents (e : ConnectionEvent) :
    ∃ (γ : Type) (project : ConnectionEvent → Option γ) (inject : γ → ConnectionEvent)
      (c : Codec γ) (w : γ),
      eventBody (EventKind.all.idxOf e.kind) = variant project inject c ∧
      project e = some w ∧ inject w = e ∧ Lossless c ∧
      (c.Encodes w ↔ ∀ t ∈ e.instants, t.isBeforeEpoch = false) := by
  cases e with
  | lossTimerCanceled =>
    exact ⟨Unit, fun _ => some (), fun _ => .lossTimerCanceled, unit, (), rfl, rfl, rfl,
      inferInstance, by simp [ConnectionEvent.instants]⟩
  | close =>
    exact ⟨Unit, fun _ => some (), fun _ => .close, unit, (), rfl, rfl, rfl,
      inferInstance, by simp [ConnectionEvent.instants]⟩
  | _ =>
    simp only [eventBody, ConnectionEvent.kind, EventKind.all, ne_eq, reduceCtorEq,
      not_false_eq_true, List.idxOf_cons_ne, List.idxOf_cons_self, Nat.succ_eq_add_one, zero_add,
      Nat.reduceAdd]
    exact ⟨_, _, _, _, _, rfl, rfl, rfl, inferInstance, by simp [ConnectionEvent.instants]⟩

lemma encodes_connectionEvent {e : ConnectionEvent} :
    connectionEvent.Encodes e ↔ ∀ t ∈ e.instants, t.isBeforeEpoch = false := by
  obtain ⟨γ, project, inject, c, w, hbody, hp, -, -, hw⟩ := exists_contents e
  have hv : (eventBody (EventKind.all.idxOf e.kind)).Encodes e ↔ c.Encodes w := by
    rw [hbody]
    simp only [Encodes, variant, hp]
  rw [← hw, ← hv]
  simp only [Encodes, connectionEvent, tagged, encode_u32, ok_bind, bind_eq_ok]
  constructor
  · rintro ⟨-, xs, hx, -⟩
    exact ⟨xs, hx⟩
  · rintro ⟨xs, hx⟩
    exact ⟨_, xs, hx, rfl⟩

instance : Lossless connectionEvent where
  readsBack e := by
    obtain ⟨γ, project, inject, c, w, hbody, hp, hi, hc, -⟩ := exists_contents e
    refine ReadsBack.tagged (by decide) (List.idxOf_lt_length_iff.mpr (EventKind.mem_all e.kind)) ?_
    rw [hbody]
    exact ReadsBack.variant hp hi (hc.readsBack w)

/-! ### The wire format -/

/-- Each record of the wire format is read back as it was written, and can be written unless there
is an instant before the epoch in it. -/
theorem records_roundTrip :
    selectorMessage.RoundTrips Remote.SelectorMessage.instants ∧
    pathReply.RoundTrips (fun _ => []) ∧
    tracerMessage.RoundTrips Remote.TracerMessage.instants ∧
    connectionEvent.RoundTrips ConnectionEvent.instants ∧
    path.RoundTrips Path.instants ∧
    methodError.RoundTrips (fun _ => []) ∧
    frame.RoundTrips (fun _ => []) :=
  ⟨Lossless.roundTrips _ fun _ => encodes_selectorMessage, Total.roundTrips _,
    Lossless.roundTrips _ fun _ => encodes_tracerMessage,
    Lossless.roundTrips _ fun _ => encodes_connectionEvent,
    Lossless.roundTrips _ fun _ => encodes_path, Total.roundTrips _, Total.roundTrips _⟩

/-- A message with an instant at the epoch is read back with two bytes behind it, and a nanosecond
earlier it cannot be written. -/
theorem tracerMessage_at_epoch :
    let m (t : Instant) : Remote.TracerMessage :=
      { tracingId := some ⟨7⟩, odcid := some ⟨[1, 2]⟩, clientVersions := some [⟨1⟩],
        errorMsg := some "é", packetNumber := some (-1), timerType := some .pto, time := some t }
    let written := (tracerMessage.encode (m .epoch)).toOption.getD []
    tracerMessage.encodeAs "request" (m .epoch) = .ok written ∧ written.length = 97 ∧
      tracerMessage.decodeAs "request" (written ++ [0, 255]) = .ok (m .epoch) ∧
      ¬∃ bs, tracerMessage.encodeAs "request" (m ⟨-1, 999999999⟩) = .ok bs := by
  intro m written
  have hwritten : tracerMessage.encode (m .epoch) = .ok written := by decide +kernel
  have hlength : written.length = 97 := by decide +kernel
  have hok : tracerMessage.encodeAs "request" (m .epoch) = .ok written :=
    encodeAs_eq_ok.mpr hwritten
  obtain ⟨-, -, hroundTrips, -⟩ := records_roundTrip
  refine ⟨hok, hlength, ?_, ?_⟩
  · exact (hroundTrips "request" (m .epoch)).2 written hok (by rw [hlength]; decide) [0, 255]
  · rw [(hroundTrips "request" (m ⟨-1, 999999999⟩)).1]
    decide +kernel

end Codec

end PathPolicy
