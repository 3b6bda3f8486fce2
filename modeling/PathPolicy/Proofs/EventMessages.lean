import PathPolicy.Proofs.RequiredFields

/-!
# Events in messages

A message tells an event if it has the fields that events of the kind require. Which event it tells
depends on these fields and on the optional ones of the kind, and on nothing else in the message.
The message made of an event has all that is required and tells the event as it was.
-/

namespace PathPolicy.Remote

open Telemetry

/-! ### What a field holds -/

def MessageField.Value : MessageField → Type
  | .tracingId => TracingId
  | .perspective => Perspective
  | .odcid | .srcConnId | .destConnId => ConnectionId
  | .localAddress | .remote | .errorMsg | .key | .value => String
  | .chosen => VersionNumber
  | .versions | .clientVersions | .serverVersions => List VersionNumber
  | .parameters => TransportParameters
  | .byteCount | .cwnd | .packets | .generation => UInt64
  | .rtt => RttStats
  | .header => PacketHeader
  | .extendedHeader => ExtendedHeader
  | .ackFrame => AckFrame
  | .packetType => PacketType
  | .dropReason => PacketDropReason
  | .lossReason => PacketLossReason
  | .encryptionLevel => EncryptionLevel
  | .packetNumber => Int64
  | .congestionState => CongestionState
  | .ptoCount => UInt32
  | .flag => Bool
  | .timerType => TimerType
  | .time => Instant

namespace TracerMessage

def get (m : TracerMessage) : (f : MessageField) → Option f.Value
  | .tracingId => m.tracingId
  | .perspective => m.perspective
  | .odcid => m.odcid
  | .localAddress => m.localAddress
  | .remote => m.remote
  | .srcConnId => m.srcConnId
  | .destConnId => m.destConnId
  | .chosen => m.chosen
  | .versions => m.versions
  | .clientVersions => m.clientVersions
  | .serverVersions => m.serverVersions
  | .errorMsg => m.errorMsg
  | .key => m.key
  | .value => m.value
  | .parameters => m.parameters
  | .byteCount => m.byteCount
  | .cwnd => m.cwnd
  | .packets => m.packets
  | .rtt => m.rtt
  | .header => m.header
  | .extendedHeader => m.extendedHeader
  | .ackFrame => m.ackFrame
  | .packetType => m.packetType
  | .dropReason => m.dropReason
  | .lossReason => m.lossReason
  | .encryptionLevel => m.encryptionLevel
  | .packetNumber => m.packetNumber
  | .congestionState => m.congestionState
  | .ptoCount => m.ptoCount
  | .generation => m.generation
  | .flag => m.flag
  | .timerType => m.timerType
  | .time => m.time

/-- The messages hold the same in the fields. -/
def AgreeOn (fields : List MessageField) (m m' : TracerMessage) : Prop :=
  ∀ f ∈ fields, m.get f = m'.get f

/-- The fields that an event of the kind is rebuilt with if they are there. -/
def optionalFields : EventKind → List MessageField
  | .negotiatedVersion => [.clientVersions, .serverVersions]
  | .closedConnection => [.errorMsg]
  | .sentPacket => [.ackFrame]
  | .receivedVersionNegotiationPacket => [.versions]
  | .updatedMetrics => [.rtt]
  | _ => []

/-- Whatever the computation answers has the property. -/
def Answers {α : Type} (P : α → Prop) (x : Except MethodError α) : Prop := ∀ a, x = .ok a → P a

lemma answers_pure {α : Type} {P : α → Prop} {a : α} (h : P a) : Answers P (pure a) := by
  rintro _ ⟨⟩
  exact h

lemma Answers.need {α β : Type} {P : β → Prop} {method field : String} {value : Option α}
    {k : α → Except MethodError β} (hk : ∀ a, Answers P (k a)) :
    Answers P (MethodError.required method field value >>= k) := by
  cases value with
  | none => rintro _ ⟨⟩
  | some a => exact hk a

lemma answers_toEvent? (m : TracerMessage) (k : EventKind) :
    Answers (fun e => e.kind = k) (m.toEvent? k) := by
  cases k <;> repeat' first | exact answers_pure rfl | refine Answers.need fun _ => ?_

/-- Rebuilding looks at the required and the optional fields only. -/
lemma toEvent?_congr {k : EventKind} {m m' : TracerMessage}
    (h : AgreeOn (requiredFields k ++ optionalFields k) m m') : m.toEvent? k = m'.toEvent? k := by
  cases k <;>
    simp only [AgreeOn, requiredFields, optionalFields, List.append_nil, List.cons_append,
      List.nil_append, List.forall_mem_cons, List.not_mem_nil, get] at h <;>
    simp only [toEvent?, h]

/-- An event is rebuilt from its message as it was. -/
lemma toEvent?_ofEvent (id : TracingId) (e : ConnectionEvent) :
    (ofEvent id e).toEvent? e.kind = .ok e := by
  cases e <;> rfl

lemma tracingId_ofEvent (id : TracingId) (e : ConnectionEvent) :
    (ofEvent id e).tracingId = some id := by
  cases e <;> rfl

/-- A message made of an event is under the connection's id, has all that events of the kind
require and tells the event as it was. -/
theorem ofEvent_loses_nothing (id : TracingId) (e : ConnectionEvent) :
    (ofEvent id e).tracingId = some id ∧ (requiredFields e.kind).all (ofEvent id e).has ∧
      (ofEvent id e).toEvent? e.kind = .ok e := by
  refine ⟨tracingId_ofEvent id e, ?_, toEvent?_ofEvent id e⟩
  rw [List.all_eq_true]
  exact ((ofEvent id e).checks_toEvent? e.kind).exists_eq_ok_iff.mp ⟨e, toEvent?_ofEvent id e⟩

/-- A message tells an event of a kind just when no required field is absent, and otherwise fails
with the first that is. The event is of the kind, and messages that agree on the required and the
optional fields of the kind tell the same. -/
theorem toEvent?_enforces_requiredFields (m : TracerMessage) (k : EventKind) :
    ((∃ e, m.toEvent? k = .ok e) ↔ ∀ f ∈ requiredFields k, m.has f) ∧
    (∀ e, m.toEvent? k = .error e ↔
      ∃ before f after, requiredFields k = before ++ f :: after ∧ (∀ g ∈ before, m.has g) ∧
        ¬m.has f ∧
        e = ⟨.missingField, methodFor k ++ ": missing required field `" ++ f.name ++ "`"⟩) ∧
    (∀ e, m.toEvent? k = .ok e → e.kind = k) ∧
    ∀ m', AgreeOn (requiredFields k ++ optionalFields k) m m' → m'.toEvent? k = m.toEvent? k :=
  ⟨(m.checks_toEvent? k).exists_eq_ok_iff,
    by simpa only [MethodError.missingField_eq] using (m.checks_toEvent? k).eq_error_iff,
    m.answers_toEvent? k, fun _ h => (toEvent?_congr h).symm⟩

/-- Metrics are told whatever else the message holds. Of two fields absent the first is named. -/
theorem toEvent?_enforces_requiredFields_metrics :
    let m : TracerMessage := { cwnd := some 10, byteCount := some 20, packets := some 3 }
    let m' : TracerMessage := { m with tracingId := some ⟨7⟩, key := some "k", flag := some true }
    let partly : TracerMessage := { packets := some 3, cwnd := some 10, time := some .epoch }
    (∀ f ∈ requiredFields .updatedMetrics, m.has f) ∧
      m.toEvent? .updatedMetrics = .ok (.updatedMetrics none 10 20 3) ∧
      (ConnectionEvent.updatedMetrics none 10 20 3).kind = .updatedMetrics ∧
      AgreeOn (requiredFields .updatedMetrics ++ optionalFields .updatedMetrics) m m' ∧
      m'.toEvent? .updatedMetrics = m.toEvent? .updatedMetrics ∧
      partly.toEvent? .updatedMetrics =
        .error ⟨.missingField,
          "ConnectionTracer.UpdatedMetrics: missing required field `byte_count`"⟩ := by
  intro m m' partly
  obtain ⟨-, -, hkind, hsame⟩ := toEvent?_enforces_requiredFields m .updatedMetrics
  have htold : m.toEvent? .updatedMetrics = .ok (.updatedMetrics none 10 20 3) := rfl
  have hagree :
      AgreeOn (requiredFields .updatedMetrics ++ optionalFields .updatedMetrics) m m' := by
    intro f hf
    cases f <;> first | rfl | exact absurd hf (by decide)
  refine ⟨by decide, htold, hkind _ htold, hagree, hsame m' hagree, ?_⟩
  refine ((toEvent?_enforces_requiredFields partly .updatedMetrics).2.1 _).mpr ?_
  exact ⟨[.cwnd], .byteCount, [.packets], rfl, by decide, by decide, rfl⟩

end TracerMessage

end PathPolicy.Remote
