import PathPolicy.Proofs.RoundTrip
import PathPolicy.Proofs.ScriptContainment
import PathPolicy.Script.Program
import PathPolicy.Script.Tracer

/-!
# Events that no script hears

A script that does not define the entry point of an event is not told of it, and the tracer answers
that all is well. But the event is made a value of the script before the entry point is looked for,
and an instant before the epoch is no such value. So setting a timer to one fails, heard or not, and
nothing else does.
-/

namespace PathPolicy

/-! ### The instants in a document -/

mutual

def Document.instants : Document → List Instant
  | .instant t => [t]
  | .list items => Document.itemInstants items
  | .record fields => Document.fieldInstants fields
  | .absent | .boolean _ | .number _ | .text _ => []

def Document.itemInstants : List Document → List Instant
  | [] => []
  | d :: ds => d.instants ++ Document.itemInstants ds

def Document.fieldInstants : List (String × Document) → List Instant
  | [] => []
  | (_, d) :: ds => d.instants ++ Document.fieldInstants ds

end

namespace Script.Value

mutual

/-- What keeps a document from a script is an instant before the epoch somewhere in it. -/
lemma exists_ofDocument_iff : (d : Document) →
    ((∃ v, ofDocument d = .ok v) ↔ ∀ t ∈ d.instants, t.isBeforeEpoch = false)
  | .absent | .boolean _ | .number _ | .text _ => by simp [ofDocument, Document.instants]
  | .instant t => by
    simp only [ofDocument, Document.instants, List.mem_singleton, forall_eq]
    cases t.isBeforeEpoch <;> simp
  | .list items => by
    rw [ofDocument, Document.instants, ← exists_ofItems_iff items]
    cases ofItems items <;> simp [bind, Except.bind, pure, Except.pure]
  | .record fields => by
    rw [ofDocument, Document.instants, ← exists_ofFields_iff fields]
    cases ofFields fields <;> simp [bind, Except.bind, pure, Except.pure]

lemma exists_ofItems_iff : (items : List Document) →
    ((∃ vs, ofItems items = .ok vs) ↔ ∀ t ∈ Document.itemInstants items, t.isBeforeEpoch = false)
  | [] => by simp [ofItems, Document.itemInstants]
  | d :: ds => by
    simp only [Document.itemInstants, List.forall_mem_append, ← exists_ofDocument_iff d,
      ← exists_ofItems_iff ds, ofItems]
    cases ofDocument d <;> cases ofItems ds <;> simp [bind, Except.bind, pure, Except.pure]

lemma exists_ofFields_iff : (fields : List (String × Document)) →
    ((∃ vs, ofFields fields = .ok vs) ↔
      ∀ t ∈ Document.fieldInstants fields, t.isBeforeEpoch = false)
  | [] => by simp [ofFields, Document.fieldInstants]
  | (k, d) :: ds => by
    simp only [Document.fieldInstants, List.forall_mem_append, ← exists_ofDocument_iff d,
      ← exists_ofFields_iff ds, ofFields]
    cases ofDocument d <;> cases ofFields ds <;> simp [bind, Except.bind, pure, Except.pure]

end

end Script.Value

/-! ### Types without instants -/

/-- No value of the type shows an instant. -/
class Timeless (α : Type) [Described α] : Prop where
  instants_describe : ∀ a : α, (describe a).instants = []

export Timeless (instants_describe)

attribute [simp] instants_describe

lemma Document.itemInstants_eq (ds : List Document) :
    itemInstants ds = ds.flatMap instants := by
  induction ds with
  | nil => rfl
  | cons d ds ih => rw [itemInstants, ih, List.flatMap_cons]

lemma Document.fieldInstants_eq (fields : List (String × Document)) :
    fieldInstants fields = fields.flatMap fun f => f.2.instants := by
  induction fields with
  | nil => rfl
  | cons f fields ih => rw [fieldInstants, ih, List.flatMap_cons]

lemma Document.instants_record_eq_nil {fields : List (String × Document)}
    (h : ∀ f ∈ fields, f.2.instants = []) : (record fields).instants = [] := by
  rw [instants, fieldInstants_eq]
  exact List.flatMap_eq_nil_iff.mpr h

variable {α : Type}

instance : Timeless Bool := ⟨fun _ => rfl⟩

instance : Timeless UInt64 := ⟨fun _ => rfl⟩

instance : Timeless UInt32 := ⟨fun _ => rfl⟩

instance : Timeless UInt8 := ⟨fun _ => rfl⟩

instance : Timeless Int64 := ⟨fun _ => rfl⟩

instance : Timeless String := ⟨fun _ => rfl⟩

instance : Timeless Span := ⟨fun _ => rfl⟩

instance [Described α] [Timeless α] : Timeless (Option α) :=
  ⟨fun | none => rfl | some a => instants_describe a⟩

instance [Described α] [Timeless α] : Timeless (List α) where
  instants_describe l := by
    show Document.itemInstants (l.map describe) = []
    rw [Document.itemInstants_eq, List.flatMap_map]
    exact List.flatMap_eq_nil_iff.mpr fun a _ => instants_describe a

instance (priority := low) [Enumeration α] : Timeless α := ⟨fun _ => rfl⟩

namespace Telemetry

instance : Timeless ConnectionId := ⟨fun c => instants_describe c.bytes⟩

instance : Timeless VersionNumber := ⟨fun _ => rfl⟩

instance : Timeless ResetToken := ⟨fun t => instants_describe t.bytes⟩

instance : Timeless PacketHeader := ⟨fun _ => Document.instants_record_eq_nil (by simp)⟩

instance : Timeless ExtendedHeader := ⟨fun _ => Document.instants_record_eq_nil (by simp)⟩

instance : Timeless AckRange := ⟨fun _ => Document.instants_record_eq_nil (by simp)⟩

instance : Timeless AckFrame := ⟨fun _ => Document.instants_record_eq_nil (by simp)⟩

instance : Timeless RttStats := ⟨fun _ => Document.instants_record_eq_nil (by simp)⟩

instance : Timeless TransportParameters := ⟨fun _ => Document.instants_record_eq_nil (by simp)⟩

namespace ConnectionEvent

/-- The instants shown are those in the event. -/
lemma instants_fields (e : ConnectionEvent) : (Document.record e.fields).instants = e.instants := by
  cases e with
  | setLossTimer timerType encryptionLevel time =>
    simp only [fields, Document.instants, Document.fieldInstants, instants_describe, instants]
    rfl
  | _ => exact Document.instants_record_eq_nil (by simp [fields])

lemma exists_payload_iff (e : ConnectionEvent) :
    (∃ v, e.payload = .ok v) ↔ ∀ t ∈ e.instants, t.isBeforeEpoch = false := by
  rw [← instants_fields, ← Script.Value.exists_ofDocument_iff, payload]
  split
  · rename_i h
    simp [h, Script.Value.ofDocument, Script.Value.ofFields]
  · rfl

end ConnectionEvent

end Telemetry

/-! ### Entry points that are not there -/

namespace Script

open Telemetry

variable {τ : Type} {S : Script τ} {module entry : String} {t : τ}

/-- To look a name up leaves the script as it is. -/
structure Steady (S : Script τ) (t : τ) : Prop where
  global : ∀ name, (S.global name t).2 = t
  member : ∀ module name, (S.member module name t).2 = t

lemma Steady.globalFunction (h : Steady S t) (name : String) :
    (S.globalFunction name t).2 = t :=
  h.global name

lemma Steady.entryPoint (h : Steady S t) (module entry : String) :
    (S.entryPoint module entry t).2 = t := by
  have hfound : S.global module t = ((S.global module t).1, t) := Prod.ext rfl (h.global module)
  have hinner : S.member module entry t = ((S.member module entry t).1, t) :=
    Prod.ext rfl (h.member module entry)
  have hfallback := h.globalFunction entry
  unfold Script.entryPoint
  rw [hfound]
  rcases (S.global module t).1 with _ | _ | _ | _
  · rfl
  · exact hfallback
  · dsimp only
    rw [hinner]
    rcases (S.member module entry t).1 with _ | _ | _ | _
    · rfl
    · rfl
    · exact hfallback
    · exact hfallback
  · exact hfallback

/-- All is said to be well, and nothing was done but to look for the entry point. -/
structure Unheard (S : Script τ) (entry : String) (t : τ) (run : Except PolicyError Unit × τ) :
    Prop where
  ok : run.1 = .ok ()
  looked : run.2 = (S.entryPoint tracerModule entry t).2
  unchanged : Steady S t → run.2 = t

lemma unheard_notify (h : Undefined S tracerModule entry t) (arguments : List Value) :
    Unheard S entry t (S.notify entry arguments t) := by
  obtain ⟨t', he⟩ := entryPoint_of_undefined h
  have hnotify : S.notify entry arguments t = (.ok (), t') := by
    simp only [notify, invoke, he]
  rw [hnotify]
  refine ⟨rfl, by rw [he], fun hs => ?_⟩
  have := hs.entryPoint tracerModule entry
  rwa [he] at this

variable (S) (t) (clock : Nat → τ → τ) (id : TracingId)

/-- An event that is no value of the script is refused before the script is asked. -/
lemma run_record_of_error {e : ConnectionEvent} {fault : EncodeFault}
    (h : e.payload = .error fault) : ((tracer S).record id e).run clock t =
      (.error (.script (.runtime e.kind.name ("serialize error: " ++ fault.message))), t) := by
  simp only [tracer, Procedure.run_stretch, h]

lemma run_record_of_ok {e : ConnectionEvent} {payload : Value} (h : e.payload = .ok payload) :
    ((tracer S).record id e).run clock t =
      S.notify e.kind.name [.ofUInt64 id.number, payload] t := by
  simp only [tracer, Procedure.run_stretch, h]

/-- A script that does not define the entry point of an event does not hear of it, unless the event
sets a timer to a time before the epoch. Then the tracer fails, and the script is not even asked. A
registration that the script does not define is never heard of. -/
theorem unheard_iff :
    (∀ e : ConnectionEvent, Undefined S tracerModule e.kind.name t →
      let run := ((tracer S).record id e).run clock t
      (Unheard S e.kind.name t run ↔ ∀ time ∈ e.instants, time.isBeforeEpoch = false) ∧
        ((∃ time ∈ e.instants, time.isBeforeEpoch = true) →
          run = (.error (.script (.runtime e.kind.name
            ("serialize error: " ++ EncodeFault.beforeEpoch.message))), t))) ∧
    ∀ side odcid, Undefined S tracerModule registrationEntry t →
      Unheard S registrationEntry t (((tracer S).register id side odcid).run clock t) := by
  refine ⟨fun e h => ?_, fun side odcid h => unheard_notify h _⟩
  intro run
  have hpayload := e.exists_payload_iff
  cases hp : e.payload with
  | error fault =>
    have hrun := run_record_of_error S t clock id hp
    have hearly : ¬∀ time ∈ e.instants, time.isBeforeEpoch = false := by
      rw [hp] at hpayload
      simpa using hpayload
    refine ⟨⟨fun h => ?_, fun hall => absurd hall hearly⟩, fun _ => ?_⟩
    · have hok : run.1 = .ok () := h.ok
      rw [show run = _ from hrun] at hok
      cases hok
    · cases fault
      exact hrun
  | ok payload =>
    have hrun := run_record_of_ok S t clock id hp
    have hall : ∀ time ∈ e.instants, time.isBeforeEpoch = false := hpayload.mp ⟨payload, hp⟩
    refine ⟨⟨fun _ => hall, fun _ => ?_⟩, ?_⟩
    · rw [show run = _ from hrun]
      exact unheard_notify h _
    · rintro ⟨time, htime, hbefore⟩
      rw [hall time htime] at hbefore
      cases hbefore

/-- A script of no functions does not hear of a connection, nor of a timer set to the epoch. Setting
it to the second before fails. -/
theorem unheard_iff_timers :
    let S : Script Memory := ({} : Program).script ⟨.self, fun _ m => m, fun _ m => m⟩
    let record (seconds : Int64) := ((tracer S).record ⟨1⟩
      (.setLossTimer .ack .initial ⟨seconds, 0⟩)).run (fun _ m => m) {}
    ((tracer S).register ⟨1⟩ .client ⟨[171, 1]⟩).run (fun _ m => m) {} = (.ok (), {}) ∧
      record 0 = (.ok (), {}) ∧
      record (-1) = (.error (.script (.runtime "SetLossTimer"
        "serialize error: SystemTime must be later than UNIX_EPOCH")), {}) := by
  intro S record
  have hsteady : Steady S {} := ⟨fun _ => rfl, fun _ _ => rfl⟩
  have hevent : Undefined S tracerModule EventKind.setLossTimer.name {} :=
    ⟨{}, .other, {}, .noMember rfl rfl rfl, rfl, rfl⟩
  have hregistration : Undefined S tracerModule registrationEntry {} :=
    ⟨{}, .other, {}, .noMember rfl rfl rfl, rfl, rfl⟩
  obtain ⟨hrecord, hregister⟩ := unheard_iff S {} (fun _ m => m) ⟨1⟩
  have hregistered := hregister .client ⟨[171, 1]⟩ hregistration
  have hset := (hrecord (.setLossTimer .ack .initial ⟨0, 0⟩) hevent).1.mpr (by decide)
  refine ⟨Prod.ext hregistered.ok (hregistered.unchanged hsteady),
    Prod.ext hset.ok (hset.unchanged hsteady), ?_⟩
  exact (hrecord (.setLossTimer .ack .initial ⟨-1, 0⟩) hevent).2 ⟨⟨-1, 0⟩, by decide, by decide⟩

end Script

end PathPolicy
