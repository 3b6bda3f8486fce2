import PathPolicy.Proofs.EventMessages
import PathPolicy.Proofs.RoundTrip
import PathPolicy.Proofs.TracerCalls
import PathPolicy.Proofs.TracerService
import PathPolicy.Remote.Tracer
import Mathlib.Data.Set.Function

/-!
# What a tracer is told through a connection

A notice that is forwarded becomes a message for a method, and the far end makes the same notice of
the message again, up to the id. The one notice that cannot be sent is of a timer set before the
epoch. `Record` takes down what has happened at the service; a turn of a call there adds one thing
to it.
-/

namespace PathPolicy.Remote

open Telemetry Procedure Call

variable {σ τ : Type}

namespace Notice

def id : Notice → TracingId
  | registered id _ _ => id
  | recorded id _ => id

/-- The same under another id. -/
def under (n : Notice) (id : TracingId) : Notice :=
  match n with
  | registered _ side odcid => registered id side odcid
  | recorded _ e => recorded id e

def instants : Notice → List Instant
  | registered .. => []
  | recorded _ e => e.instants

def tell (T : Tracer σ) : Notice → Procedure σ (Except PolicyError Unit)
  | registered id side odcid => T.register id side odcid
  | recorded id e => T.record id e

def method : Notice → String
  | registered .. => TracerMessage.registrationMethod
  | recorded _ e => TracerMessage.methodFor e.kind

def message : Notice → TracerMessage
  | registered id side odcid => .registration id side odcid
  | recorded id e => .ofEvent id e

/-- What the notice is to a service when a client forwards it. -/
def call (c : ClientId) : Notice → TracerCall
  | registered id side odcid => .register c (.registration id side odcid)
  | recorded id e => .event c e.kind (.ofEvent id e)

lemma tell_tracer (C : Caller σ) (n : Notice) :
    n.tell (tracer C) = forward C n.method n.message := by
  cases n <;> rfl

end Notice

/-! ### Messages -/

lemma registers_registration (id : TracingId) (side : Perspective) (odcid : ConnectionId) :
    Registers (.registration id side odcid) id side odcid :=
  ⟨rfl, rfl, rfl⟩

/-- An event is rebuilt from its message as it was. -/
lemma reports_ofEvent (id : TracingId) (e : ConnectionEvent) :
    Reports (.ofEvent id e) e.kind id e :=
  ⟨TracerMessage.tracingId_ofEvent id e, TracerMessage.toEvent?_ofEvent id e⟩

lemma encodes_message (n : Notice) :
    Codec.tracerMessage.Encodes n.message ↔ ∀ t ∈ n.instants, t.isBeforeEpoch = false := by
  rw [Codec.encodes_tracerMessage]
  cases n with
  | registered id side odcid => rfl
  | recorded id e => cases e <;> rfl

/-! ### The far end -/

variable (T : Tracer τ) (base : Server (Serving τ))

/-- A server with a tracer behind it that notes what it is told. -/
def tracerServer : Server (Serving τ) :=
  registerTracer ((noting T 0).within .second) .first base

/-- What a method of a tracer comes to, as the payload of a response. -/
def payloadOf (o : Except MethodError Unit) : Except MethodError (List UInt8) := o.map fun _ => []

variable {T base} {n : Notice} {c : ClientId} {payload : List UInt8}

lemma handler_message (method : String) (m : TracerMessage)
    (answer : ClientId → TracerMessage → ServiceTask τ)
    (hm : Codec.tracerMessage.encode m = .ok payload) (hl : payload.length < UInt64.size) :
    Server.handler method Codec.tracerMessage Codec.unit answer c payload =
      (answer c m).bind fun o => .done (payloadOf o) := by
  have hdecode := Codec.Lossless.readsBack m payload [] hm hl
  rw [List.append_nil] at hdecode
  simp only [Server.handler, hdecode]
  refine congrArg (Procedure.bind _) (funext fun o => ?_)
  cases o <;> rfl

/-- The far end serves a notice that arrives as the call that it is. -/
lemma dispatch_message (hm : Codec.tracerMessage.encode n.message = .ok payload)
    (hl : payload.length < UInt64.size) :
    (tracerServer T base).dispatch c n.method payload =
      ((n.call c).serve T 0).bind fun o => .done (payloadOf o) := by
  cases n with
  | registered id side odcid =>
    exact (dispatch_registration _ _ base c payload).trans
      (handler_message _ _ (serveRegistration _ _) hm hl)
  | recorded id e =>
    exact (dispatch_event _ _ base c payload e.kind).trans
      (handler_message _ _ (serveEvent _ _ e.kind) hm hl)

/-! ### What has been told -/

/-- What has happened at a service so far. -/
structure Record where
  /-- What the tracer was told, with the clients it was forwarded for and under their ids. -/
  log : List (ClientId × Notice) := []
  /-- The ids of clients for which one was issued, in order. -/
  issued : List (ClientId × TracingId) := []
  /-- Those of them whose registration succeeded. -/
  granted : List (ClientId × TracingId) := []

/-- The entries of a client. -/
def entriesOf {α : Type} (c : ClientId) (l : List (ClientId × α)) : List α :=
  (l.filter fun entry => entry.1 = c).map Prod.snd

lemma entriesOf_append_singleton {α : Type} (c c' : ClientId) (l : List (ClientId × α)) (a : α) :
    entriesOf c (l ++ [(c', a)]) = entriesOf c l ++ if c' = c then [a] else [] := by
  by_cases h : c' = c <;> simp [entriesOf, h]

lemma mem_entriesOf {α : Type} {c : ClientId} {l : List (ClientId × α)} {a : α} :
    a ∈ entriesOf c l ↔ (c, a) ∈ l := by
  simp [entriesOf]

namespace Record

/-- The id issued for a client's. -/
def number (w : Record) (c : ClientId) (id : TracingId) : Option TracingId :=
  if (c, id) ∈ w.issued then some ⟨.ofNat (w.issued.idxOf (c, id) + 1)⟩ else none

lemma number_eq_some {w : Record} {id i : TracingId} :
    w.number c id = some i ↔
      (c, id) ∈ w.issued ∧ i = ⟨.ofNat (w.issued.idxOf (c, id) + 1)⟩ := by
  unfold number
  split_ifs with h <;> simp [h, eq_comm]

end Record

/-- The service is where the record says. -/
structure Tallies (w : Record) (s : Serving τ) : Prop where
  journal : s.2.1.map (fun entry => some entry.2) =
    w.log.map fun entry => (w.number entry.1 entry.2.id).map entry.2.under
  next : s.1.ids.next.number = .ofNat (w.issued.length + 1)
  connections : ∀ c id, s.1.connections.get? (c, id) =
    if (c, id) ∈ w.granted then w.number c id else none
  distinct : w.issued.Nodup
  few : w.issued.length ≤ UInt64.size
  logged : ∀ entry ∈ w.log, (entry.1, entry.2.id) ∈ w.issued
  granted : ∀ entry ∈ w.granted, entry ∈ w.issued

/-- How far a call has come at the service. -/
structure Progress where
  issued : Bool := false
  told : Bool := false
  granted : Bool := false

/-- What is left at the service of a call that a client has forwarded. -/
inductive Serves (T : Tracer τ) (w : Record) (c : ClientId) :
    Notice → Progress → ServiceTask τ → Prop
  | fresh (n : Notice) : Serves T w c n {} ((n.call c).serve T 0)
  | issued {id i : TracingId} (hi : w.number c id = some i) (side : Perspective)
      (odcid : ConnectionId) :
    Serves T w c (.registered id side odcid) { issued := true }
      (tell 0 (.registered i side odcid) (T.register i side odcid) (settle c id i))
  | waiting {id i : TracingId} (hi : w.number c id = some i) (side : Perspective)
      (odcid : ConnectionId) (q : Procedure τ (Except PolicyError Unit)) :
    Serves T w c (.registered id side odcid) { issued := true, told := true }
      ((asking q).bind (settle c id i))
  | granted {id i : TracingId} (hi : w.number c id = some i) (side : Perspective)
      (odcid : ConnectionId) :
    Serves T w c (.registered id side odcid) { issued := true, told := true, granted := true }
      (.done (.ok ()))
  | unknown {id : TracingId} (hid : (c, id) ∉ w.granted) (e : ConnectionEvent) :
    Serves T w c (.recorded id e) {}
      (.done (.error (.unknownTracingId (TracerMessage.methodFor e.kind) id)))
  | looked {id i : TracingId} (hid : (c, id) ∈ w.granted) (hi : w.number c id = some i)
      (e : ConnectionEvent) :
    Serves T w c (.recorded id e) {} (tell 0 (.recorded i e) (T.record i e) report)
  | passing {id i : TracingId} (hid : (c, id) ∈ w.granted) (hi : w.number c id = some i)
      (e : ConnectionEvent) (q : Procedure τ (Except PolicyError Unit)) :
    Serves T w c (.recorded id e) { told := true } ((asking q).bind report)

/-- What a turn for a call of a client adds to the record. -/
inductive Grows (c : ClientId) (n : Notice) : Progress → Progress → Record → Record → Prop
  | stays (p : Progress) (w : Record) : Grows c n p p w w
  | issues {p : Progress} (hp : p.issued = false) (w : Record) :
    Grows c n p { p with issued := true } w { w with issued := w.issued ++ [(c, n.id)] }
  | tells {p : Progress} (hp : p.told = false) (w : Record) :
    Grows c n p { p with told := true } w { w with log := w.log ++ [(c, n)] }
  | grants {p : Progress} (hp : p.granted = false) (w : Record) :
    Grows c n p { p with granted := true } w { w with granted := w.granted ++ [(c, n.id)] }

variable {w w' : Record} {p p' : Progress} {s : Serving τ} {i id : TracingId} {c' : ClientId}

namespace Record

lemma number_issue_of_mem {x : ClientId × TracingId} (h : (c, id) ∈ w.issued) :
    { w with issued := w.issued ++ [x] }.number c id = w.number c id := by
  simp [number, h, List.idxOf_append_of_mem h]

lemma number_issue_self (h : (c, id) ∉ w.issued) :
    { w with issued := w.issued ++ [(c, id)] }.number c id =
      some ⟨.ofNat (w.issued.length + 1)⟩ := by
  simp [number, List.idxOf_append_of_notMem h]

end Record

lemma Grows.number (h : Grows c n p p' w w') (hi : w.number c' id = some i) :
    w'.number c' id = some i := by
  cases h with
  | issues => rwa [Record.number_issue_of_mem (Record.number_eq_some.mp hi).1]
  | _ => exact hi

lemma Grows.log (h : Grows c n p p' w w') {l : List Notice}
    (hl : entriesOf c w.log = l ++ if p.told then [n] else []) :
    entriesOf c w'.log = l ++ if p'.told then [n] else [] := by
  cases h with
  | tells hp =>
    rw [hp] at hl
    simp [entriesOf_append_singleton, hl]
  | _ => exact hl

lemma Grows.issued (h : Grows c n p p' w w') {l : List TracingId}
    (hl : entriesOf c w.issued = l ++ if p.issued then [n.id] else []) :
    entriesOf c w'.issued = l ++ if p'.issued then [n.id] else [] := by
  cases h with
  | issues hp =>
    rw [hp] at hl
    simp [entriesOf_append_singleton, hl]
  | _ => exact hl

lemma Grows.granted (h : Grows c n p p' w w') {l : List TracingId}
    (hl : entriesOf c w.granted = l ++ if p.granted then [n.id] else []) :
    entriesOf c w'.granted = l ++ if p'.granted then [n.id] else [] := by
  cases h with
  | grants hp =>
    rw [hp] at hl
    simp [entriesOf_append_singleton, hl]
  | _ => exact hl

/-- A turn for one client changes nothing in the record of another. -/
lemma Grows.elsewhere (h : Grows c n p p' w w') (hne : c ≠ c') :
    entriesOf c' w'.log = entriesOf c' w.log ∧ entriesOf c' w'.issued = entriesOf c' w.issued ∧
      entriesOf c' w'.granted = entriesOf c' w.granted := by
  cases h with
  | stays => exact ⟨rfl, rfl, rfl⟩
  | issues => exact ⟨rfl, by simp [entriesOf_append_singleton, hne], rfl⟩
  | tells => exact ⟨by simp [entriesOf_append_singleton, hne], rfl, rfl⟩
  | grants => exact ⟨rfl, rfl, by simp [entriesOf_append_singleton, hne]⟩

lemma Tallies.tell (h : Tallies w s) (hi : w.number c n.id = some i) :
    Tallies { w with log := w.log ++ [(c, n)] } (s.1, note 0 (n.under i) s.2) where
  journal := by
    simp only [note, List.map_append, h.journal, List.map_singleton]
    show _ = _ ++ [(w.number c n.id).map n.under]
    rw [hi]
    rfl
  next := h.next
  connections := h.connections
  distinct := h.distinct
  few := h.few
  logged := by
    intro entry hentry
    obtain hentry | hentry := List.mem_append.mp hentry
    · exact h.logged entry hentry
    · rw [List.mem_singleton.mp hentry]
      exact (Record.number_eq_some.mp hi).1
  granted := h.granted

lemma Tallies.issue (h : Tallies w s) (hid : (c, id) ∉ w.issued)
    (hroom : w.issued.length + 1 ≤ UInt64.size) :
    Tallies { w with issued := w.issued ++ [(c, id)] } (s.1.issue.2, s.2) where
  journal := by
    rw [h.journal]
    refine List.map_congr_left fun entry hentry => ?_
    rw [Record.number_issue_of_mem (h.logged entry hentry)]
  next := by
    have hnext : s.1.issue.2.ids.next.number = s.1.ids.next.number + 1 := rfl
    rw [hnext, h.next, List.length_append, List.length_singleton]
    simp [UInt64.ofNat_add]
  connections := by
    intro c' id'
    have hconnections := h.connections c' id'
    by_cases hg : (c', id') ∈ w.granted
    · rw [if_pos hg] at hconnections ⊢
      rw [Record.number_issue_of_mem (h.granted _ hg)]
      exact hconnections
    · rw [if_neg hg] at hconnections ⊢
      exact hconnections
  distinct := List.nodup_append.mpr ⟨h.distinct, List.nodup_singleton _,
    fun a ha b hb he => hid (List.mem_singleton.mp hb ▸ he ▸ ha)⟩
  few := by
    rw [List.length_append, List.length_singleton]
    exact hroom
  logged entry hentry := List.mem_append_left _ (h.logged entry hentry)
  granted entry hentry := List.mem_append_left _ (h.granted entry hentry)

lemma Tallies.grant (h : Tallies w s) (hi : w.number c id = some i) :
    Tallies { w with granted := w.granted ++ [(c, id)] } (s.1.insert c id i, s.2) where
  journal := h.journal
  next := h.next
  connections := by
    intro c' id'
    have hget : (s.1.insert c id i).connections.get? (c', id') =
        if (c', id') = (c, id) then some i else s.1.connections.get? (c', id') :=
      Dictionary.get?_insert _ _ _ _
    rw [hget, h.connections]
    by_cases hsame : (c', id') = (c, id)
    · obtain ⟨rfl, rfl⟩ := Prod.mk.inj hsame
      rw [if_pos rfl, if_pos (by simp)]
      exact hi.symm
    · have hmem : (c', id') ∈ w.granted ++ [(c, id)] ↔ (c', id') ∈ w.granted := by
        simp [hsame]
      rw [if_neg hsame]
      simp only [hmem]
      rfl
  distinct := h.distinct
  few := h.few
  logged := h.logged
  granted := by
    intro entry hentry
    obtain hentry | hentry := List.mem_append.mp hentry
    · exact h.granted entry hentry
    · rw [List.mem_singleton.mp hentry]
      exact (Record.number_eq_some.mp hi).1

/-- The id issued for a client's, where there is one. -/
def Record.renaming (w : Record) (x : ClientId × TracingId) : TracingId :=
  (w.number x.1 x.2).getD ⟨0⟩

/-- The service issues no id for two ids of clients. -/
lemma Tallies.injOn_renaming (h : Tallies w s) : Set.InjOn w.renaming {x | x ∈ w.issued} := by
  intro x hx y hy heq
  have hnumber {z : ClientId × TracingId} (hz : z ∈ w.issued) :
      w.renaming z = ⟨.ofNat (w.issued.idxOf z + 1)⟩ := by
    rw [Record.renaming, Record.number_eq_some.mpr ⟨hz, rfl⟩]
    rfl
  have hlt {z : ClientId × TracingId} (hz : z ∈ w.issued) : w.issued.idxOf z < UInt64.size :=
    Nat.lt_of_lt_of_le (List.idxOf_lt_length_of_mem hz) h.few
  rw [hnumber hx, hnumber hy, TracingId.mk.injEq, UInt64.ofNat_add, UInt64.ofNat_add,
    UInt64.add_left_inj, ← UInt64.toNat_inj, UInt64.toNat_ofNat_of_lt' (hlt hx),
    UInt64.toNat_ofNat_of_lt' (hlt hy)] at heq
  exact (List.idxOf_inj hx).mp heq

/-- What the tracer was told, under the ids of the service. -/
lemma Tallies.told (h : Tallies w s) :
    s.2.1.map Prod.snd = w.log.map fun x => x.2.under (w.renaming (x.1, x.2.id)) := by
  refine List.map_injective_iff.mpr (Option.some_injective _) ?_
  rw [List.map_map, List.map_map]
  refine h.journal.trans (List.map_congr_left fun entry hentry => ?_)
  have hnumber := Record.number_eq_some.mpr ⟨h.logged entry hentry, rfl⟩
  simp only [Function.comp_apply, Record.renaming, hnumber]
  rfl

/-- What the tracer keeps for itself is not in the record. -/
lemma Tallies.tracer {b : ConnectionBook} {j : Journal} {t : τ} (h : Tallies w (b, j, t)) (t' : τ) :
    Tallies w (b, j, t') :=
  ⟨h.journal, h.next, h.connections, h.distinct, h.few, h.logged, h.granted⟩

/-- A turn of a call at the service does one thing, and the record takes it down. -/
lemma Serves.advance {T : Tracer τ} {q : ServiceTask τ} (h : Serves T w c n p q)
    (hs : Tallies w s) (hq : q.answer? = none)
    (hroom : ∀ id side odcid, n = .registered id side odcid → p.issued = false →
      (c, id) ∉ w.issued ∧ w.issued.length + 1 ≤ UInt64.size) (elapse : Nat → τ → τ) :
    ∃ p' w', Grows c n p p' w w' ∧ Tallies w' (q.advance (meanwhile elapse) s).2 ∧
      Serves T w' c n p' (q.advance (meanwhile elapse) s).1 := by
  cases h with
  | fresh =>
    cases n with
    | registered id side odcid =>
      obtain ⟨hid, hfew⟩ := hroom id side odcid rfl rfl
      have hnumber : s.1.issue.1 = ⟨.ofNat (w.issued.length + 1)⟩ := by
        rw [← hs.next]
        rfl
      rw [Notice.call, serve_register (registers_registration id side odcid)]
      refine ⟨_, _, .issues rfl w, hs.issue hid hfew, .issued ?_ side odcid⟩
      rw [hnumber]
      exact Record.number_issue_self hid
    | recorded id e =>
      rw [Notice.call, serve_event (reports_ofEvent id e)]
      refine ⟨_, _, .stays _ w, hs, ?_⟩
      show Serves T w c (.recorded id e) {} (pass T 0 e.kind id e (s.1.connections.get? (c, id)))
      rw [hs.connections]
      split_ifs with hid
      · have hi := Record.number_eq_some.mpr ⟨hs.granted _ hid, rfl⟩
        rw [hi]
        exact .looked hid hi e
      · exact .unknown hid e
  | issued hi side odcid =>
    exact ⟨_, _, .tells rfl w, hs.tell (n := .registered _ side odcid) hi,
      .waiting (by exact hi) side odcid _⟩
  | waiting hi side odcid q =>
    cases hanswer : q.answer? with
    | none =>
      rw [advance_asking hanswer]
      exact ⟨_, _, .stays _ w, hs.tracer _, .waiting hi side odcid _⟩
    | some o =>
      obtain rfl := answer?_eq_some_iff.mp hanswer
      cases o with
      | error e => cases hq
      | ok u => exact ⟨_, _, .grants rfl w, hs.grant hi, .granted (by exact hi) side odcid⟩
  | granted => cases hq
  | unknown => cases hq
  | looked hid hi e =>
    exact ⟨_, _, .tells rfl w, hs.tell (n := .recorded _ e) hi,
      .passing (by exact hid) (by exact hi) e _⟩
  | passing hid hi e q =>
    cases hanswer : q.answer? with
    | none =>
      rw [advance_asking hanswer]
      exact ⟨_, _, .stays _ w, hs.tracer _, .passing hid hi e _⟩
    | some o =>
      obtain rfl := answer?_eq_some_iff.mp hanswer
      cases hq

/-- A turn for another client leaves a call where it is. -/
lemma Serves.wait {T : Tracer τ} {q : ServiceTask τ} {n' : Notice} (h : Serves T w c n p q)
    (hne : c' ≠ c) {r r' : Progress} (hw : Grows c' n' r r' w w') : Serves T w' c n p q := by
  have hgranted (id : TracingId) : (c, id) ∈ w'.granted ↔ (c, id) ∈ w.granted := by
    rw [← mem_entriesOf, (hw.elsewhere hne).2.2, mem_entriesOf]
  cases h with
  | fresh => exact .fresh n
  | issued hi side odcid => exact .issued (hw.number hi) side odcid
  | waiting hi side odcid q => exact .waiting (hw.number hi) side odcid q
  | granted hi side odcid => exact .granted (hw.number hi) side odcid
  | unknown hid e => exact .unknown (fun h => hid ((hgranted _).mp h)) e
  | looked hid hi e => exact .looked ((hgranted _).mpr hid) (hw.number hi) e
  | passing hid hi e q => exact .passing ((hgranted _).mpr hid) (hw.number hi) e q

lemma answer?_serve (T : Tracer τ) (c : ClientId) (n : Notice) :
    ((n.call c).serve T 0).answer? = none := by
  cases n with
  | registered id side odcid =>
    rw [Notice.call, serve_register (registers_registration id side odcid)]
    rfl
  | recorded id e =>
    rw [Notice.call, serve_event (reports_ofEvent id e)]
    rfl

/-- A registration has been served. -/
lemma Serves.registered_done {T : Tracer τ} {side : Perspective} {odcid : ConnectionId}
    {q : ServiceTask τ} (h : Serves T w c (.registered id side odcid) p q)
    {o : Except MethodError Unit} (hq : q.answer? = some o) :
    p.issued = true ∧ p.told = true ∧ (p.granted = true ↔ o = .ok ()) := by
  cases h with
  | fresh =>
    rw [answer?_serve] at hq
    cases hq
  | issued => cases hq
  | waiting _ _ _ r =>
    refine ⟨rfl, rfl, ?_⟩
    constructor
    · intro hg
      cases hg
    · rintro rfl
      exact absurd hq (answer?_settle_ne _ _ _ _)
  | granted =>
    cases hq
    exact ⟨rfl, rfl, fun _ => rfl, fun _ => rfl⟩

/-- An event has been served. -/
lemma Serves.recorded_done {T : Tracer τ} {e : ConnectionEvent} {q : ServiceTask τ}
    (h : Serves T w c (.recorded id e) p q) {o : Except MethodError Unit}
    (hq : q.answer? = some o) :
    p.issued = false ∧ p.granted = false ∧
      if (c, id) ∈ w.granted then p.told = true
      else p.told = false ∧
        o = .error (.unknownTracingId (TracerMessage.methodFor e.kind) id) := by
  cases h with
  | fresh =>
    rw [answer?_serve] at hq
    cases hq
  | unknown hid =>
    cases hq
    rw [if_neg hid]
    exact ⟨rfl, rfl, rfl, rfl⟩
  | looked => cases hq
  | passing hid =>
    rw [if_pos hid]
    exact ⟨rfl, rfl, rfl⟩

end PathPolicy.Remote
