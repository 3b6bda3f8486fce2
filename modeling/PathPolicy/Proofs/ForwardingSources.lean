import PathPolicy.Proofs.ForwardedCalls
import PathPolicy.Proofs.SharedClient
import Mathlib.Logic.Function.Basic

/-!
# Sources that forward what they trace

Each source is a client of one server and forwards one notice after another, each when the one
before has been answered. `Stage` lists how far a source can have come.
-/

namespace PathPolicy

namespace Procedure

variable {σ α β : Type}

/-- What a procedure may come to, whatever the states are that it meets. -/
def MayAnswer : Procedure σ α → α → Prop
  | done b, a => b = a
  | act _ resume, a => ∃ s, (resume s).MayAnswer a
  | sleep _ rest, a => rest.MayAnswer a

lemma MayAnswer.of_advance {elapse : Nat → σ → σ} {p : Procedure σ α} {s : σ} {a : α}
    (h : (p.advance elapse s).1.MayAnswer a) : p.MayAnswer a := by
  cases p with
  | done b => exact h
  | act update resume => exact ⟨s, h⟩
  | sleep ms rest => exact h

lemma MayAnswer.bind_done {p : Procedure σ α} {a : α} (h : p.MayAnswer a) (f : α → β) :
    (p.bind fun a => .done (f a)).MayAnswer (f a) := by
  induction p with
  | done b => exact congrArg f h
  | act update resume ih =>
    obtain ⟨s, hs⟩ := h
    exact ⟨s, ih s hs⟩
  | sleep ms rest ih => exact ih h

lemma MayAnswer.of_bind {p : Procedure σ α} {k : α → Procedure σ β} {b : β}
    (h : (p.bind k).MayAnswer b) : ∃ a, p.MayAnswer a ∧ (k a).MayAnswer b := by
  induction p with
  | done a => exact ⟨a, rfl, h⟩
  | act update resume ih =>
    obtain ⟨s, hs⟩ := h
    obtain ⟨a, ha, hb⟩ := ih s hs
    exact ⟨a, ⟨s, ha⟩, hb⟩
  | sleep ms rest ih => exact ih h

lemma MayAnswer.of_within {τ : Type} {place : Place σ τ} {p : Procedure τ α} {a : α}
    (h : (p.within place).MayAnswer a) : p.MayAnswer a := by
  induction p with
  | done b => exact h
  | act update resume ih =>
    obtain ⟨s, hs⟩ := h
    exact ⟨place.get s, ih _ hs⟩
  | sleep ms rest ih => exact ih h

end Procedure

namespace Remote

open Telemetry Procedure Call

variable {τ : Type}

/-- The clients, the service they are connected to, and what each client's calls were answered. -/
structure Forwarding (τ : Type) where
  clients : ClientId → Client
  service : Serving τ
  answers : ClientId → List (Except PolicyError Unit)

namespace Forwarding

def clientPlace (c : ClientId) : Place (Forwarding τ) Client :=
  ⟨fun s => s.clients c, fun client s => { s with clients := Function.update s.clients c client }⟩

def servicePlace : Place (Forwarding τ) (Serving τ) :=
  ⟨service, fun service s => { s with service }⟩

def elapsed (elapse : Nat → τ → τ) (ms : Nat) (s : Forwarding τ) : Forwarding τ :=
  { s with service := meanwhile elapse ms s.service }

@[simp] lemma clients_set (c : ClientId) (client : Client) (s : Forwarding τ) :
    ((clientPlace c).set client s).clients c = client :=
  Function.update_self ..

lemma clients_set_of_ne {c c' : ClientId} (h : c' ≠ c) (client : Client) (s : Forwarding τ) :
    ((clientPlace c).set client s).clients c' = s.clients c' :=
  Function.update_of_ne h ..

lemma clientPlace_lawful (c : ClientId) : (clientPlace (τ := τ) c).Lawful where
  get_set client s := Function.update_self ..
  set_set client client' s := by simp [clientPlace]
  set_get s := by simp [clientPlace]

variable (T : Tracer τ) (base : Server (Serving τ)) (c : ClientId)

def far : FarEnd (Forwarding τ) := fun request =>
  ((tracerServer T base).farEnd c request).within servicePlace

def caller : Caller (Forwarding τ) := Client.caller (clientPlace c) (far T base c)

/-- Takes down what a call was answered. -/
def answered (o : Except PolicyError Unit) (rest : Procedure (Forwarding τ) Unit) :
    Procedure (Forwarding τ) Unit :=
  .act (fun s => { s with answers := Function.update s.answers c (s.answers c ++ [o]) })
    fun _ => rest

/-- A source that forwards one notice after another. -/
def forwarding : List Notice → Procedure (Forwarding τ) Unit
  | [] => return ()
  | n :: ns => do
    let o ← n.tell (tracer (caller T base c))
    answered c o (forwarding ns)

/-- What a reply is to the source of a notice. -/
def resultOf (n : Notice) (reply : Reply) : Except PolicyError Unit :=
  (settleReply n.method Codec.unit reply).mapError .call

/-- What is left of a source whose request was sent. -/
def finishing (n : Notice) (ns : List Notice) (reply : Reply) : Procedure (Forwarding τ) Unit :=
  answered c (resultOf n reply) (forwarding T base c ns)

variable {T base c} {limit : Nat} {n : Notice} {ns : List Notice} {payload : List UInt8}

lemma forwarding_of_encode (h : Codec.tracerMessage.encode n.message = .ok payload) :
    forwarding T base c (n :: ns) =
      ((caller T base c).call n.method payload).bind (finishing T base c n ns) := by
  have hencode : Codec.tracerMessage.encodeAs "request" n.message = .ok payload :=
    Codec.encodeAs_eq_ok.mpr h
  show Procedure.bind (n.tell (tracer (caller T base c))) _ = _
  rw [Notice.tell_tracer, forward, Caller.request, hencode]
  exact (bind_assoc _ _ _).trans (bind_assoc _ _ _)

lemma forwarding_of_unencodable {fault : EncodeFault}
    (h : Codec.tracerMessage.encode n.message = .error fault) :
    forwarding T base c (n :: ns) =
      answered c (.error (.call (.encode "request" fault.message))) (forwarding T base c ns) := by
  have hencode : Codec.tracerMessage.encodeAs "request" n.message =
      .error (.encode "request" fault.message) := by
    simp only [Codec.encodeAs, h]
  show Procedure.bind (n.tell (tracer (caller T base c))) _ = _
  rw [Notice.tell_tracer, forward, Caller.request, hencode]
  rfl

/-- What a source is answered in the end. -/
lemma resultOf_payloadOf (n : Notice) (o : Except MethodError Unit) :
    resultOf n (Client.replyOf (payloadOf o)) = o.mapError fun e => .call (.method n.method e) := by
  cases o <;> rfl

/-! ### A request at the far end -/

/-- What goes back to a client for an outcome. -/
def sent (limit : Nat) (id : UInt64) (o : Except MethodError Unit) : Transmission :=
  match Connection.responseBytes limit ⟨id, .response (payloadOf o)⟩ with
  | .ok bytes => { bytes }
  | .error _ => {}

lemma far_of_write {id : UInt64} {request : List UInt8}
    (hm : Codec.tracerMessage.encode n.message = .ok payload)
    (hl : payload.length < UInt64.size)
    (hw : (⟨id, .request n.method payload⟩ : Frame).write (tracerServer T base).frameLimit =
      .ok request) :
    far T base c request =
      (((n.call c).serve T 0).bind fun o =>
        .done (sent (tracerServer T base).frameLimit id o)).within servicePlace := by
  have hread := Frame.read_write hw []
  rw [List.append_nil] at hread
  refine congrArg (Procedure.within servicePlace) ?_
  simp only [Server.farEnd, hread]
  show Procedure.bind _ _ = _
  rw [dispatch_message hm hl, bind_assoc]
  refine congrArg (Procedure.bind _) (funext fun o => ?_)
  simp only [Procedure.bind, sent]
  cases Connection.responseBytes (tracerServer T base).frameLimit ⟨id, .response (payloadOf o)⟩ <;>
    rfl

/-- The frame is written, and the same, on both sides. -/
def Crosses (limit limit' : Nat) (f : Frame) : Prop :=
  ∃ bytes, f.write limit = .ok bytes ∧ f.write limit' = .ok bytes

/-- The frames of a call fit on both sides, whatever it is answered. -/
structure Fits (T : Tracer τ) (base : Server (Serving τ)) (limit : Nat) (c : ClientId)
    (n : Notice) : Prop where
  request : ∀ payload, Codec.tracerMessage.encode n.message = .ok payload → ∀ id,
    Crosses limit (tracerServer T base).frameLimit ⟨id, .request n.method payload⟩
  response : ∀ payload, Codec.tracerMessage.encode n.message = .ok payload → ∀ outcome,
    ((tracerServer T base).dispatch c n.method payload).MayAnswer outcome → ∀ id,
    Crosses limit (tracerServer T base).frameLimit ⟨id, .response outcome⟩

/-- A call is answered what the tracer answers, or that nobody knows its id. -/
lemma mayAnswer_serve {o : Except MethodError Unit} (h : ((n.call c).serve T 0).MayAnswer o) :
    (∃ i a, ((n.under i).tell T).MayAnswer a ∧ o = a.mapError PolicyError.toMethodError) ∨
      o = .error (.unknownTracingId n.method n.id) := by
  cases n with
  | registered id side odcid =>
    rw [Notice.call, serve_register (registers_registration id side odcid)] at h
    obtain ⟨s, s', h⟩ := h
    obtain ⟨a, ha, h⟩ := h.of_bind
    refine .inl ⟨_, a, ha.of_within.of_within, ?_⟩
    cases a with
    | error e => exact h.symm
    | ok u =>
      obtain ⟨s'', h⟩ := h
      exact h.symm
  | recorded id e =>
    rw [Notice.call, serve_event (reports_ofEvent id e)] at h
    obtain ⟨s, h⟩ := h
    replace h : (pass T 0 e.kind id e (s.1.connections.get? (c, id))).MayAnswer o := h
    cases hget : s.1.connections.get? (c, id) with
    | none =>
      rw [hget] at h
      exact .inr h.symm
    | some i =>
      rw [hget] at h
      obtain ⟨s', h⟩ := h
      obtain ⟨a, ha, h⟩ := h.of_bind
      exact .inl ⟨i, a, ha.of_within.of_within, h.symm⟩

lemma crosses_of_takes {limit limit' size : Nat} {f : Frame} (h : Codec.frame.Takes f size)
    (hlimit : size ≤ limit) (hlimit' : size ≤ limit') (hbound : size < Frame.headerBound) :
    Crosses limit limit' f := by
  obtain ⟨bytes, hbytes⟩ := (Frame.exists_write_iff h).mpr ⟨hlimit, hbound⟩
  obtain ⟨bytes', hbytes'⟩ := (Frame.exists_write_iff h).mpr ⟨hlimit', hbound⟩
  obtain rfl := Frame.write_unique hbytes hbytes'
  exact ⟨bytes, hbytes, hbytes'⟩

/-- The frames of a call fit if there is room for its request and for all that the tracer and the
service can complain of. -/
lemma fits_of_size {size : Nat} (hlimit : size ≤ limit)
    (hlimit' : size ≤ (tracerServer T base).frameLimit) (hbound : size < Frame.headerBound)
    (hrequest : ∀ payload ∈ (Codec.tracerMessage.encode n.message).toOption,
      Codec.requestLength n.method payload ≤ size)
    (hanswer : ∀ i e, ((n.under i).tell T).MayAnswer (.error e) →
      28 + e.toMethodError.message.utf8ByteSize ≤ size)
    (hunknown : 28 + (MethodError.unknownTracingId n.method n.id).message.utf8ByteSize ≤ size) :
    Fits T base limit c n := by
  have hsent (payload : List UInt8) (h : Codec.tracerMessage.encode n.message = .ok payload)
      (id : UInt64) :
      Crosses limit (tracerServer T base).frameLimit ⟨id, .request n.method payload⟩ := by
    have hle := hrequest payload (by rw [h]; rfl)
    exact crosses_of_takes (Codec.takes_request id n.method payload) (by omega) (by omega)
      (by omega)
  have herror (id : UInt64) {e : MethodError} (he : 28 + e.message.utf8ByteSize ≤ size) :
      Crosses limit (tracerServer T base).frameLimit ⟨id, .response (.error e)⟩ :=
    crosses_of_takes (Codec.takes_response (Codec.takes_methodError e).outcome_error) (by omega)
      (by omega) (by omega)
  refine ⟨hsent, fun payload hp outcome ho id => ?_⟩
  obtain ⟨request, hwrite, -⟩ := hsent payload hp id
  rw [dispatch_message hp (Frame.length_of_write hwrite)] at ho
  obtain ⟨o, hserve, rfl⟩ := ho.of_bind
  obtain ⟨i, a, ha, rfl⟩ | rfl := mayAnswer_serve hserve
  · cases a with
    | ok u =>
      have htakes : Codec.frame.Takes ⟨id, .response (.ok [])⟩ 24 :=
        Codec.takes_response (Codec.takes_bytes []).outcome_ok
      exact crosses_of_takes htakes (by omega) (by omega) (by omega)
    | error e => exact herror id (hanswer i e ha)
  · exact herror id hunknown

/-! ### How far a source has come -/

/-- Takes what comes back from the far end, and then the answer. -/
def taking (c : ClientId) (k : UInt64) (answer : Transmission) : Procedure (Forwarding τ) Reply :=
  .act ((clientPlace c).modify fun client =>
      let client := client.receive answer.bytes
      if answer.closes then client.receiveEnd else client)
    fun _ => .stretch (Client.returned (clientPlace c) k)

/-- What is left of a source: at rest, with a call at the service, with a reply that has come in, or
about to take down what it was answered. -/
inductive Stage (T : Tracer τ) (base : Server (Serving τ)) (limit : Nat) (c : ClientId) (w : Record)
    (client : Client) : List Notice → Progress → Procedure (Forwarding τ) Unit → Prop
  | idle (hc : client.Quiet limit) (ns : List Notice) :
    Stage T base limit c w client ns {} (forwarding T base c ns)
  | serving {n : Notice} {p : Progress} {q : ServiceTask τ} {k : UInt64}
      (hn : n.instants.any Instant.isBeforeEpoch = false)
      (hc : client.Carries limit k ⟨.awaiting, none⟩ [])
      (hq : Serves T w c n p q)
      (hfits : ∀ o, q.MayAnswer o →
        Crosses limit (tracerServer T base).frameLimit ⟨k, .response (payloadOf o)⟩)
      (ns : List Notice) :
    Stage T base limit c w client (n :: ns) p
      ((((q.bind fun o => .done (sent (tracerServer T base).frameLimit k o)).within
        servicePlace).bind (taking c k)).bind (finishing T base c n ns))
  | received {n : Notice} {p : Progress} {q : ServiceTask τ} {k : UInt64}
      {o : Except MethodError Unit} (hn : n.instants.any Instant.isBeforeEpoch = false)
      (hc : client.Quiet limit)
      (hreply : client.ongoing.get? k = some ⟨.awaiting, some (Client.replyOf (payloadOf o))⟩)
      (hq : Serves T w c n p q) (ho : q.answer? = some o) (ns : List Notice) :
    Stage T base limit c w client (n :: ns) p
      ((Procedure.stretch (Client.returned (clientPlace c) k)).bind (finishing T base c n ns))
  | settled {n : Notice} {p : Progress} {q : ServiceTask τ} {o : Except MethodError Unit}
      (hn : n.instants.any Instant.isBeforeEpoch = false)
      (hc : client.Quiet limit) (hq : Serves T w c n p q)
      (ho : q.answer? = some o) (ns : List Notice) :
    Stage T base limit c w client (n :: ns) p
      (finishing T base c n ns (Client.replyOf (payloadOf o)))

/-- A turn of another source leaves a source where it is. -/
lemma Stage.wait {w w' : Record} {client : Client} {p : Progress}
    {task : Procedure (Forwarding τ) Unit} (h : Stage T base limit c w client ns p task)
    {c' : ClientId} (hne : c' ≠ c) {r r' : Progress} (hw : Grows c' n r r' w w') :
    Stage T base limit c w' client ns p task := by
  cases h with
  | idle hc => exact .idle hc ns
  | serving hn hc hq hfits ns => exact .serving hn hc (hq.wait hne hw) hfits ns
  | received hn hc hreply hq ho ns => exact .received hn hc hreply (hq.wait hne hw) ho ns
  | settled hn hc hq ho ns => exact .settled hn hc (hq.wait hne hw) ho ns

lemma advance_within_service {elapse : Nat → τ → τ} {α : Type} (q : Procedure (Serving τ) α)
    (s : Forwarding τ) :
    (q.within servicePlace).advance (elapsed elapse) s =
      ((q.advance (meanwhile elapse) s.service).1.within servicePlace,
        { s with service := (q.advance (meanwhile elapse) s.service).2 }) := by
  cases q <;> rfl

end Forwarding

end Remote

end PathPolicy
