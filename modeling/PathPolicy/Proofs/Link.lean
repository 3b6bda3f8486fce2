import PathPolicy.Call.Link
import PathPolicy.Proofs.ClientMachine

/-!
# Calls one after another

A client that waits for nothing sends its request in one frame and then waits for one response. If
both frames fit on both sides, the call is answered what the far end's method answers, and the
client waits for nothing again.
-/

namespace PathPolicy

/-- Reading a part gives what was written there last, and writing it again writes over that, or
changes nothing. -/
structure Procedure.Place.Lawful {σ τ : Type} (p : Procedure.Place σ τ) : Prop where
  get_set : ∀ t s, p.get (p.set t s) = t
  set_set : ∀ t t' s, p.set t (p.set t' s) = p.set t s
  set_get : ∀ s, p.set (p.get s) s = s

namespace Call

namespace Client

/-- The connection is up, and no frame has arrived in part. -/
structure Up (limit : Nat) (c : Client) : Prop where
  frameLimit : c.frameLimit = limit
  closed : c.closed = false
  writing : c.writing = true
  reading : c.reading = true
  unread : c.unread = []

/-- No response would reach anyone. -/
structure Quiet (limit : Nat) (c : Client) : Prop extends Up limit c where
  routes : c.routes = []
  queue : c.queue = []

/-- Only one call is under way, and `o` says how far it has come. -/
structure Carries (limit : Nat) (id : UInt64) (o : Ongoing) (queue : List Frame) (c : Client) : Prop
    extends Up limit c where
  routes : c.routes = [id]
  queue : c.queue = queue
  call : c.ongoing.get? id = some o

variable {c : Client} {limit : Nat} {id : UInt64} {f : Frame} {o : Ongoing}

lemma quiet_new (endpoint : String) (limit : Nat) :
    ({ endpoint, frameLimit := limit } : Client).Quiet limit :=
  ⟨⟨rfl, rfl, rfl, rfl, rfl⟩, rfl, rfl⟩

/-! ### A request goes out -/

lemma Quiet.enter (h : c.Quiet limit) (method : String) (payload : List UInt8) :
    (c.enter method payload).2.Carries limit c.nextId
      ⟨.entered ⟨c.nextId, .request method payload⟩, none⟩ [] := by
  refine ⟨⟨h.frameLimit, h.closed, h.writing, h.reading, h.unread⟩, ?_, h.queue,
    Dictionary.get?_insert_self _ _ _⟩
  simp only [Client.enter, h.routes, List.nil_append]

lemma Carries.update {queue : List Frame} (h : c.Carries limit id o queue)
    (g : Ongoing → Ongoing) : (c.update id g).Carries limit id (g o) queue := by
  refine ⟨⟨h.frameLimit, h.closed, h.writing, h.reading, h.unread⟩, h.routes, h.queue, ?_⟩
  rw [get?_update, if_pos rfl, h.call]
  rfl

lemma Carries.checkOpen {queue : List Frame} (h : c.Carries limit id ⟨.entered f, none⟩ queue) :
    (c.checkOpen id).Carries limit id ⟨.queueing f, none⟩ queue := by
  have heq : c.checkOpen id = c.update id fun o => { o with stage := .queueing f } := by
    simp only [Client.checkOpen, h.call, Option.map_some, h.closed, Bool.false_eq_true, if_false]
  rw [heq]
  exact h.update fun o => { o with stage := .queueing f }

lemma Carries.enqueue (h : c.Carries limit id ⟨.queueing f, none⟩ []) :
    (c.enqueue id).Carries limit id ⟨.awaiting, none⟩ [f] := by
  have hroom : ([] : List Frame).length < queueCapacity := by decide
  have heq : c.enqueue id =
      { c.update id fun o => { o with stage := .awaiting } with queue := [f] } := by
    simp only [Client.enqueue, h.call, Option.map_some, h.writing, Bool.not_true,
      Bool.false_eq_true, if_false, h.queue, hroom, if_true, List.nil_append]
  rw [heq]
  exact ⟨⟨h.frameLimit, h.closed, h.writing, h.reading, h.unread⟩, h.routes, rfl,
    (h.update fun o => { o with stage := .awaiting }).call⟩

lemma Carries.writeAll {bytes : List UInt8} (h : c.Carries limit id o [f])
    (hw : f.write limit = .ok bytes) :
    ∃ c' : Client, c.writeAll = (bytes, c') ∧ c'.Carries limit id o [] := by
  refine ⟨{ c with queue := [] }, ?_,
    ⟨⟨h.frameLimit, h.closed, h.writing, h.reading, h.unread⟩, h.routes, rfl, h.call⟩⟩
  simp only [Client.writeAll, h.queue, List.length_singleton, List.range_one, List.foldl_cons,
    List.foldl_nil, List.nil_append, writeNext, h.writing, h.frameLimit, hw]

lemma Quiet.submit (h : c.Quiet limit) {method : String} {payload bytes : List UInt8}
    (hw : (⟨c.nextId, .request method payload⟩ : Frame).write limit = .ok bytes) :
    ∃ c' : Client, c.submit method payload = (c.nextId, bytes, c') ∧
      c'.Carries limit c.nextId ⟨.awaiting, none⟩ [] := by
  obtain ⟨c', hc, hcarries⟩ := (h.enter method payload).checkOpen.enqueue.writeAll hw
  refine ⟨c', ?_, hcarries⟩
  rw [← hc]
  rfl

/-! ### A response comes in -/

abbrev replyOf (outcome : Except MethodError (List UInt8)) : Reply :=
  outcome.mapError (.method "")

/-- What a call is given settles it, whoever gives it. -/
lemma Carries.deliver (h : c.Carries limit id o []) (reply : Reply) :
    (c.deliver id reply).Quiet limit ∧
      (c.deliver id reply).ongoing.get? id = some { o with outcome := some reply } := by
  have heq : c.deliver id reply =
      (c.update id fun o => { o with outcome := some reply }).unroute id := by
    simp [Client.deliver, h.routes]
  rw [heq]
  refine ⟨⟨⟨h.frameLimit, h.closed, h.writing, h.reading, h.unread⟩, ?_, h.queue⟩,
    (h.update fun o => { o with outcome := some reply }).call⟩
  simp [unroute, h.routes]

lemma Carries.receive (h : c.Carries limit id ⟨.awaiting, none⟩ [])
    {outcome : Except MethodError (List UInt8)} {bytes : List UInt8}
    (hw : (⟨id, .response outcome⟩ : Frame).write limit = .ok bytes) :
    (c.receive bytes).Quiet limit ∧
      (c.receive bytes).ongoing.get? id = some ⟨.awaiting, some (replyOf outcome)⟩ := by
  have hread := Frame.readMany_write hw []
  rw [List.append_nil, Frame.readMany_nil] at hread
  have heq : c.receive bytes = { c.deliver id (replyOf outcome) with unread := [] } := by
    simp only [Client.receive, h.reading, if_true, h.unread, List.nil_append, h.frameLimit, hread,
      List.foldl_cons, List.foldl_nil, route]
  obtain ⟨hquiet, hcall⟩ := h.deliver (replyOf outcome)
  rw [heq]
  exact ⟨⟨⟨hquiet.frameLimit, hquiet.closed, hquiet.writing, hquiet.reading, rfl⟩, hquiet.routes,
    hquiet.queue⟩, hcall⟩

lemma Quiet.returnTo (h : c.Quiet limit) {reply : Reply}
    (hc : c.ongoing.get? id = some ⟨.awaiting, some reply⟩) :
    c.returnTo id = (some reply, c.abandon id) ∧ (c.abandon id).Quiet limit := by
  constructor
  · simp only [Client.returnTo, hc, Option.bind_some, Ongoing.reply?]
  · refine ⟨⟨h.frameLimit, h.closed, h.writing, h.reading, h.unread⟩, ?_, h.queue⟩
    simp only [abandon, unroute, h.routes, List.filter_nil]

end Client

/-! ### There and back -/

variable {σ : Type}

lemma run_farEnd (elapse : Nat → σ → σ) (S : Server σ) (client : ClientId) {id : UInt64}
    {method : String} {payload request response : List UInt8} {s s' : σ}
    {outcome : Except MethodError (List UInt8)}
    (hrequest : (⟨id, .request method payload⟩ : Frame).write S.frameLimit = .ok request)
    (hrun : (S.dispatch client method payload).run elapse s = (outcome, s'))
    (hresponse : (⟨id, .response outcome⟩ : Frame).write S.frameLimit = .ok response) :
    (S.farEnd client request).run elapse s = ({ bytes := response }, s') := by
  have hread := Frame.read_write hrequest []
  rw [List.append_nil] at hread
  simp only [Server.farEnd, hread, Procedure.run_bind, hrun, Connection.responseBytes, hresponse,
    Procedure.run_pure]

/-- A call is answered what the far end answers, and leaves the client as it found it. -/
theorem run_call (elapse : Nat → σ → σ) {p : Procedure.Place σ Client} (hp : p.Lawful)
    {far : FarEnd σ} {limit : Nat} {method : String} {payload request response : List UInt8}
    {s s' : σ} {outcome : Except MethodError (List UInt8)} (hq : (p.get s).Quiet limit)
    (hrequest : (⟨(p.get s).nextId, .request method payload⟩ : Frame).write limit = .ok request)
    (hfar : ∀ c, (far request).run elapse (p.set c s) = ({ bytes := response }, p.set c s'))
    (hresponse : (⟨(p.get s).nextId, .response outcome⟩ : Frame).write limit = .ok response) :
    ∃ c : Client, c.Quiet limit ∧
      ((Client.caller p far).call method payload).run elapse s =
        (Client.replyOf outcome, p.set c s') := by
  obtain ⟨c, hsubmit, hcarries⟩ := hq.submit hrequest
  obtain ⟨hquiet, hcall⟩ := hcarries.receive hresponse
  obtain ⟨hreturn, hquiet'⟩ := hquiet.returnTo hcall
  refine ⟨_, hquiet', ?_⟩
  have hsent := Frame.isEmpty_of_write hrequest
  simp only [Client.caller, Procedure.run_bind, Procedure.run_stretch, hsubmit, hsent,
    Bool.false_eq_true, hfar, Procedure.run_write, Procedure.Place.modify, hp.get_set, hp.set_set,
    if_false, hreturn]

/-- A request whose frame and whose response's frame fit at both ends is settled with the response. -/
lemma run_request (elapse : Nat → σ → σ) {p : Procedure.Place σ Client} (hp : p.Lawful)
    {S : Server σ} {client : ClientId} {limit : Nat} {α β : Type} {method : String}
    {input : Codec α} (output : Codec β) {a : α} {payload request response : List UInt8} {s s' : σ}
    {outcome : Except MethodError (List UInt8)} (hq : (p.get s).Quiet limit)
    (hpayload : input.encode a = .ok payload)
    (hrequest : (⟨(p.get s).nextId, .request method payload⟩ : Frame).write
      (min limit S.frameLimit) = .ok request)
    (hserve : ∀ c, (S.dispatch client method payload).run elapse (p.set c s) =
      (outcome, p.set c s'))
    (hresponse : (⟨(p.get s).nextId, .response outcome⟩ : Frame).write (min limit S.frameLimit) =
      .ok response) :
    ∃ c : Client, c.Quiet limit ∧
      ((Client.caller p (S.farEnd client)).request method input output a).run elapse s =
        (settleReply method output (Client.replyOf outcome), p.set c s') := by
  have hfar (c : Client) :
      (S.farEnd client request).run elapse (p.set c s) = ({ bytes := response }, p.set c s') :=
    run_farEnd elapse S client (Frame.write_mono hrequest (Nat.min_le_right _ _)) (hserve c)
      (Frame.write_mono hresponse (Nat.min_le_right _ _))
  obtain ⟨c, hc, hcall⟩ := run_call elapse hp hq (Frame.write_mono hrequest (Nat.min_le_left _ _))
    hfar (Frame.write_mono hresponse (Nat.min_le_left _ _))
  refine ⟨c, hc, ?_⟩
  simp only [Caller.request, Codec.encodeAs, hpayload, Procedure.run_bind, hcall,
    Procedure.run_pure]

end Call

end PathPolicy
