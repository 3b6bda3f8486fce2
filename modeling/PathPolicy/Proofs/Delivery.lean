import PathPolicy.Proofs.FrameStream
import PathPolicy.Proofs.Link

/-!
# What may become of a call

A client that waits for nothing makes a call. Its request fits no frame, and then nothing else has
happened. Or the far end does what was asked for and the call is answered so, and the client waits
for nothing again. Or the connection is lost, which leaves it open what the far end has done.
-/

namespace PathPolicy

namespace CallError

/-- The request never left the caller. -/
def Unsent : CallError → Prop
  | .encode .. | .frameTooLarge .. => True
  | _ => False

/-- It is open what the far end has done. -/
def Lost : CallError → Prop
  | .connectionLost _ => True
  | _ => False

end CallError

namespace Frame

lemma write_unique {limit limit' : Nat} {f : Frame} {bs bs' : List UInt8}
    (h : f.write limit = .ok bs) (h' : f.write limit' = .ok bs') : bs = bs' := by
  obtain ⟨body, hb, -, -, rfl⟩ := write_eq_ok_iff.mp h
  obtain ⟨body', hb', -, -, rfl⟩ := write_eq_ok_iff.mp h'
  obtain rfl := Except.ok.inj (hb.symm.trans hb')
  rfl

/-- A frame that fits its writer's limit but not its reader's stops the reader. -/
lemma read_failed_of_write {limit limit' : Nat} {f : Frame} {bs : List UInt8}
    (h : f.write limit = .ok bs) (hcut : ∀ bs', f.write limit' ≠ .ok bs') :
    ∃ e, read limit' bs = .failed e := by
  obtain ⟨body, hb, -, hbound, rfl⟩ := write_eq_ok_iff.mp h
  have hlong : body.length > limit' := by
    refine Nat.lt_of_not_le fun hle => hcut _ (write_eq_ok_iff.mpr ⟨body, hb, hle, hbound, rfl⟩)
  have hhead := Codec.takeExact_append (header body.length) body
  rw [show (header body.length).length = headerLength by simp [header]] at hhead
  refine ⟨.frameTooLarge body.length limit', ?_⟩
  simp only [read, hhead, headerValue_header hbound, if_pos hlong]

end Frame

namespace Call

namespace Client

variable {c : Client} {limit : Nat} {id : UInt64} {f : Frame} {o : Ongoing}

/-! ### A request that fits no frame -/

lemma Quiet.submit_tooLarge (h : c.Quiet limit) {method : String} {payload : List UInt8}
    {size limit' : Nat}
    (hw : (⟨c.nextId, .request method payload⟩ : Frame).write limit =
      .error (.frameTooLarge size limit')) :
    ∃ c' : Client, c.submit method payload = (c.nextId, [], c') ∧ c'.Quiet limit ∧
      c'.ongoing.get? c.nextId =
        some ⟨.awaiting, some (.error (.frameTooLarge size limit'))⟩ := by
  have hcarries := (h.enter method payload).checkOpen.enqueue
  have hsubmit : c.submit method payload =
      (c.nextId, (((c.enter method payload).2.checkOpen c.nextId).enqueue c.nextId).writeAll) := rfl
  rw [hsubmit]
  generalize ((c.enter method payload).2.checkOpen c.nextId).enqueue c.nextId = e at hcarries ⊢
  have hempty : ({ e with queue := [] } : Client).Carries limit c.nextId ⟨.awaiting, none⟩ [] :=
    ⟨⟨hcarries.frameLimit, hcarries.closed, hcarries.writing, hcarries.reading, hcarries.unread⟩,
      hcarries.routes, rfl, hcarries.call⟩
  refine ⟨_, ?_, hempty.deliver (.error (.frameTooLarge size limit'))⟩
  simp only [Client.writeAll, hcarries.queue, List.length_singleton, List.range_one,
    List.foldl_cons, List.foldl_nil, List.nil_append, writeNext, hcarries.writing,
    hcarries.frameLimit, hw]

/-! ### A connection that fails -/

/-- What a call that can wait no longer is answered. -/
def answerTo (c : Client) (id : UInt64) : Reply :=
  match c.returnTo id with
  | (some reply, _) => reply
  | (none, c) => .error c.lostError

def Loses (id : UInt64) (c : Client) : Prop := ∃ reason, c.answerTo id = .error (.connectionLost reason)

lemma Carries.loses (h : c.Carries limit id ⟨.awaiting, none⟩ []) : c.Loses id := by
  refine ⟨c.reason.getD "connection closed", ?_⟩
  simp only [answerTo, Client.returnTo, h.call, Option.bind_some, Ongoing.reply?]
  rfl

lemma Carries.failReading_loses (h : c.Carries limit id ⟨.awaiting, none⟩ []) (reason : String) :
    (c.failReading reason).Loses id := by
  have hcall : (c.failReading reason).ongoing.get? id =
      some ⟨.awaiting, some (.error (c.markFailed reason).lostError)⟩ := by
    have hroutes : (c.markFailed reason).routes = [id] := h.routes
    have hongoing : (c.markFailed reason).ongoing.get? id = some ⟨.awaiting, none⟩ := h.call
    simp only [Client.failReading, failAll, hroutes, List.foldl_cons, List.foldl_nil, failOne,
      stopReading, get?_deliver, List.mem_singleton, and_self, if_true, hongoing, Option.map_some]
  refine ⟨(c.markFailed reason).reason.getD "connection closed", ?_⟩
  simp only [answerTo, Client.returnTo, hcall, Option.bind_some, Ongoing.reply?]
  rfl

lemma Carries.receive_loses (h : c.Carries limit id ⟨.awaiting, none⟩ []) {bytes : List UInt8}
    {e : CallError} (hread : Frame.read limit bytes = .failed e) : (c.receive bytes).Loses id := by
  have heq : c.receive bytes = c.failReading e.message := by
    simp only [Client.receive, h.reading, if_true, h.unread, List.nil_append, h.frameLimit,
      Frame.readMany_of_failed hread, List.foldl_nil]
  rw [heq]
  exact h.failReading_loses e.message

lemma Carries.receiveEnd_loses (h : c.Carries limit id ⟨.awaiting, none⟩ []) :
    c.receiveEnd.Loses id := by
  simp only [receiveEnd, h.reading, if_true]
  exact h.failReading_loses _

lemma Up.receive_nil (h : c.Up limit) : c.receive [] = c := by
  have hunread : ({ c with unread := [] } : Client) = c := by rw [← h.unread]
  rw [Client.receive, if_pos h.reading, h.unread, List.append_nil, Frame.readMany_nil]
  exact hunread

end Client

/-! ### What comes back -/

/-- The far end has sent the response to a request, or nothing. -/
def Transmission.Returns (id : UInt64) (limit : Nat) (t : Transmission) : Prop :=
  t.bytes = [] ∨
    t.closes = false ∧ ∃ outcome, (⟨id, .response outcome⟩ : Frame).write limit = .ok t.bytes

lemma Connection.exists_of_responseBytes {limit : Nat} {id : UInt64}
    {outcome : Except MethodError (List UInt8)} {bytes : List UInt8}
    (h : responseBytes limit ⟨id, .response outcome⟩ = .ok bytes) :
    ∃ outcome', (⟨id, .response outcome'⟩ : Frame).write limit = .ok bytes ∧
      (outcome' = outcome ∨ ∃ size, outcome' = .error (oversized size limit)) := by
  unfold responseBytes at h
  cases hw : (⟨id, .response outcome⟩ : Frame).write limit with
  | ok bs =>
    rw [hw] at h
    exact ⟨outcome, hw.trans h, .inl rfl⟩
  | error e =>
    obtain ⟨size, rfl⟩ := Frame.write_eq_error hw
    rw [hw] at h
    exact ⟨_, h, .inr ⟨size, rfl⟩⟩

variable {σ : Type} {p : Procedure.Place σ Client} {limit : Nat}

lemma run_farEnd_returns (elapse : Nat → σ → σ) (S : Server σ) (client : ClientId) {id : UInt64}
    {method : String} {payload request : List UInt8} {s s' gone : σ}
    {outcome : Except MethodError (List UInt8)}
    (hrequest : (⟨id, .request method payload⟩ : Frame).write limit = .ok request)
    (hrun : ∀ c, (S.dispatch client method payload).run elapse (p.set c s) =
      (outcome, p.set c s'))
    (hrelease : ∀ c, S.release client (p.set c s) = p.set c gone) :
    ∃ t done, (∀ c, (S.farEnd client request).run elapse (p.set c s) = (t, p.set c done)) ∧
      t.Returns id S.frameLimit ∧ (t.bytes ≠ [] → done = s') := by
  by_cases hfits : ∃ bs, (⟨id, .request method payload⟩ : Frame).write S.frameLimit = .ok bs
  · obtain ⟨bs, hbs⟩ := hfits
    obtain rfl := Frame.write_unique hbs hrequest
    have hread := Frame.read_write hbs []
    rw [List.append_nil] at hread
    cases hresponse : Connection.responseBytes S.frameLimit ⟨id, .response outcome⟩ with
    | ok bytes =>
      obtain ⟨outcome', hwritten, -⟩ := Connection.exists_of_responseBytes hresponse
      refine ⟨{ bytes }, s', fun c => ?_, .inr ⟨rfl, outcome', hwritten⟩, fun _ => rfl⟩
      simp only [Server.farEnd, hread, Procedure.run_bind, hrun, hresponse, Procedure.run_pure]
    | error e =>
      refine ⟨{}, s', fun c => ?_, .inl rfl, fun _ => rfl⟩
      simp only [Server.farEnd, hread, Procedure.run_bind, hrun, hresponse, Procedure.run_pure]
  · rw [not_exists] at hfits
    obtain ⟨e, hread⟩ := Frame.read_failed_of_write hrequest hfits
    refine ⟨{ closes := true }, gone, fun c => ?_, .inl rfl, fun hb => absurd rfl hb⟩
    simp only [Server.farEnd, hread, Procedure.run_bind, Procedure.run_write, hrelease,
      Procedure.run_pure]

/-! ### There and back, or not -/

/-- What a call with the client at `p` may come to, from `s` on: nothing has happened, or anything
may have, or the far end has brought the state to `s'`. -/
inductive Delivery {β : Type} (limit : Nat) (p : Procedure.Place σ Client) (s s' : σ) :
    Except CallError β × σ → Prop
  | unsent {c : Client} {e : CallError} : c.Quiet limit → e.Unsent →
      Delivery limit p s s' (.error e, p.set c s)
  | lost {e : CallError} {anything : σ} : e.Lost → Delivery limit p s s' (.error e, anything)
  | served {c : Client} {reply : Except CallError β} : c.Quiet limit →
      (∀ e, reply = .error e → ¬e.Unsent) → Delivery limit p s s' (reply, p.set c s')

/-- The bytes of a request go out, something may come back, and the call is answered. -/
lemma run_caller (elapse : Nat → σ → σ) (hp : p.Lawful) {far : FarEnd σ} {method : String}
    {payload request : List UInt8} {id : UInt64} {s done : σ} {c c' : Client} {t : Transmission}
    (hsubmit : (p.get s).submit method payload = (id, request, c))
    (hrequest : request.isEmpty = false)
    (hfar : (far request).run elapse (p.set c s) = (t, p.set c done))
    (hc' : (if t.closes then (c.receive t.bytes).receiveEnd else c.receive t.bytes) = c') :
    (((Client.caller p far).call method payload).run elapse s).1 = c'.answerTo id ∧
      ∀ reply, c'.returnTo id = (some reply, c'.abandon id) →
        ((Client.caller p far).call method payload).run elapse s =
          (reply, p.set (c'.abandon id) done) := by
  have hrun : ((Client.caller p far).call method payload).run elapse s =
      match c'.returnTo id with
      | (some reply, c) => (reply, p.set c done)
      | (none, c) => (.error c.lostError, p.set (c.abandon id) done) := by
    rcases hreturn : c'.returnTo id with ⟨_ | reply, last⟩ <;>
      simp only [Client.caller, Procedure.run_bind, Procedure.run_stretch, hsubmit, hrequest,
        Bool.false_eq_true, if_false, hfar, Procedure.run_write, Procedure.Place.modify,
        hp.get_set, hp.set_set, hc', hreturn]
  constructor
  · rw [hrun, Client.answerTo]
    rcases c'.returnTo id with ⟨_ | reply, c⟩ <;> rfl
  · intro reply hreply
    rw [hrun, hreply]

theorem delivery_call (elapse : Nat → σ → σ) (hp : p.Lawful) {far : FarEnd σ} (farLimit : Nat)
    {method : String} {payload : List UInt8} {s s' : σ} (hq : (p.get s).Quiet limit)
    (hfar : ∀ request,
      (⟨(p.get s).nextId, .request method payload⟩ : Frame).write limit = .ok request →
        ∃ t done, (∀ c, (far request).run elapse (p.set c s) = (t, p.set c done)) ∧
          t.Returns (p.get s).nextId farLimit ∧ (t.bytes ≠ [] → done = s')) :
    Delivery limit p s s' (((Client.caller p far).call method payload).run elapse s) := by
  cases hw : (⟨(p.get s).nextId, .request method payload⟩ : Frame).write limit with
  | error e =>
    obtain ⟨size, rfl⟩ := Frame.write_eq_error hw
    obtain ⟨c, hsubmit, hquiet, hcall⟩ := hq.submit_tooLarge hw
    obtain ⟨hreturn, hquiet'⟩ := hquiet.returnTo hcall
    have hrun : ((Client.caller p far).call method payload).run elapse s =
        (.error (.frameTooLarge size limit), p.set (c.abandon (p.get s).nextId) s) := by
      simp only [Client.caller, Procedure.run_bind, Procedure.run_stretch, hsubmit,
        List.isEmpty_nil, if_true, hp.get_set, hreturn, hp.set_set]
    rw [hrun]
    exact .unsent hquiet' trivial
  | ok request =>
    obtain ⟨c, hsubmit, hcarries⟩ := hq.submit hw
    obtain ⟨t, done, hrun, hreturns, hdone⟩ := hfar request hw
    obtain ⟨hanswer, hreply⟩ := run_caller elapse hp hsubmit (Frame.isEmpty_of_write hw) (hrun c) rfl
    have hlost (h : Client.Loses (p.get s).nextId
        (if t.closes then (c.receive t.bytes).receiveEnd else c.receive t.bytes)) :
        Delivery limit p s s' (((Client.caller p far).call method payload).run elapse s) := by
      obtain ⟨reason, hreason⟩ := h
      rw [← Prod.mk.eta (p := Procedure.run _ _ _), hanswer, hreason]
      exact .lost trivial
    rcases hreturns with hb | ⟨hopen, outcome, hresponse⟩
    · -- Nothing came back, with the connection closed or not.
      apply hlost
      rw [hb, hcarries.receive_nil]
      split
      · exact hcarries.receiveEnd_loses
      · exact hcarries.loses
    · rw [hopen] at hlost hreply
      simp only [Bool.false_eq_true, if_false] at hlost hreply
      by_cases hfits : ∃ bs,
          (⟨(p.get s).nextId, .response outcome⟩ : Frame).write limit = .ok bs
      · obtain ⟨bs, hbs⟩ := hfits
        obtain rfl := Frame.write_unique hbs hresponse
        obtain ⟨hquiet, hcall⟩ := hcarries.receive hbs
        obtain ⟨hreturn, hquiet'⟩ := hquiet.returnTo hcall
        rw [hreply _ hreturn, hdone fun hb => ?_]
        · refine .served hquiet' fun e he => ?_
          cases outcome with
          | ok bytes => cases he
          | error m =>
            obtain rfl := Except.error.inj he
            exact not_false
        · have hsent := Frame.isEmpty_of_write hbs
          rw [hb] at hsent
          cases hsent
      · -- The far end may write what the client may not read.
        rw [not_exists] at hfits
        obtain ⟨e, hread⟩ := Frame.read_failed_of_write hresponse hfits
        exact hlost (hcarries.receive_loses hread)

lemma exists_run_handler (elapse : Nat → σ → σ) {α β : Type} (method : String) {input : Codec α}
    (output : Codec β) {answer : ClientId → α → Procedure σ (Except MethodError β)}
    {client : ClientId} {payload : List UInt8} {a : α} {s s' : σ} {result : Except MethodError β}
    (ha : input.ReadsBack a) (hpayload : input.encode a = .ok payload)
    (hl : payload.length < UInt64.size)
    (hrun : ∀ c, (answer client a).run elapse (p.set c s) = (result, p.set c s')) :
    ∃ outcome, ∀ c, (Server.handler method input output answer client payload).run elapse
      (p.set c s) = (outcome, p.set c s') := by
  have hdecode := ha payload [] hpayload hl
  rw [List.append_nil] at hdecode
  cases result with
  | error e =>
    refine ⟨.error e, fun c => ?_⟩
    simp only [Server.handler, hdecode, Procedure.run_bind, hrun, Procedure.run_pure]
  | ok b =>
    cases hb : output.encode b with
    | error fault =>
      refine ⟨.error (Server.unencodable method fault), fun c => ?_⟩
      simp only [Server.handler, hdecode, Procedure.run_bind, hrun, hb, Procedure.run_pure]
    | ok bytes =>
      refine ⟨.ok bytes, fun c => ?_⟩
      simp only [Server.handler, hdecode, Procedure.run_bind, hrun, hb, Procedure.run_pure]

lemma Delivery.settleReply {s s' : σ} {answer : Reply × σ} (h : Delivery limit p s s' answer)
    {β : Type} (method : String) (output : Codec β) :
    Delivery limit p s s' (Call.settleReply method output answer.1, answer.2) := by
  cases h with
  | unsent hc he =>
    rename_i c e
    cases e with
    | encode what reason => exact .unsent hc trivial
    | frameTooLarge size limit => exact .unsent hc trivial
    | _ => exact he.elim
  | lost he =>
    rename_i e anything
    cases e with
    | connectionLost reason => exact .lost trivial
    | _ => exact he.elim
  | served hc hr =>
    rename_i c reply
    refine .served hc fun e he => ?_
    cases reply with
    | ok bytes =>
      simp only [Call.settleReply, Codec.decodeAs] at he
      split at he
      · cases he
      · obtain rfl := Except.error.inj he
        exact not_false
    | error e' =>
      have hsent := hr e' rfl
      cases e' with
      | method name m =>
        obtain rfl := Except.error.inj he
        exact not_false
      | _ =>
        obtain rfl := Except.error.inj he
        exact hsent

/-- A request that cannot be encoded is one more that never leaves the caller. -/
theorem delivery_request (elapse : Nat → σ → σ) (hp : p.Lawful) (S : Server σ) (client : ClientId)
    {α β : Type} {method : String} {input : Codec α} {output : Codec β}
    {answer : ClientId → α → Procedure σ (Except MethodError β)} {a : α} {s s' gone : σ}
    {result : Except MethodError β}
    (hdispatch : ∀ payload, S.dispatch client method payload =
      Server.handler method input output answer client payload)
    (hq : (p.get s).Quiet limit) (ha : input.ReadsBack a)
    (hrun : ∀ c, (answer client a).run elapse (p.set c s) = (result, p.set c s'))
    (hrelease : ∀ c, S.release client (p.set c s) = p.set c gone) :
    Delivery limit p s s'
      (((Client.caller p (S.farEnd client)).request method input output a).run elapse s) := by
  cases hpayload : input.encode a with
  | error fault =>
    have hunsent : ((Client.caller p (S.farEnd client)).request method input output a).run elapse
        s = (.error (.encode "request" fault.message), p.set (p.get s) s) := by
      simp only [Caller.request, Codec.encodeAs, hpayload, Procedure.run_pure, hp.set_get]
    rw [hunsent]
    exact .unsent hq trivial
  | ok payload =>
    have hcall : Delivery limit p s s'
        (((Client.caller p (S.farEnd client)).call method payload).run elapse s) := by
      refine delivery_call elapse hp S.frameLimit hq fun request hw => ?_
      obtain ⟨outcome, hserve⟩ :=
        exists_run_handler elapse method output ha hpayload (Frame.length_of_write hw) hrun
      rw [← hdispatch] at hserve
      exact run_farEnd_returns elapse S client hw hserve hrelease
    have hrequest : ((Client.caller p (S.farEnd client)).request method input output a).run elapse
        s = (settleReply method output
          (((Client.caller p (S.farEnd client)).call method payload).run elapse s).1,
          (((Client.caller p (S.farEnd client)).call method payload).run elapse s).2) := by
      simp only [Caller.request, Codec.encodeAs, hpayload, Procedure.run_bind, Procedure.run_pure]
    rw [hrequest]
    exact hcall.settleReply method output

end Call

end PathPolicy
