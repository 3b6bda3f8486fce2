import PathPolicy.Proofs.Connected
import PathPolicy.Proofs.Mirror
import PathPolicy.Proofs.RemoteReference

/-!
# Transparency of a remote selector

A caller's selector, its client, and a server with the default selector, connected and used for one
call at a time. Each call is answered what the reference answers.
-/

namespace PathPolicy.Remote

open Call Codec

/-- Over the default selector. -/
abbrev Session := Connected FailoverState

namespace Session

open Connected

variable {base : Server Session} {id : ClientId} {elapse : Nat → Session → Session} {limit : Nat}

/-! ### One request -/

/-- A request that fits is answered what its method answers; responses are shorter than requests. -/
lemma run_request (s s' : Session) {β : Type} {output : Codec β} {method : SelectorMethod}
    {m : SelectorMessage} {b : β}
    {answer : ClientId → SelectorMessage → Procedure Session (Except MethodError β)}
    (hdispatch : ∀ payload,
      (Connected.server failoverSelector base).dispatch id method.name payload =
        Server.handler method.name selectorMessage output answer id payload)
    (hq : s.client.Quiet limit)
    (hfits : ∃ payload bytes, selectorMessage.encode m = .ok payload ∧
      (⟨s.client.nextId, .request method.name payload⟩ : Frame).write
        (min limit base.frameLimit) = .ok bytes)
    (hserve : ∀ c, (answer id m).run elapse { s with client := c } =
      (.ok b, { s' with client := c }))
    (hb : output.ReadsBack b) (hsmall : ∃ n ≤ 9, output.Takes b n) :
    ∃ c : Client, c.Quiet limit ∧
      ((Connected.caller failoverSelector base id).request method.name selectorMessage output
        m).run elapse s = (.ok b, { s' with client := c }) := by
  obtain ⟨payload, request, hp, hrequest⟩ := hfits
  obtain ⟨n, hn, reply, hr, rfl⟩ := hsmall
  have hname : 13 ≤ method.name.utf8ByteSize := by cases method <;> decide
  have hlong := takes_request s.client.nextId method.name payload
  have hshort : frame.Takes ⟨s.client.nextId, .response (.ok reply)⟩ _ :=
    takes_response (takes_bytes reply).outcome_ok
  obtain ⟨hlimit, hbound⟩ := (Frame.exists_write_iff hlong).mp ⟨request, hrequest⟩
  rw [requestLength] at hlimit hbound
  have hfits : 8 + (4 + (4 + (8 + reply.length))) ≤ min limit base.frameLimit ∧
      8 + (4 + (4 + (8 + reply.length))) < Frame.headerBound := by omega
  obtain ⟨response, hresponse⟩ := (Frame.exists_write_iff hshort).mpr hfits
  have hserved (c : Client) :
      ((Connected.server failoverSelector base).dispatch id method.name payload).run elapse
        (clientPlace.set c s) = (.ok reply, clientPlace.set c s') := by
    rw [hdispatch]
    exact Server.run_handler elapse (readsBack_selectorMessage m) hp
      (Frame.length_of_write hrequest) (hserve c) hr
  obtain ⟨c, hc, hsettled⟩ := Call.run_request (S := Connected.server failoverSelector base) elapse
    clientPlace_lawful output hq hp hrequest hserved hresponse
  have hdecode := hb reply [] hr (Nat.lt_of_le_of_lt hn (by decide))
  rw [List.append_nil] at hdecode
  refine ⟨c, hc, hsettled.trans ?_⟩
  simp only [Client.replyOf, Except.mapError, settleReply, decodeAs, hdecode]
  rfl

/-! ### What the methods do -/

/-- What serving an update does to what the server keeps. -/
def serve (id : ClientId) (next : UInt64) (s : Session) : SelectorCall → Session
  | .start r ps =>
    { s with
      inner := s.inner.start (id.scoped r) (ps.map PathObject.bare)
      book := s.book.update id
        (·.replaceWith r (HandleTable.number next (ps.map PathObject.bare))) }
  | .refresh r ps =>
    { s with
      inner := s.inner.refresh (id.scoped r) (ps.map PathObject.bare)
      book := s.book.update id
        (·.replaceWith r (HandleTable.number next (ps.map PathObject.bare))) }
  | .pathDown r f i => { s with inner := s.inner.pathDown (id.scoped r) f i }
  | .close r =>
    { s with
      inner := s.inner.close (id.scoped r)
      book := s.book.update id (·.removeRemote r) }
  | .path _ => s

/-- The server neither reads nor changes what the caller's end keeps. -/
lemma serve_caller (next : UInt64) (s : Session) (proxy : ProxyState) (client : Client)
    (call : SelectorCall) :
    serve id next { s with proxy, client } call = { s.serve id next call with proxy, client } := by
  cases call <;> rfl

lemma run_serveUpdate {call : SelectorCall} (hc : ∀ r, call ≠ .path r) (next : UInt64)
    (s : Session) :
    (serveUpdate (failoverSelector.within innerPlace) bookPlace (SelectorMethod.of call) id
        (message next call)).run elapse s = (.ok (), s.serve id next call) := by
  cases call with
  | start r ps =>
    rw [serve, ← zip_records, ← map_path_records next ps]
    rfl
  | refresh r ps =>
    rw [serve, ← zip_records, ← map_path_records next ps]
    rfl
  | pathDown r f i => rfl
  | close r => rfl
  | path r => exact absurd rfl (hc r)

/-- A client for whom a path is chosen is known afterwards. -/
def bookAfterPath (s : Session) (id : ClientId) (r : RemoteAddress) : HandleBook :=
  if (s.inner.path (id.scoped r)).isSome then s.book.update id fun t => t else s.book

lemma table_bookAfterPath (s : Session) (r : RemoteAddress) :
    (s.bookAfterPath id r).table id = s.book.table id := by
  unfold bookAfterPath
  split
  · exact table_update id s.book _
  · rfl

def chosenHandle (s : Session) (id : ClientId) (r : RemoteAddress) : Option PathHandle :=
  (s.inner.path (id.scoped r)).bind fun o => (s.book.table id).keyOf r o.fingerprint

lemma run_servePath (r : RemoteAddress) (s : Session) :
    (servePath (failoverSelector.within innerPlace) bookPlace id { remote := r }).run elapse s =
      (.ok ⟨s.chosenHandle id r⟩, { s with book := s.bookAfterPath id r }) := by
  have hchosen : ((failoverSelector.within innerPlace).path (id.scoped r)).run elapse s =
      (.ok (s.inner.path (id.scoped r)), s) := rfl
  simp only [servePath, SelectorMethod.required, MethodError.required, Procedure.run_bind, hchosen,
    chosenHandle, bookAfterPath]
  cases s.inner.path (id.scoped r) with
  | none => rfl
  | some o =>
    simp only [Procedure.run_stretch, bookPlace, table_update, Option.bind_some, Option.isSome_some,
      if_true]
    rfl

end Session

/-! ### What the caller's end does -/

namespace ProxyState

/-- The handles are told before the far end has answered. -/
def issued (s : ProxyState) : SelectorCall → ProxyState
  | .start r ps | .refresh r ps => { s with handles := (s.handles.issue r ps).2 }
  | _ => s

lemma offer_eq (s : ProxyState) (r : RemoteAddress) (ps : List PathObject) :
    s.offer r ps = ({ remote := r, paths := some (records s.handles.next ps) },
      { s with handles := (s.handles.issue r ps).2 }) := by
  simp only [offer, HandleTable.issue, HandleTable.zip_map_fst_number]
  rfl

lemma ask_of_refuses {s : ProxyState} {call : SelectorCall} (h : s.lifecycle.Refuses call) :
    s.ask call = (.error (.selector (.remoteClosed call.remote call.operation)), s) := by
  cases call with
  | start r ps => exact h.elim
  | _ =>
    simp only [RemoteLifecycle.Refuses, SelectorCall.remote] at h
    simp only [ask, SelectorCall.remote, RemoteLifecycle.ensureOpen_eq, if_pos h]
    rfl

lemma ask_of_not_refuses {s : ProxyState} {call : SelectorCall}
    (h : ¬s.lifecycle.Refuses call) :
    s.ask call = (.ok (message s.handles.next call), s.issued call) := by
  cases call with
  | start r ps =>
    simp only [ask, offer_eq]
    rfl
  | _ =>
    simp only [RemoteLifecycle.Refuses, SelectorCall.remote] at h
    simp only [ask, offer_eq, SelectorCall.remote, RemoteLifecycle.ensureOpen_eq, if_neg h]
    rfl

end ProxyState

/-! ### A call between its request and its answer -/

section Asking

variable {σ : Type} {elapse : Nat → σ → σ} {C : Caller σ} {p : Procedure.Place σ ProxyState} {s : σ}
  {call : SelectorCall}

lemma run_refused (hp : p.Lawful) (h : (p.get s).lifecycle.Refuses call) :
    ((selector C p).call call).run elapse s = (call.refusal, s) := by
  have hask := ProxyState.ask_of_refuses h
  cases call with
  | path r =>
    simp only [Selector.call, selector, Procedure.run_bind, Procedure.run_read, hask]
    rfl
  | _ =>
    simp only [Selector.call, selector, update, Procedure.run_bind, Procedure.run_stretch, hask,
      hp.set_get]
    rfl

lemma run_asked (hc : ∀ r, call ≠ .path r) (h : ¬(p.get s).lifecycle.Refuses call)
    {reply : Except CallError Unit} {t : σ}
    (hrequest : (C.request (SelectorMethod.of call).name selectorMessage unit
      (message (p.get s).handles.next call)).run elapse (p.set ((p.get s).issued call) s) =
        (reply, t)) :
    ((selector C p).call call).run elapse s =
      (.done (reply.mapError .call), p.set ((p.get t).settleUpdate call reply).2 t) := by
  have hask := ProxyState.ask_of_not_refuses h
  have hupdate : (update C p call).run elapse s =
      (reply.mapError .call, p.set ((p.get t).settleUpdate call reply).2 t) := by
    simp only [update, Procedure.run_bind, Procedure.run_stretch]
    simp only [hask, Procedure.run_bind, hrequest, Procedure.run_stretch]
    rfl
  cases call with
  | path r => exact absurd rfl (hc r)
  | _ =>
    simp only [Selector.call, selector, Procedure.run_bind, hupdate]
    rfl

lemma run_asked_path {r : RemoteAddress} (h : ¬(p.get s).lifecycle.Refuses (.path r))
    {reply : Except CallError PathReply} {t : σ}
    (hrequest : (C.request SelectorMethod.path.name selectorMessage pathReply
      { remote := some r }).run elapse s = (reply, t)) :
    ((selector C p).call (.path r)).run elapse s = (.chosen ((p.get t).settlePath reply), t) := by
  have hask := ProxyState.ask_of_not_refuses h
  simp only [Selector.call, selector, Procedure.run_bind, Procedure.run_read]
  simp only [hask, message, Procedure.run_bind, hrequest, Procedure.run_read]
  rfl

/-- A method that is not asked for a path answers with nothing but its outcome. -/
lemma dispatch_update (S : Selector σ) (b : Procedure.Place σ HandleBook) (server : Server σ)
    (id : ClientId) (hc : ∀ r, call ≠ .path r) (payload : List UInt8) :
    (registerSelector S b server).dispatch id (SelectorMethod.of call).name payload =
      Server.handler (SelectorMethod.of call).name selectorMessage unit
        (serveUpdate S b (SelectorMethod.of call)) id payload := by
  rw [dispatch_registerSelector]
  cases call with
  | path r => exact absurd rfl (hc r)
  | _ => rfl

end Asking

namespace Session

open Connected

variable (elapse : Nat → Session → Session) {base : Server Session} (id : ClientId) {limit : Nat}
  {s : Session} {call : SelectorCall}

/-- What an update that is not refused leaves, but for the client. -/
def updated (s : Session) (id : ClientId) (call : SelectorCall) : Session :=
  { s.serve id s.proxy.handles.next call with
    proxy := ((s.proxy.issued call).settleUpdate call (.ok ())).2 }

lemma run_of_refuses (h : s.proxy.lifecycle.Refuses call) :
    ((Connected.selector failoverSelector base id).call call).run elapse s = (call.refusal, s) :=
  run_refused proxyPlace_lawful h

lemma run_update (hp : ∀ r, call ≠ .path r) (h : ¬s.proxy.lifecycle.Refuses call)
    (hs : Sendable (min limit base.frameLimit) call) (hq : s.client.Quiet limit) :
    ∃ c : Client, c.Quiet limit ∧
      ((Connected.selector failoverSelector base id).call call).run elapse s =
        (.done (.ok ()), { s.updated id call with client := c }) := by
  have hserve (c : Client) :
      (serveUpdate (failoverSelector.within innerPlace) bookPlace (SelectorMethod.of call) id
          (message s.proxy.handles.next call)).run elapse
        { s with proxy := s.proxy.issued call, client := c } =
      (.ok (), { s.serve id s.proxy.handles.next call with
        proxy := s.proxy.issued call, client := c }) := by
    rw [run_serveUpdate hp, serve_caller]
  obtain ⟨c, hc, hrequest⟩ := run_request { s with proxy := s.proxy.issued call }
    { s.serve id s.proxy.handles.next call with proxy := s.proxy.issued call }
    (dispatch_update _ _ base id hp) hq (hs.exists_write _ _) hserve (readsBack_unit ())
    ⟨0, Nat.zero_le 9, takes_unit ()⟩
  exact ⟨c, hc, run_asked (C := Connected.caller failoverSelector base id) (p := proxyPlace) (s := s)
    hp h hrequest⟩

lemma run_path {r : RemoteAddress} (h : ¬s.proxy.lifecycle.Refuses (.path r))
    (hs : Sendable (min limit base.frameLimit) (.path r)) (hq : s.client.Quiet limit) :
    ∃ c : Client, c.Quiet limit ∧
      ((Connected.selector failoverSelector base id).call (.path r)).run elapse s =
        (.chosen (.ok ((s.chosenHandle id r).bind s.proxy.handles.resolve)),
          { s with client := c, book := s.bookAfterPath id r }) := by
  have hdispatch (payload : List UInt8) :
      (Connected.server failoverSelector base).dispatch id SelectorMethod.path.name payload =
        Server.handler SelectorMethod.path.name selectorMessage pathReply
          (servePath (failoverSelector.within innerPlace) bookPlace) id payload :=
    dispatch_registerSelector _ _ base id payload .path
  have hserve (c : Client) :
      (servePath (failoverSelector.within innerPlace) bookPlace id { remote := r }).run elapse
        { s with client := c } =
      (.ok ⟨s.chosenHandle id r⟩, { s with book := s.bookAfterPath id r, client := c }) :=
    run_servePath r _
  obtain ⟨c, hc, hrequest⟩ := run_request s { s with book := s.bookAfterPath id r } hdispatch hq
    (hs.exists_write s.proxy.handles.next _) hserve (readsBack_pathReply _) (takes_pathReply _)
  exact ⟨c, hc, run_asked_path (C := Connected.caller failoverSelector base id) (p := proxyPlace)
    (s := s) h hrequest⟩

/-! ### In step with the reference -/

/-- After handles below `n` were issued, both ends together have what the reference has. -/
structure Follows (id : ClientId) (limit n : Nat) (s : Session) (ref : Reference) : Prop where
  quiet : s.client.Quiet limit
  lifecycle : s.proxy.lifecycle = ref.lifecycle
  next : s.proxy.handles.next = UInt64.ofNat n
  serves : s.inner.Serves id ref.failover
  mirrors : Mirrors (s.book.table id) s.proxy.handles.toOfferTable n ref.failover.offered ref.down

variable {elapse id} {n : Nat} {ref : Reference}

lemma follows_new {c : Client} (hc : c.Quiet limit) :
    Follows id limit 1 { client := c, inner := {} } {} :=
  ⟨hc, rfl, rfl, FailoverState.serves_empty id, mirrors_empty 1⟩

lemma Follows.client (h : Follows id limit n s ref) {c : Client} (hc : c.Quiet limit) :
    Follows id limit n { s with client := c } ref :=
  ⟨hc, h.lifecycle, h.next, h.serves, h.mirrors⟩

lemma Follows.offer (h : Follows id limit n s ref) (r : RemoteAddress) {ps : List PathObject}
    (hd : (ps.map PathObject.fingerprint).Nodup) (hn : n + ps.length ≤ UInt64.size)
    {served home : FailoverState} (hs : served.Serves id home)
    (ho : ∀ r', home.offered r' = if r' = r then ps else ref.failover.offered r') :
    Follows id limit (n + ps.length)
      { s with
        proxy :=
          { handles := (s.proxy.handles.issue r ps).2
            lifecycle := s.proxy.lifecycle.markPopulated r }
        inner := served
        book := s.book.update id (·.replaceWith r
          (HandleTable.number s.proxy.handles.next (ps.map PathObject.bare))) }
      ({ ref with failover := home }.renew r) where
  quiet := h.quiet
  lifecycle := congrArg (·.markPopulated r) h.lifecycle
  next := by
    simp only [HandleTable.issue, h.next, Nat.toUInt64, ← UInt64.ofNat_add]
  serves := hs
  mirrors := by
    have hoffered : home.offered = fun r' => if r' = r then ps else ref.failover.offered r' :=
      funext ho
    simp only [table_update, HandleTable.issue, h.next, Reference.renew, hoffered]
    exact h.mirrors.offer r hd hn

theorem Follows.updated (h : Follows id limit n s ref) (hp : ∀ r, call ≠ .path r)
    (hr : ¬ref.lifecycle.Refuses call) (hd : (call.paths.map PathObject.fingerprint).Nodup)
    (hn : n + call.paths.length ≤ UInt64.size) :
    (ref.answer call).1 = .done (.ok ()) ∧
      Follows id limit (n + call.paths.length) (s.updated id call) (ref.answer call).2 := by
  cases call with
  | start r ps =>
    rw [Reference.answer_start]
    exact ⟨rfl, h.offer r hd hn (h.serves.start r ps) fun r' => ref.failover.offered_start r r' ps⟩
  | refresh r ps =>
    rw [Reference.answer_refresh _ hr]
    exact ⟨rfl, h.offer r hd hn (h.serves.refresh r ps) fun r' =>
      ref.failover.offered_refresh r r' ps⟩
  | pathDown r f i =>
    rw [Reference.answer_pathDown _ hr]
    have hoffered : (ref.failover.pathDown r f i).offered = ref.failover.offered :=
      funext fun r' => ref.failover.offered_pathDown r r' f i
    refine ⟨rfl, h.quiet, h.lifecycle, h.next, h.serves.pathDown r f i, ?_⟩
    simp only [hoffered]
    exact h.mirrors.retract r f
  | close r =>
    rw [Reference.answer_close _ hr]
    have hoffered : (ref.failover.close r).offered =
        fun r' => if r' = r then [] else ref.failover.offered r' :=
      funext fun r' => ref.failover.offered_close r r'
    refine ⟨rfl, h.quiet, congrArg (·.markClosed r) h.lifecycle, h.next, h.serves.close r, ?_⟩
    simp only [hoffered, Session.updated, serve, table_update]
    exact h.mirrors.forget r
  | path r => exact absurd rfl (hp r)

/-- The chosen handle leads to the object chosen at home, unless its path is down. -/
lemma Follows.resolve_chosenHandle (h : Follows id limit n s ref) (r : RemoteAddress) :
    (s.chosenHandle id r).bind s.proxy.handles.resolve =
      (ref.failover.path r).bind fun o => if (r, o.fingerprint) ∈ ref.down then none else some o := by
  simp only [chosenHandle, h.serves.path]
  cases hchosen : ref.failover.path r with
  | none => rfl
  | some o => exact h.mirrors.resolve_keyOf (FailoverState.mem_offered_of_path hchosen)

/-- One call is answered as by the reference, and both stay in step. -/
theorem Follows.step (elapse : Nat → Session → Session) (h : Follows id limit n s ref)
    (call : SelectorCall)
    (hs : ¬ref.lifecycle.Refuses call → Sendable (min limit base.frameLimit) call)
    (hn : n + call.paths.length ≤ UInt64.size) :
    ∃ n' ≤ n + call.paths.length, ∃ s' : Session,
      ((Connected.selector failoverSelector base id).call call).run elapse s =
        ((ref.answer call).1, s') ∧
        Follows id limit n' s' (ref.answer call).2 := by
  by_cases hr : ref.lifecycle.Refuses call
  · have hr' : s.proxy.lifecycle.Refuses call := h.lifecycle.symm ▸ hr
    rw [ref.answer_of_refuses hr]
    exact ⟨n, Nat.le_add_right _ _, s, run_of_refuses elapse id hr', h⟩
  · have hr' : ¬s.proxy.lifecycle.Refuses call := h.lifecycle.symm ▸ hr
    have hsend := hs hr
    by_cases hp : ∀ r, call ≠ .path r
    · obtain ⟨c, hc, hrun⟩ := run_update elapse id hp hr' hsend h.quiet
      obtain ⟨hdone, hfollows⟩ := h.updated hp hr hsend.distinct hn
      rw [hdone]
      exact ⟨_, Nat.le_refl _, _, hrun, hfollows.client hc⟩
    · simp only [not_forall, Decidable.not_not] at hp
      obtain ⟨r, rfl⟩ := hp
      obtain ⟨c, hc, hrun⟩ := run_path elapse id hr' hsend h.quiet
      rw [h.resolve_chosenHandle] at hrun
      rw [ref.answer_path hr]
      refine ⟨n, Nat.le_refl _, _, hrun, hc, h.lifecycle, h.next, h.serves, ?_⟩
      rw [table_bookAfterPath]
      exact h.mirrors

theorem Follows.runAll (h : Follows id limit n s ref) {calls : List SelectorCall}
    (hcalls : Reference.Admits (min limit base.frameLimit) ref calls)
    (hn : n + (calls.flatMap SelectorCall.paths).length ≤ UInt64.size) :
    ((Connected.selector failoverSelector base id).runAll elapse calls s).1 =
      (ref.answerAll calls).1 := by
  induction calls generalizing n s ref with
  | nil => rfl
  | cons call calls ih =>
    rw [List.flatMap_cons, List.length_append, ← Nat.add_assoc] at hn
    obtain ⟨n', hle, s', hrun, hfollows⟩ := h.step elapse call hcalls.1 (by omega)
    have hrest := ih hfollows hcalls.2 (by omega)
    simp only [Selector.runAll, hrun, hrest]
    rfl

/-- Whatever calls are made one after another on a remote selector over a fresh default selector,
each is answered what the reference answers, as long as those that are not refused can be sent and
the counter of handles does not run over. -/
theorem runAll_eq_answerAll (elapse : Nat → Session → Session) (base : Server Session)
    (id : ClientId) {c : Client} {limit : Nat} (hc : c.Quiet limit) {calls : List SelectorCall}
    (hcalls : Reference.Admits (min limit base.frameLimit) {} calls)
    (hn : (calls.flatMap SelectorCall.paths).length < UInt64.size) :
    ((Connected.selector failoverSelector base id).runAll elapse calls
      { client := c, inner := {} }).1 = (Reference.answerAll {} calls).1 :=
  (follows_new hc).runAll hcalls (by omega)

/-- Failover, a path that is chosen though it is down, a new object for an old fingerprint, another
remote with the same fingerprint, and a remote that is closed and opened again. -/
theorem runAll_of_two_remotes :
    let path (label : Nat) (f : String) : PathObject :=
      ⟨some label, ⟨⟨"1-1"⟩, ⟨"1-2"⟩, ⟨f⟩, .epoch, none⟩⟩
    let r : RemoteAddress := ⟨"r"⟩
    let q : RemoteAddress := ⟨"q"⟩
    let i : Interface := ⟨⟨"1-1"⟩, 1⟩
    let calls : List SelectorCall := [.start r [path 0 "a", path 1 "b"], .start q [path 2 "a"],
      .pathDown r ⟨"a"⟩ i, .path r, .path q, .pathDown r ⟨"b"⟩ i, .path r, .refresh r [path 3 "a"],
      .path r, .close r, .path r, .path q, .start r [path 1 "b"], .path r]
    let done : SelectorAnswer := .done (.ok ())
    let chosen (o : Option PathObject) : SelectorAnswer := .chosen (.ok o)
    Reference.Admits (min 512 1024) {} calls ∧
      (calls.flatMap SelectorCall.paths).length < UInt64.size ∧
      ((Connected.selector failoverSelector { frameLimit := 1024 } ⟨1⟩).runAll (fun _ s => s) calls
        { client := { frameLimit := 512 }, inner := {} }).1 =
        [done, done, done, chosen (path 1 "b"), chosen (path 2 "a"), done, chosen none, done,
          chosen (path 3 "a"), done, .chosen (.error (.selector (.remoteClosed r "path"))),
          chosen (path 2 "a"), done, chosen (path 1 "b")] := by
  intro path r q i calls done chosen
  have hcalls : Reference.Admits (min 512 1024) {} calls := by decide +kernel
  have hn : (calls.flatMap SelectorCall.paths).length < UInt64.size := by decide +kernel
  have hrun := runAll_eq_answerAll (fun _ s => s) { frameLimit := 1024 } ⟨1⟩
    (Client.quiet_new "" 512) hcalls hn
  refine ⟨hcalls, hn, hrun.trans ?_⟩
  decide +kernel

end Session

end PathPolicy.Remote
