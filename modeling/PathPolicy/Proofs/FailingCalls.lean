import PathPolicy.Proofs.Connected
import PathPolicy.Proofs.Delivery
import PathPolicy.Proofs.TableAgreement

/-!
# A remote selector whose calls may fail

A caller's selector, its client, and a server with any selector, connected and used for one call at
a time. Calls may be refused, fail before their request goes out, or be answered with an error.
Short of a lost connection, the tables of both ends keep to what was told: a call that failed before
its request went out is missed at the far end, and no other is.
-/

namespace PathPolicy

namespace SelectorAnswer

def callError? : SelectorAnswer → Option CallError
  | .done (.error (.call e)) | .chosen (.error (.call e)) => some e
  | _ => none

def Unsent (a : SelectorAnswer) : Prop := ∃ e ∈ a.callError?, e.Unsent

def Lost (a : SelectorAnswer) : Prop := ∃ e ∈ a.callError?, e.Lost

end SelectorAnswer

namespace Remote

open Call

namespace Connected

variable {σ : Type} (S : Selector σ) (frameLimit : Nat) (id : ClientId) (elapse : Nat → σ → σ)

def elapsed (ms : Nat) (s : Connected σ) : Connected σ := { s with inner := elapse ms s.inner }

lemma run_within_inner {α : Type} (p : Procedure σ α) (s : Connected σ) :
    (p.within innerPlace).run (elapsed elapse) s =
      ((p.run elapse s.inner).1, { s with inner := (p.run elapse s.inner).2 }) := by
  induction p generalizing s with
  | done a => rfl
  | act update resume ih => exact ih s.inner _
  | sleep ms rest ih => exact ih _

/-- What the far end's selector is told. -/
def forwarded : SelectorCall → Procedure σ (Except PolicyError Unit)
  | .start r ps => S.start (id.scoped r) (ps.map PathObject.bare)
  | .refresh r ps => S.refresh (id.scoped r) (ps.map PathObject.bare)
  | .pathDown r f i => S.pathDown (id.scoped r) f i
  | .close r => S.close (id.scoped r)
  | .path _ => return .ok ()

/-- The handles at the far end once a call has been served. -/
def bookAfter (next : UInt64) (book : HandleBook) : SelectorCall → HandleBook
  | .path _ | .pathDown .. => book
  | call => book.update id (heard next call)

lemma table_bookAfter (next : UInt64) (book : HandleBook) (call : SelectorCall) :
    (bookAfter id next book call).table id = heard next call (book.table id) := by
  cases call with
  | path r => rfl
  | pathDown r f i => rfl
  | _ => exact table_update id book _

/-- The far end serves a call and does not look at the caller's end. -/
lemma run_serveUpdate {call : SelectorCall} (hc : ∀ r, call ≠ .path r) (next : UInt64)
    (s : Connected σ) (client : Client) :
    (serveUpdate (S.within innerPlace) bookPlace (SelectorMethod.of call) id
        (message next call)).run (elapsed elapse) { s with client } =
      (told ((forwarded S id call).run elapse s.inner).1,
        { s with
          client
          book := bookAfter id next s.book call
          inner := ((forwarded S id call).run elapse s.inner).2 }) := by
  have hoffer (r : RemoteAddress) (ps : List PathObject)
      (p : Procedure σ (Except PolicyError Unit)) :
      ((Procedure.write (bookPlace.modify fun b => b.update id (·.replaceWith r
          (((records next ps).map PathRecord.handle).zip
            ((records next ps).map fun record => (⟨none, record.path⟩ : PathObject)))))).bind
        fun _ => (p.within innerPlace).bind fun outcome => .done (told outcome)).run
          (elapsed elapse) { s with client } =
        (told (p.run elapse s.inner).1,
          { s with
            client
            book := bookAfter id next s.book (.start r ps)
            inner := (p.run elapse s.inner).2 }) := by
    have h := Procedure.run_bind (elapsed elapse) (p.within innerPlace)
      (fun outcome => pure (told outcome))
      { s with client, book := bookAfter id next s.book (.start r ps) }
    rw [run_within_inner] at h
    rw [zip_records]
    exact h
  cases call with
  | start r ps =>
    rw [forwarded, ← map_path_records next ps]
    exact hoffer r ps _
  | refresh r ps =>
    rw [forwarded, ← map_path_records next ps]
    exact hoffer r ps _
  | pathDown r f i =>
    have h := Procedure.run_bind (elapsed elapse) ((S.pathDown (id.scoped r) f i).within innerPlace)
      (fun outcome => pure (told outcome)) { s with client }
    rw [run_within_inner] at h
    exact h
  | close r =>
    have h := Procedure.run_bind (elapsed elapse) ((S.close (id.scoped r)).within innerPlace)
      (fun outcome => do
        .write (bookPlace.modify fun b => b.update id (·.removeRemote r))
        pure (told outcome)) { s with client }
    rw [run_within_inner] at h
    exact h
  | path r => exact absurd rfl (hc r)

lemma run_servePath (r : RemoteAddress) (s : Connected σ) :
    ∃ (result : Except MethodError PathReply) (book : HandleBook) (inner : σ),
      (∀ client, (servePath (S.within innerPlace) bookPlace id { remote := r }).run
        (elapsed elapse) { s with client } = (result, { s with client, book, inner })) ∧
      book.table id = s.book.table id := by
  have hpath (client : Client) : ((S.within innerPlace).path (id.scoped r)).run (elapsed elapse)
      { s with client } = (((S.path (id.scoped r)).run elapse s.inner).1,
        { s with client, inner := ((S.path (id.scoped r)).run elapse s.inner).2 }) :=
    run_within_inner elapse (S.path (id.scoped r)) { s with client }
  generalize (S.path (id.scoped r)).run elapse s.inner = chosen at hpath
  obtain ⟨_ | _ | o, inner⟩ := chosen
  · rename_i e
    refine ⟨.error e.toMethodError, s.book, inner, fun client => ?_, rfl⟩
    simp only [servePath, SelectorMethod.required, MethodError.required, Procedure.run_bind, hpath,
      Procedure.run_pure]
  · refine ⟨.ok {}, s.book, inner, fun client => ?_, rfl⟩
    simp only [servePath, SelectorMethod.required, MethodError.required, Procedure.run_bind, hpath,
      Procedure.run_pure]
  · refine ⟨.ok ⟨(s.book.table id).keyOf r o.fingerprint⟩, s.book.update id fun t => t, inner,
      fun client => ?_, table_update id s.book _⟩
    simp only [servePath, SelectorMethod.required, MethodError.required, Procedure.run_bind, hpath,
      Procedure.run_stretch, bookPlace, table_update]
    rfl

/-! ### What a call leaves at both ends -/

/-- Whether the far end has missed the last offer for `r`, once another call has been answered. -/
def missedAfter (r : RemoteAddress) (missed : Prop) (e : SelectorCall × SelectorAnswer) : Prop :=
  if e.1.Offers r ∧ e.2 ≠ e.1.refusal then e.2.Unsent else missed

lemma missedAfter_of_unsent {call : SelectorCall} {a : SelectorAnswer} (ha : a.Unsent)
    (r : RemoteAddress) (missed : Prop) :
    missedAfter r missed (call, a) ↔ call.Offers r ∨ missed := by
  have hne : a ≠ call.refusal := by
    rintro rfl
    obtain ⟨e, he, -⟩ := ha
    cases call <;> cases he
  by_cases ho : call.Offers r
  · simp [missedAfter, ho, hne, ha]
  · simp [missedAfter, ho]

lemma missedAfter_of_sent {call : SelectorCall} {a : SelectorAnswer} (ha : ¬a.Unsent)
    {r : RemoteAddress} (hne : call.Offers r → a ≠ call.refusal) (missed : Prop) :
    missedAfter r missed (call, a) ↔ ¬call.Offers r ∧ missed := by
  by_cases ho : call.Offers r
  · simp [missedAfter, ho, hne ho, ha]
  · simp [missedAfter, ho]

/-- The request of the last call that offered paths for `r`, and was not refused, never left the
caller. -/
def Missed (r : RemoteAddress) (trace : List (SelectorCall × SelectorAnswer)) : Prop :=
  trace.foldl (missedAfter r) False

/-- After handles below `n` were issued, the client waits for nothing and the tables agree. -/
structure InStep (id : ClientId) (limit n : Nat) (missed : RemoteAddress → Prop) (s : Connected σ) :
    Prop where
  quiet : s.client.Quiet limit
  next : s.proxy.handles.next = UInt64.ofNat n
  agreement : Agreement (s.book.table id) s.proxy.handles.toOfferTable n missed

variable {S frameLimit id elapse} {limit n : Nat} {missed : RemoteAddress → Prop} {s : Connected σ}
  {call : SelectorCall}

lemma release_server (s : Connected σ) (client : Client) :
    (server S { frameLimit }).release id (clientPlace.set client s) =
      clientPlace.set client { s with book := s.book.release id } := rfl

lemma delivery_update (hp : ∀ r, call ≠ .path r) (hq : s.client.Quiet limit) {next : UInt64}
    {answered : Except CallError Unit × Connected σ}
    (hrequest : ((caller S { frameLimit } id).request (SelectorMethod.of call).name
      Codec.selectorMessage Codec.unit (message next call)).run (elapsed elapse) s = answered) :
    Delivery limit clientPlace s
      { s with
        book := bookAfter id next s.book call
        inner := ((forwarded S id call).run elapse s.inner).2 } answered := by
  rw [← hrequest]
  exact delivery_request (elapsed elapse) clientPlace_lawful (server S { frameLimit }) id
    (dispatch_update _ _ _ id hp) hq (Codec.readsBack_selectorMessage _)
    (run_serveUpdate S id elapse hp next s) (release_server s)

lemma delivery_path {r : RemoteAddress} (hq : s.client.Quiet limit)
    {answered : Except CallError PathReply × Connected σ}
    (hrequest : ((caller S { frameLimit } id).request SelectorMethod.path.name Codec.selectorMessage
      Codec.pathReply { remote := some r }).run (elapsed elapse) s = answered) :
    ∃ (book : HandleBook) (inner : σ), book.table id = s.book.table id ∧
      Delivery limit clientPlace s { s with book, inner } answered := by
  obtain ⟨result, book, inner, hserve, htable⟩ := run_servePath S id elapse r s
  refine ⟨book, inner, htable, ?_⟩
  rw [← hrequest]
  exact delivery_request (elapsed elapse) clientPlace_lawful (server S { frameLimit }) id
    (fun payload => dispatch_registerSelector _ _ _ id payload .path) hq
    (Codec.readsBack_selectorMessage _) hserve (release_server s)

theorem InStep.update (h : InStep id limit n missed s) (hp : ∀ r, call ≠ .path r)
    (hr : ¬s.proxy.lifecycle.Refuses call) (hn : n + call.paths.length ≤ UInt64.size)
    {a : SelectorAnswer} {s' : Connected σ}
    (hrun : ((selector S { frameLimit } id).call call).run (elapsed elapse) s = (a, s'))
    (ha : ¬a.Lost) :
    InStep id limit (n + call.paths.length) (fun r => missedAfter r (missed r) (call, a)) s' := by
  obtain ⟨⟨reply, t⟩, hrequest⟩ : ∃ answered,
      ((caller S { frameLimit } id).request (SelectorMethod.of call).name Codec.selectorMessage
        Codec.unit (message s.proxy.handles.next call)).run (elapsed elapse)
          { s with proxy := s.proxy.issued call } = answered := ⟨_, rfl⟩
  have hquiet : ({ s with proxy := s.proxy.issued call } : Connected σ).client.Quiet limit :=
    h.quiet
  have hdelivery := delivery_update hp hquiet hrequest
  have hasked := run_asked (C := caller S { frameLimit } id) (p := proxyPlace) (s := s) hp hr hrequest
  rw [selector, hasked] at hrun
  obtain ⟨rfl, rfl⟩ := Prod.mk.inj hrun
  cases hdelivery with
  | unsent hc he =>
    -- The handles of an offer were issued all the same.
    rename_i c e
    refine ⟨hc, ProxyState.next_after h.next call _, ?_⟩
    exact (h.agreement.call_missed h.next hn e).congr fun r => missedAfter_of_unsent ⟨e, rfl, he⟩ r _
  | lost he =>
    rename_i e
    exact absurd ⟨e, rfl, he⟩ ha
  | served hc hsent =>
    refine ⟨hc, ProxyState.next_after h.next call _, ?_⟩
    have hnot : ¬(SelectorAnswer.done (reply.mapError .call)).Unsent := by
      rintro ⟨e, he, hunsent⟩
      cases reply with
      | ok u => cases he
      | error e' =>
        obtain rfl := Option.some.inj he
        exact hsent e' rfl hunsent
    have hne : SelectorAnswer.done (reply.mapError .call) ≠ call.refusal := by
      cases reply <;> cases call <;>
        simp [SelectorCall.refusal, SelectorCall.failed, Except.mapError]
    -- The far end took the handles down before its selector could fail.
    have hagree := h.agreement.call_told h.next call reply
    rw [← table_bookAfter] at hagree
    exact hagree.congr fun r => missedAfter_of_sent hnot (fun _ => hne) _

theorem InStep.path {r : RemoteAddress} (h : InStep id limit n missed s)
    (hr : ¬s.proxy.lifecycle.Refuses (.path r)) {a : SelectorAnswer} {s' : Connected σ}
    (hrun : ((selector S { frameLimit } id).call (.path r)).run (elapsed elapse) s = (a, s'))
    (ha : ¬a.Lost) : InStep id limit n missed s' := by
  obtain ⟨⟨reply, t⟩, hrequest⟩ : ∃ answered,
      ((caller S { frameLimit } id).request SelectorMethod.path.name Codec.selectorMessage
        Codec.pathReply { remote := some r }).run (elapsed elapse) s = answered := ⟨_, rfl⟩
  obtain ⟨book, inner, htable, hdelivery⟩ := delivery_path h.quiet hrequest
  have hasked := run_asked_path (C := caller S { frameLimit } id) (p := proxyPlace) (s := s) hr hrequest
  rw [selector, hasked] at hrun
  obtain ⟨rfl, rfl⟩ := Prod.mk.inj hrun
  cases hdelivery with
  | unsent hc he => exact ⟨hc, h.next, h.agreement⟩
  | lost he =>
    rename_i e
    exact absurd ⟨e, rfl, he⟩ ha
  | served hc hsent =>
    have hagree := h.agreement
    rw [← htable] at hagree
    exact ⟨hc, h.next, hagree⟩

theorem InStep.step (h : InStep id limit n missed s) (call : SelectorCall)
    (hn : n + call.paths.length ≤ UInt64.size) {a : SelectorAnswer} {s' : Connected σ}
    (hrun : ((selector S { frameLimit } id).call call).run (elapsed elapse) s = (a, s'))
    (ha : ¬a.Lost) :
    ∃ n' ≤ n + call.paths.length,
      InStep id limit n' (fun r => missedAfter r (missed r) (call, a)) s' := by
  by_cases hr : s.proxy.lifecycle.Refuses call
  · rw [selector, run_refused proxyPlace_lawful hr] at hrun
    obtain ⟨rfl, rfl⟩ := Prod.mk.inj hrun
    exact ⟨n, Nat.le_add_right _ _, h.quiet, h.next,
      h.agreement.congr fun r => by simp [missedAfter]⟩
  · by_cases hp : ∀ r, call ≠ .path r
    · exact ⟨_, Nat.le_refl _, h.update hp hr hn hrun ha⟩
    · simp only [not_forall, Decidable.not_not] at hp
      obtain ⟨r, rfl⟩ := hp
      obtain ⟨hquiet, hnext, hagree⟩ := h.path hr hrun ha
      exact ⟨n, Nat.le_add_right _ _, hquiet, hnext,
        hagree.congr fun r' => by simp [missedAfter, SelectorCall.Offers]⟩

theorem InStep.runAll (h : InStep id limit n missed s) {calls : List SelectorCall}
    (hn : n + (calls.flatMap SelectorCall.paths).length ≤ UInt64.size)
    (hlost : ∀ a ∈ ((selector S { frameLimit } id).runAll (elapsed elapse) calls s).1, ¬a.Lost) :
    ∃ n', InStep id limit n'
      (fun r => (calls.zip ((selector S { frameLimit } id).runAll (elapsed elapse) calls s).1).foldl
        (missedAfter r) (missed r))
      ((selector S { frameLimit } id).runAll (elapsed elapse) calls s).2 := by
  induction calls generalizing n missed s with
  | nil => exact ⟨n, h⟩
  | cons call calls ih =>
    rw [List.flatMap_cons, List.length_append, ← Nat.add_assoc] at hn
    simp only [Selector.runAll, List.zip_cons_cons, List.foldl_cons, List.forall_mem_cons]
      at hlost ⊢
    obtain ⟨n', hle, hstep⟩ := h.step call (by omega) rfl hlost.1
    exact ih hstep (by omega) hlost.2

lemma inStep_new {c : Client} (hc : c.Quiet limit) (inner : σ) :
    InStep id limit 1 (fun _ => False) ({ client := c, inner } : Connected σ) :=
  ⟨hc, rfl, agreement_empty⟩

/-- However the calls made on a remote selector end, short of a lost connection, the far end has
each handle that the caller has for a remote, unless the last offer for the remote never left the
caller: then it has none of them. -/
theorem keyOf_served_iff (S : Selector σ) (frameLimit : Nat) (id : ClientId) (elapse : Nat → σ → σ)
    {c : Client} {limit : Nat} (hc : c.Quiet limit) (inner : σ) {calls : List SelectorCall}
    (hn : (calls.flatMap SelectorCall.paths).length < UInt64.size) {answers : List SelectorAnswer}
    {s : Connected σ}
    (hrun : (selector S { frameLimit } id).runAll (elapsed elapse) calls { client := c, inner } =
      (answers, s))
    (hlost : ∀ a ∈ answers, ¬a.Lost) {r : RemoteAddress} {f : Fingerprint} {h : PathHandle}
    (hk : s.proxy.handles.keyOf r f = some h) :
    (s.book.table id).keyOf r f = some h ↔ ¬Missed r (calls.zip answers) := by
  have hanswers := congrArg Prod.fst hrun
  have hstate := congrArg Prod.snd hrun
  subst hanswers hstate
  obtain ⟨n, -, -, hagree⟩ := (inStep_new hc inner).runAll (by omega) hlost
  constructor
  · intro hs hm
    exact hagree.apart r hm f h hk hs
  · intro hm
    exact hagree.told r hm f h hk

/-- A refresh whose path expires before the epoch fails. The caller has a new handle, which the far
end was not told, and not the old one, with which the far end still answers: no path is chosen. -/
theorem keyOf_after_failed_refresh :
    let path (label : Nat) (f : String) (expiry : Instant) : PathObject :=
      ⟨some label, ⟨⟨"1-1"⟩, ⟨"1-2"⟩, ⟨f⟩, expiry, none⟩⟩
    let r : RemoteAddress := ⟨"r"⟩
    let calls : List SelectorCall :=
      [.start r [path 0 "a" .epoch], .refresh r [path 1 "b" ⟨-1, 0⟩], .path r]
    let run := (selector failoverSelector { frameLimit := 1024 } ⟨1⟩).runAll (elapsed fun _ s => s) calls
      { client := { frameLimit := 512 }, inner := {} }
    run.1 = [.done (.ok ()),
        .done (.error (.call (.encode "request" "SystemTime must be later than UNIX_EPOCH"))),
        .chosen (.ok none)] ∧
      run.2.proxy.handles.keyOf r ⟨"b"⟩ = some ⟨2⟩ ∧
      ¬(run.2.book.table ⟨1⟩).keyOf r ⟨"b"⟩ = some ⟨2⟩ ∧
      (run.2.book.table ⟨1⟩).keyOf r ⟨"a"⟩ = some ⟨1⟩ := by
  intro path r calls run
  have hanswers : run.1 = [.done (.ok ()),
      .done (.error (.call (.encode "request" "SystemTime must be later than UNIX_EPOCH"))),
      .chosen (.ok none)] := by decide +kernel
  have hk : run.2.proxy.handles.keyOf r ⟨"b"⟩ = some ⟨2⟩ := by decide +kernel
  have hs : (run.2.book.table ⟨1⟩).keyOf r ⟨"a"⟩ = some ⟨1⟩ := by decide +kernel
  have hrun : (selector failoverSelector { frameLimit := 1024 } ⟨1⟩).runAll (elapsed fun _ s => s) calls
      { client := { frameLimit := 512 }, inner := {} } = (run.1, run.2) := Prod.mk.eta.symm
  clear_value run
  have hlost : ∀ a ∈ run.1, ¬a.Lost := by
    rw [hanswers]
    simp [SelectorAnswer.Lost, SelectorAnswer.callError?, CallError.Lost]
  have hmissed : Missed r (calls.zip run.1) := by
    rw [hanswers]
    simp [Missed, missedAfter, calls, SelectorCall.Offers, SelectorCall.refusal,
      SelectorCall.failed, SelectorAnswer.Unsent, SelectorAnswer.callError?, CallError.Unsent]
  refine ⟨hanswers, hk, fun hsame => ?_, hs⟩
  exact (keyOf_served_iff failoverSelector 1024 ⟨1⟩ (fun _ s => s) (Client.quiet_new "" 512) {}
    (by decide) hrun hlost hk).mp hsame hmissed

end Connected

end Remote

end PathPolicy
