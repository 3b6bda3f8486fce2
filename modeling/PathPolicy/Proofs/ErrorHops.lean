import PathPolicy.Proofs.FailingCalls

/-!
# Errors over any number of connections

An error crosses a connection as the method error it turns into, and a method error that comes from
one connection crosses the next as it is. What class an error is of is seen from its method error
alone. So however many connections an error crosses, it stays of the class it was of where it arose,
and is never taken for a failure of one of the connections.
-/

namespace PathPolicy

namespace PolicyError

lemma isMisuse_eq (e : PolicyError) : e.isMisuse = (e.toMethodError.kind == .misuse) := by
  cases e with
  | selector e => cases e; rfl
  | call e => cases e <;> rfl
  | _ => rfl

lemma isMalformed_eq (e : PolicyError) :
    e.isMalformed = (e.toMethodError.kind == .missingField) := by
  cases e with
  | call e => cases e <;> rfl
  | _ => rfl

/-- The error as it arrives after hops on which these methods were called, one after another. -/
def afterHops (methods : List String) (e : PolicyError) : PolicyError :=
  methods.foldl (fun e method => e.afterHop method) e

lemma toMethodError_afterHops (methods : List String) (e : PolicyError) :
    (e.afterHops methods).toMethodError = e.toMethodError := by
  induction methods generalizing e with
  | nil => rfl
  | cons method methods ih => exact ih (e.afterHop method)

/-- Over any number of hops an error stays misuse or not, and malformed or not; and what arrives
after the last hop is the method error it turned into at the first, and no failed connection. -/
theorem classes_survive_hops (e : PolicyError) (methods : List String) :
    (e.afterHops methods).isMisuse = e.isMisuse ∧
    (e.afterHops methods).isMalformed = e.isMalformed ∧
    (methods ≠ [] → ∃ c : CallError, e.afterHops methods = .call c ∧
      c.methodError? = some e.toMethodError ∧ c.isConnectionFailure = false) := by
  refine ⟨?_, ?_, fun hne => ?_⟩
  · rw [isMisuse_eq, toMethodError_afterHops, isMisuse_eq]
  · rw [isMalformed_eq, toMethodError_afterHops, isMalformed_eq]
  · obtain ⟨front, last, rfl⟩ := (List.eq_nil_or_concat' methods).resolve_left hne
    have hlast : e.afterHops (front ++ [last]) =
        .call (.method last (e.afterHops front).toMethodError) := by
      simp only [afterHops, List.foldl_append, List.foldl_cons, List.foldl_nil, afterHop]
    rw [toMethodError_afterHops] at hlast
    exact ⟨.method last e.toMethodError, hlast, rfl, rfl⟩

/-- Three connections away, the refusal of a closed remote is misuse and says what it said at first. -/
theorem classes_survive_hops_of_closed :
    let e : PolicyError := .selector (.remoteClosed ⟨"r"⟩ "path")
    let methods := ["Selector.Path", "Selector.PathDown", "Selector.Path"]
    methods ≠ [] ∧ (e.afterHops methods).isMisuse = true ∧
      (e.afterHops methods).isMalformed = false ∧
      ∃ c : CallError, e.afterHops methods = .call c ∧
        c.methodError? = some ⟨.misuse, "Remote r is closed: path is not allowed"⟩ ∧
        c.isConnectionFailure = false := by
  intro e methods
  have hne : methods ≠ [] := by decide
  have htold : e.toMethodError = ⟨.misuse, "Remote r is closed: path is not allowed"⟩ := by decide
  obtain ⟨hmisuse, hmalformed, harrives⟩ := classes_survive_hops e methods
  rw [htold] at harrives
  exact ⟨hne, hmisuse, hmalformed, harrives hne⟩

end PolicyError

/-! ### One hop -/

/-- The call as it reaches the selector behind a server, made by a client. -/
def SelectorCall.atFarEnd (id : ClientId) : SelectorCall → SelectorCall
  | .start r ps => .start (id.scoped r) (ps.map PathObject.bare)
  | .path r => .path (id.scoped r)
  | .pathDown r f i => .pathDown (id.scoped r) f i
  | .refresh r ps => .refresh (id.scoped r) (ps.map PathObject.bare)
  | .close r => .close (id.scoped r)

namespace Remote.Connected

open Call Codec

variable {σ : Type} {S : Selector σ} {frameLimit limit : Nat} {id : ClientId}
  {elapse : Nat → σ → σ} {s : Connected σ} {call : SelectorCall} {e : PolicyError}

/-- A request whose method fails comes to the error of the method, under the name it was called by. -/
lemma run_request_of_failed {β : Type} {output : Codec β} {method : SelectorMethod}
    {m : SelectorMessage} {e : MethodError} {t : Connected σ}
    {answer : ClientId → SelectorMessage → Procedure (Connected σ) (Except MethodError β)}
    (hdispatch : ∀ payload, (server S { frameLimit }).dispatch id method.name payload =
      Server.handler method.name selectorMessage output answer id payload)
    (hq : s.client.Quiet limit)
    (hrequest : ∃ payload bytes, selectorMessage.encode m = .ok payload ∧
      (⟨s.client.nextId, .request method.name payload⟩ : Frame).write (min limit frameLimit) =
        .ok bytes)
    (hresponse : ∃ bytes, (⟨s.client.nextId, .response (.error e)⟩ : Frame).write
      (min limit frameLimit) = .ok bytes)
    (hserve : ∀ c, (answer id m).run (elapsed elapse) { s with client := c } =
      (.error e, { t with client := c })) :
    ∃ c : Client, ((caller S { frameLimit } id).request method.name selectorMessage output m).run
      (elapsed elapse) s = (.error (.method method.name e), { t with client := c }) := by
  obtain ⟨payload, request, hp, hrequest⟩ := hrequest
  obtain ⟨response, hresponse⟩ := hresponse
  have hserved (c : Client) : ((server S { frameLimit }).dispatch id method.name payload).run
      (elapsed elapse) (clientPlace.set c s) = (.error e, clientPlace.set c t) := by
    rw [hdispatch]
    exact Server.run_handler_of_failed (elapsed elapse) (readsBack_selectorMessage m) hp
      (Frame.length_of_write hrequest) (hserve c)
  obtain ⟨c, -, hsettled⟩ := Call.run_request (elapsed elapse) clientPlace_lawful output hq hp
    hrequest hserved hresponse
  exact ⟨c, hsettled⟩

lemma run_forwarded_of_failed (hp : ∀ r, call ≠ .path r)
    (he : ((S.call (call.atFarEnd id)).run elapse s.inner).1 = (call.atFarEnd id).failed e) :
    ((forwarded S id call).run elapse s.inner).1 = .error e := by
  cases call with
  | path r => exact absurd rfl (hp r)
  | _ =>
    simp only [SelectorCall.atFarEnd, Selector.call, Procedure.run_bind, Procedure.run_pure] at he
    exact SelectorAnswer.done.inj he

lemma run_update_of_failed (hp : ∀ r, call ≠ .path r) (hr : ¬s.proxy.lifecycle.Refuses call)
    (hq : s.client.Quiet limit) (hs : Sendable (min limit frameLimit) call)
    (he : ((forwarded S id call).run elapse s.inner).1 = .error e)
    (hresponse : ∃ bytes, (⟨s.client.nextId, .response (.error e.toMethodError)⟩ : Frame).write
      (min limit frameLimit) = .ok bytes) :
    (((selector S { frameLimit } id).call call).run (elapsed elapse) s).1 =
      .done (.error (e.afterHop (SelectorMethod.of call).name)) := by
  -- The handles of an offer are issued before the request goes out.
  let asking : Connected σ := { s with proxy := s.proxy.issued call }
  let served : Connected σ := { asking with
    book := bookAfter id s.proxy.handles.next s.book call
    inner := ((forwarded S id call).run elapse s.inner).2 }
  have hserve (c : Client) :
      (serveUpdate (S.within innerPlace) bookPlace (SelectorMethod.of call) id
        (message s.proxy.handles.next call)).run (elapsed elapse) { asking with client := c } =
        (.error e.toMethodError, { served with client := c }) := by
    rw [run_serveUpdate S id elapse hp, he]
    rfl
  obtain ⟨c, hrequest⟩ := run_request_of_failed (s := asking) (t := served)
    (dispatch_update _ _ _ id hp) hq (hs.exists_write _ _) hresponse hserve
  have hasked := run_asked (C := caller S { frameLimit } id) (p := proxyPlace) (s := s) hp hr hrequest
  rw [selector, hasked]
  rfl

lemma run_path_of_failed {r : RemoteAddress} (hr : ¬s.proxy.lifecycle.Refuses (.path r))
    (hq : s.client.Quiet limit) (hs : Sendable (min limit frameLimit) (.path r))
    (he : ((S.path (id.scoped r)).run elapse s.inner).1 = .error e)
    (hresponse : ∃ bytes, (⟨s.client.nextId, .response (.error e.toMethodError)⟩ : Frame).write
      (min limit frameLimit) = .ok bytes) :
    (((selector S { frameLimit } id).call (.path r)).run (elapsed elapse) s).1 =
      .chosen (.error (e.afterHop SelectorMethod.path.name)) := by
  let served : Connected σ := { s with inner := ((S.path (id.scoped r)).run elapse s.inner).2 }
  have hserve (c : Client) : (servePath (S.within innerPlace) bookPlace id { remote := r }).run
      (elapsed elapse) { s with client := c } =
        (.error e.toMethodError, { served with client := c }) := by
    have hpath := run_within_inner elapse (S.path (id.scoped r)) { s with client := c }
    rw [he] at hpath
    simp only [servePath, SelectorMethod.required, MethodError.required, Procedure.run_bind,
      Selector.within, hpath, Procedure.run_pure]
    rfl
  obtain ⟨c, hrequest⟩ := run_request_of_failed (t := served)
    (fun payload => dispatch_registerSelector _ _ _ id payload .path) hq
    (hs.exists_write s.proxy.handles.next _) hresponse hserve
  have hasked := run_asked_path (C := caller S { frameLimit } id) (p := proxyPlace) (s := s) hr hrequest
  rw [selector, hasked]
  rfl

/-- Where the selector at the far end fails, the call fails with that error after one hop. -/
theorem run_call_of_failed (hr : ¬s.proxy.lifecycle.Refuses call) (hq : s.client.Quiet limit)
    (hs : Sendable (min limit frameLimit) call)
    (he : ((S.call (call.atFarEnd id)).run elapse s.inner).1 = (call.atFarEnd id).failed e)
    (hresponse : ∃ bytes, (⟨s.client.nextId, .response (.error e.toMethodError)⟩ : Frame).write
      (min limit frameLimit) = .ok bytes) :
    (((selector S { frameLimit } id).call call).run (elapsed elapse) s).1 =
      call.failed (e.afterHop (SelectorMethod.of call).name) := by
  by_cases hp : ∀ r, call ≠ .path r
  · rw [run_update_of_failed hp hr hq hs (run_forwarded_of_failed hp he) hresponse]
    cases call with
    | path r => exact absurd rfl (hp r)
    | _ => rfl
  · simp only [not_forall, Decidable.not_not] at hp
    obtain ⟨r, rfl⟩ := hp
    simp only [SelectorCall.atFarEnd, Selector.call, Procedure.run_bind, Procedure.run_pure] at he
    exact run_path_of_failed hr hq hs (SelectorAnswer.chosen.inj he) hresponse

end Remote.Connected

end PathPolicy
