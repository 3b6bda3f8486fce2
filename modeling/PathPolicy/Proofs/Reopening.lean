import PathPolicy.Proofs.Interleaving
import PathPolicy.Proofs.RemoteSelector
import PathPolicy.Proofs.ScriptSelector

/-!
# Closed remotes that come into use again

A remote selector and a script's selector look at the lifecycle before they wait, for the far end
or for the script, and mark the remote after. So a refresh that waits while its remote is closed
opens the remote again when it is done waiting. Nothing else does but a start.
-/

namespace PathPolicy

open Call

variable {τ : Type} {elapse : Nat → τ → τ}

lemma RemoteLifecycle.state_of_state_markClosed {l : RemoteLifecycle} {r r' : RemoteAddress}
    (h : (l.markClosed r').state r = .populated) : l.state r = .populated := by
  have hmarked : (l.states.insert r' .closed).get? r = some .populated →
      l.states.get? r = some .populated := by
    by_cases hr : r = r' <;> simp [Dictionary.get?_insert, hr]
  simp (disch := decide) only [state_eq_iff] at h ⊢
  unfold markClosed at h
  by_cases hc : l.state r' = .closed
  · rw [if_pos hc] at h
    exact hmarked h
  · rw [if_neg hc, get?_trim] at h
    split_ifs at h
    exact hmarked h

namespace Remote

lemma ProxyState.lifecycle_ask (s : ProxyState) (call : SelectorCall) :
    (s.ask call).2.lifecycle = s.lifecycle := by
  by_cases h : s.lifecycle.Refuses call
  · rw [ask_of_refuses h]
  · rw [ask_of_not_refuses h]
    cases call <;> rfl

/-- Taking the answer opens a closed remote just when that had been asked for and was granted. -/
lemma ProxyState.settleUpdate_opens {s : ProxyState} (call : SelectorCall)
    (reply : Except CallError Unit) {r : RemoteAddress} (h : s.lifecycle.state r = .closed) :
    (s.settleUpdate call reply).2.lifecycle.state r = .populated ↔
      (s.settleUpdate call reply).1 = .ok () ∧ call.Offers r := by
  have hgranted (r' : RemoteAddress) :
      (s.lifecycle.markPopulated r').state r = .populated ↔ r' = r := by
    rw [RemoteLifecycle.state_markPopulated, h]
    by_cases hr : r = r' <;> simp [hr, eq_comm]
  have hkept {P : Prop} : s.lifecycle.state r = .populated ↔ P ∧ False := by simp [h]
  have hclosed (r' : RemoteAddress) {P : Prop} :
      (s.lifecycle.markClosed r').state r = .populated ↔ P ∧ False := by
    simp only [and_false, iff_false]
    exact fun hs => absurd (RemoteLifecycle.state_of_state_markClosed hs) (by simp [h])
  cases reply with
  | error e =>
    cases call with
    | close r' => exact hclosed r'
    | _ => simp [settleUpdate, Except.mapError, h]
  | ok u =>
    cases call with
    | start r' ps => simpa [settleUpdate, Except.mapError, SelectorCall.Offers] using hgranted r'
    | refresh r' ps => simpa [settleUpdate, Except.mapError, SelectorCall.Offers] using hgranted r'
    | path r' => exact hkept
    | pathDown r' f i => exact hkept
    | close r' => exact hclosed r'

/-- The far end is asked with what the caller has besides the selector's own state. -/
def proxied (C : Caller τ) : Selector (ProxyState × τ) := selector (C.within .second) .first

def Granted (_ : SelectorCall) (a : SelectorAnswer) : Prop := a = .done (.ok ())

/-- What is left of an update once its request is made, or refused. -/
def requested (C : Caller τ) (call : SelectorCall) :
    Except PolicyError SelectorMessage → Procedure (ProxyState × τ) SelectorAnswer
  | .error e => .done (.done (.error e))
  | .ok m =>
    ((C.within .second).request (SelectorMethod.of call).name Codec.selectorMessage Codec.unit
      m).bind fun reply =>
        .act (fun s => ((s.1.settleUpdate call reply).2, s.2))
          fun s => .done (.done (s.1.settleUpdate call reply).1)

lemma update_bind (C : Caller τ) (call : SelectorCall) :
    ((update (C.within .second) .first call).bind fun o => .done (SelectorAnswer.done o)) =
      .act (fun s : ProxyState × τ => ((s.1.ask call).2, s.2))
        fun s => requested C call (s.1.ask call).1 := by
  refine congrArg (Procedure.act _) (funext fun s => ?_)
  simp only [Procedure.Place.first]
  cases (s.1.ask call).1 with
  | error e => rfl
  | ok m =>
    exact Procedure.bind_assoc ((C.within .second).request (SelectorMethod.of call).name
      Codec.selectorMessage Codec.unit m) _ _

variable (elapse) in
lemma unmoved_request {α β : Type} (C : Caller τ) (method : String) (input : Codec α)
    (output : Codec β) (a : α) :
    ((C.within .second).request method input output a : Procedure (ProxyState × τ) _).Unmoved
      (fun s => s.1.lifecycle) (Procedure.beside elapse) := by
  unfold Caller.request
  cases input.encodeAs "request" a with
  | error e => trivial
  | ok payload => exact (Procedure.unmoved_within_second _).bind fun _ => trivial

lemma guarded_requested (C : Caller τ) (call : SelectorCall)
    (asked : Except PolicyError SelectorMessage) :
    (requested C call asked).Guarded (fun s => s.1.lifecycle) (Procedure.beside elapse)
      fun a r => Granted call a ∧ call.Offers r := by
  cases asked with
  | error e => trivial
  | ok m =>
    refine (unmoved_request elapse C _ _ _ m).guarded_bind ?_ fun _ => rfl
    refine fun reply s => ⟨fun r hr => ?_, trivial⟩
    refine (ProxyState.settleUpdate_opens call reply hr).trans ?_
    simp [Procedure.advance, Granted]

lemma guarded_update (C : Caller τ) (call : SelectorCall) :
    ((update (C.within .second) .first call).bind fun o => .done (SelectorAnswer.done o)).Guarded
      (fun s : ProxyState × τ => s.1.lifecycle) (Procedure.beside elapse)
      fun a r => Granted call a ∧ call.Offers r := by
  rw [update_bind]
  refine fun s => ⟨?_, guarded_requested C call _⟩
  refine Procedure.opensWith_of_eq (ProxyState.lifecycle_ask s.1 call) fun a r ha ho => ?_
  simp only [Procedure.advance] at ha
  -- A request that is made is not answered yet, and a refusal grants nothing.
  cases hm : (s.1.ask call).1 with
  | error e =>
    rw [hm] at ha
    obtain rfl := Procedure.done.inj ha
    cases ho.1
  | ok m =>
    have hnone : (requested C call (.ok m)).answer? = none :=
      Procedure.answer?_bind fun _ => rfl
    rw [← hm, ha] at hnone
    cases hnone

theorem disciplined_proxied (C : Caller τ) :
    (proxied C).Disciplined (fun s => s.1.lifecycle) (Procedure.beside elapse) Granted where
  guarded call := by
    cases call with
    | path r =>
      refine Procedure.Unmoved.guarded ?_ fun a r' h => h.2
      refine ⟨fun _ => rfl, fun s => ?_⟩
      simp only [Procedure.Place.first]
      cases (s.1.ask (.path r)).1 with
      | error e => trivial
      | ok m =>
        refine ((unmoved_request elapse C _ _ _ m).bind fun reply => ?_).bind fun o => trivial
        exact ⟨fun _ => rfl, fun _ => trivial⟩
    | _ => exact guarded_update C _
  turnsAway r ps s h := by
    refine ⟨.done (.error (.selector (.remoteClosed r "refresh"))), ?_, by simp [Granted]⟩
    have hcall : (proxied C).call (.refresh r ps) = _ := update_bind C (.refresh r ps)
    have hr : s.1.lifecycle.Refuses (.refresh r ps) := h
    rw [hcall, Procedure.advance, ProxyState.ask_of_refuses hr]
    rfl

end Remote

namespace Script

variable {α : Type} (answer : Except PolicyError α → SelectorAnswer) {call : SelectorCall}

/-- The call was not turned away, whatever the script made of it. -/
def Entered (call : SelectorCall) (a : SelectorAnswer) : Prop := a ≠ call.refusal

/-- What is left of an operation once the remote's state is known. -/
def looked (r : RemoteAddress) (operation : String)
    (next : RemoteState → Procedure (SelectorState × τ) (Except PolicyError α))
    (state : RemoteState) : Procedure (SelectorState × τ) SelectorAnswer :=
  if state = .closed then .done (answer (.error (.selector (.remoteClosed r operation))))
  else (next state).bind fun o => .done (answer o)

lemma unlessClosed_bind (r : RemoteAddress) (operation : String)
    (next : RemoteState → Procedure (SelectorState × τ) (Except PolicyError α)) :
    ((unlessClosed .first r operation next).bind fun o => .done (answer o)) =
      .act id fun s => looked answer r operation next (s.1.lifecycle.state r) := by
  refine congrArg (Procedure.act id) (funext fun s => ?_)
  simp only [Procedure.Place.first, RemoteLifecycle.ensureOpen_eq, looked]
  split_ifs <;> rfl

lemma unmoved_unlessClosed {r : RemoteAddress} {operation : String}
    {next : RemoteState → Procedure (SelectorState × τ) (Except PolicyError α)}
    (hnext : ∀ state, (next state).Unmoved (fun s => s.1.lifecycle) (Procedure.beside elapse)) :
    ((unlessClosed .first r operation next).bind fun o => .done (answer o)).Unmoved
      (fun s => s.1.lifecycle) (Procedure.beside elapse) := by
  rw [unlessClosed_bind]
  refine ⟨fun _ => rfl, fun s => ?_⟩
  simp only [looked]
  split_ifs
  · trivial
  · exact (hnext _).bind fun _ => trivial

/-- Looking at the remote first is no answer but a refusal. -/
lemma guarded_unlessClosed {r : RemoteAddress} {operation : String}
    {next : RemoteState → Procedure (SelectorState × τ) (Except PolicyError α)}
    (hrefusal : answer (.error (.selector (.remoteClosed r operation))) = call.refusal)
    (hnext : ∀ state, ((next state).bind fun o => .done (answer o)).Guarded
      (fun s => s.1.lifecycle) (Procedure.beside elapse)
      fun a r' => Entered call a ∧ call.Offers r')
    (hnone : ∀ state, (next state).answer? = none) :
    ((unlessClosed .first r operation next).bind fun o => .done (answer o)).Guarded
      (fun s => s.1.lifecycle) (Procedure.beside elapse)
      fun a r' => Entered call a ∧ call.Offers r' := by
  rw [unlessClosed_bind]
  refine fun s => ⟨Procedure.opensWith_of_eq rfl fun a r' ha ho => ?_, ?_⟩
  · simp only [Procedure.advance, looked] at ha
    split_ifs at ha with hc
    · obtain rfl := Procedure.done.inj ha
      exact ho.1 hrefusal
    · have hn := hnone (s.1.lifecycle.state r)
      cases hp : next (s.1.lifecycle.state r) with
      | done b => simp [hp, Procedure.answer?] at hn
      | act update resume =>
        rw [hp] at ha
        cases ha
      | sleep ms rest =>
        rw [hp] at ha
        cases ha
  · simp only [looked]
    split_ifs
    · trivial
    · exact hnext _

lemma guarded_offer (S : Script τ) (entry : String) (r : RemoteAddress) (paths : List PathObject)
    (hoffers : ∀ r', call.Offers r' ↔ r = r')
    (hrefusal : ∀ o, Entered call (.done (outcome o))) :
    ((offer (S.within .second) .first entry r paths).bind fun o =>
        .done (SelectorAnswer.done o)).Guarded (fun s : SelectorState × τ => s.1.lifecycle)
      (Procedure.beside elapse) fun a r' => Entered call a ∧ call.Offers r' := by
  refine fun s => ⟨fun r' hr' => ?_, trivial⟩
  have hrun := run_offer (Procedure.beside elapse) S entry r paths s
  have hstate : ((offer (S.within .second) .first entry r paths).run (Procedure.beside elapse)
      s).2.1.lifecycle.state r' = .populated ↔ r = r' := by
    rw [hrun, SelectorState.populate, RemoteLifecycle.state_markPopulated, hr']
    by_cases hr : r' = r <;> simp [hr, eq_comm (a := r)]
  refine hstate.trans ((hoffers r').symm.trans ⟨fun ho => ⟨_, rfl, hrefusal _, ho⟩, ?_⟩)
  rintro ⟨a, -, -, ho⟩
  exact ho

theorem disciplined_hosted (S : Script τ) :
    (hosted S).Disciplined (fun s => s.1.lifecycle) (Procedure.beside elapse) Entered where
  guarded call := by
    cases call with
    | start r paths =>
      refine guarded_offer S "initialize" r paths (fun _ => Iff.rfl) fun o => ?_
      cases o <;> simp [Entered, outcome, SelectorCall.refusal, SelectorCall.failed]
    | path r =>
      refine (unmoved_unlessClosed SelectorAnswer.chosen fun state => ?_).guarded fun a r' h => h.2
      split_ifs
      · trivial
      · refine ⟨fun s => ?_, fun _ => trivial⟩
        simp only [invoke_within]
        cases (S.invoke selectorModule "selectpath" [.text r.text] s.2).1 <;> rfl
    | pathDown r f i =>
      refine (unmoved_unlessClosed SelectorAnswer.done fun state => ?_).guarded fun a r' h => h.2
      refine ⟨fun s => ?_, fun _ => trivial⟩
      simp only [invoke_within]
    | refresh r paths =>
      refine guarded_unlessClosed SelectorAnswer.done rfl (fun _ => ?_) fun _ => rfl
      refine guarded_offer S "refresh" r paths (fun _ => Iff.rfl) fun o => ?_
      cases o <;> simp [Entered, outcome, SelectorCall.refusal, SelectorCall.failed]
    | close r =>
      refine guarded_unlessClosed SelectorAnswer.done rfl (fun _ => ?_) fun _ => rfl
      refine fun s => ⟨fun r' hr' => ?_, trivial⟩
      have hclosed : s.1.lifecycle.state r' = .closed := hr'
      have hkept : (s.1.release r).lifecycle.state r' ≠ .populated := by
        intro hs
        rw [RemoteLifecycle.state_of_state_markClosed hs] at hclosed
        cases hclosed
      constructor
      · intro hs
        simp only [Procedure.advance, Procedure.bind, invoke_within] at hs
        exact absurd hs hkept
      · rintro ⟨a, -, -, ho⟩
        exact ho.elim
  turnsAway r ps s h := by
    refine ⟨SelectorCall.refusal (.refresh r ps), ?_, by simp [Entered]⟩
    have hcall : (hosted S).call (.refresh r ps) = _ := unlessClosed_bind SelectorAnswer.done r
      "refresh" fun _ => offer (S.within .second) .first "refresh" r ps
    rw [hcall, Procedure.advance, looked, if_pos h]
    rfl

end Script

/-- However calls on a remote selector, or on a script's selector, take turns, a step takes a
closed remote into use just when it settles a start of the remote, or a refresh that looked before
the remote was closed. -/
theorem closed_reopens_iff (elapse : Nat → τ → τ) :
    (∀ C : Caller τ, (Remote.proxied C).ReopensLate (fun s => s.1.lifecycle)
      (Procedure.beside elapse) Remote.Granted) ∧
    (∀ S : Script τ, (Script.hosted S).ReopensLate (fun s => s.1.lifecycle)
      (Procedure.beside elapse) Script.Entered) :=
  ⟨fun C => (Remote.disciplined_proxied C).reopensLate,
    fun S => (Script.disciplined_hosted S).reopensLate⟩

/-- A refresh looks at the remote and waits, the remote is closed, and the end of the refresh opens
it: with a far end that grants everything, and with a script of functions that do nothing. -/
theorem refresh_reopens_closed :
    let r : RemoteAddress := ⟨"r"⟩
    let calls : List SelectorCall := [.start r [], .close r, .refresh r []]
    let C : Caller Unit := ⟨fun _ _ => .done (.ok [])⟩
    let proxied := (Remote.proxied C).during (Procedure.beside fun _ u => u) calls ({}, ())
    let P : Script.Program := { entries := [⟨.selector, "initialize", .function []⟩,
      ⟨.selector, "refresh", .function []⟩, ⟨.selector, "close", .function []⟩] }
    let S : Script Script.Memory := P.script ⟨.self, fun _ m => m, fun _ m => m⟩
    let hosted := (Script.hosted S).during (Procedure.beside fun _ m => m) calls ({}, {})
    ((proxied [0, 0, 2, 1, 1]).answer? 1 = some (.done (.ok ())) ∧
      (proxied [0, 0, 2, 1, 1]).state.1.lifecycle.state r = .closed ∧
      (proxied ([0, 0, 2, 1, 1] ++ [2])).state.1.lifecycle.state r = .populated) ∧
    ((hosted [0, 2, 1, 1]).answer? 1 = some (.done (.ok ())) ∧
      (hosted [0, 2, 1, 1]).state.1.lifecycle.state r = .closed ∧
      (hosted ([0, 2, 1, 1] ++ [2])).state.1.lifecycle.state r = .populated) := by
  intro r calls C proxied P S hosted
  have hproxied : (proxied [0, 0, 2, 1, 1]).state.1.lifecycle.state r = .closed := by
    decide +kernel
  have hhosted : (hosted [0, 2, 1, 1]).state.1.lifecycle.state r = .closed := by decide +kernel
  refine ⟨⟨by decide +kernel, hproxied, ?_⟩, ⟨by decide +kernel, hhosted, ?_⟩⟩
  · refine ((closed_reopens_iff fun _ u => u).1 C calls ({}, ()) _ 2 r hproxied).mpr ?_
    exact ⟨.refresh r [], .done (.ok ()), rfl, by decide +kernel, by decide +kernel, rfl,
      .inr ⟨⟨[], rfl⟩, [0, 0], [1, 1], rfl, by decide, by decide +kernel⟩⟩
  · refine ((closed_reopens_iff fun _ m => m).2 S calls ({}, {}) _ 2 r hhosted).mpr ?_
    exact ⟨.refresh r [], .done (.ok ()), rfl, by decide +kernel, by decide +kernel,
      by simp [Script.Entered, SelectorCall.refusal, SelectorCall.failed],
      .inr ⟨⟨[], rfl⟩, [0], [1, 1], rfl, by decide, by decide +kernel⟩⟩

end PathPolicy
