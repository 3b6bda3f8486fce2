import PathPolicy.Proofs.ClientIsolation
import PathPolicy.Proofs.Interleaving
import PathPolicy.Proofs.RequiredFields
import PathPolicy.Proofs.TracerService

/-!
# Calls that are turned away

A server with a selector and a tracer turns a call away that names no method of either, whose
payload is no message, or whose message lacks a field that the method requires. It does so before
it does anything else: no stretch of such a call is left to run, so neither the selector nor the
tracer hears of it and nothing that is kept changes. No other call is turned away like this.
-/

namespace PathPolicy

namespace Procedure

variable {σ α β : Type}

lemma answer?_of_bind_done {p : Procedure σ α} {f : α → β}
    (h : (p.bind fun a => .done (f a)).answer? = none) : p.answer? = none := by
  cases p with
  | done a => cases h
  | act update resume => rfl
  | sleep ms rest => rfl

end Procedure

/-- No operation of the selector answers at once. -/
def Selector.Waits {σ : Type} (S : Selector σ) : Prop := ∀ call, (S.call call).answer? = none

namespace Call.Server

variable {σ : Type}

lemma serveAll_append (elapse : Nat → σ → σ) (S : Server σ) (before after : List Event) (s : σ) :
    S.serveAll elapse (before ++ after) s =
      ((S.serveAll elapse before s).1 ++ (S.serveAll elapse after (S.serveAll elapse before s).2).1,
        (S.serveAll elapse after (S.serveAll elapse before s).2).2) := by
  induction before generalizing s with
  | nil => rfl
  | cons e before ih => simp only [List.cons_append, serveAll, ih, List.append_assoc]

end Call.Server

namespace Remote

open Telemetry Call

/-- A method of a server with a selector and a tracer. -/
inductive ServiceMethod
  | selector (m : SelectorMethod)
  | registration
  | event (k : EventKind)

namespace ServiceMethod

def name : ServiceMethod → String
  | selector m => m.name
  | registration => TracerMessage.registrationMethod
  | event k => TracerMessage.methodFor k

/-- The first field that the message lacks of those the method requires; the payload has to be a
message first. -/
def absent? (payload : List UInt8) : ServiceMethod → Except DecodeFault (Option String)
  | selector m => do
    let (message, _) ← Codec.selectorMessage.decode payload
    return (m.requiredFields.find? fun f => !message.has f).map SelectorField.name
  | registration => do
    let (message, _) ← Codec.tracerMessage.decode payload
    return (TracerMessage.registrationFields.find? fun f => !message.has f).map MessageField.name
  | event k => do
    let (message, _) ← Codec.tracerMessage.decode payload
    return ((TracerMessage.eventFields k).find? fun f => !message.has f).map MessageField.name

end ServiceMethod

/-- What is wrong with a call, and what it is answered. -/
inductive Malformed (method : String) (payload : List UInt8) : MethodError → Prop
  | unknown (h : ∀ m : ServiceMethod, m.name ≠ method) :
    Malformed method payload ⟨.unknownMethod, "no method registered as `" ++ method ++ "`"⟩
  | undecodable {m : ServiceMethod} {fault : DecodeFault} (hm : m.name = method)
      (h : m.absent? payload = .error fault) :
    Malformed method payload ⟨.internal, method ++ ": undecodable request: " ++ fault.message⟩
  | incomplete {m : ServiceMethod} {field : String} (hm : m.name = method)
      (h : m.absent? payload = .ok (some field)) :
    Malformed method payload
      ⟨.missingField, method ++ ": missing required field `" ++ field ++ "`"⟩

/-! ### Turning away before anything else -/

section Screens

variable {φ α β σ : Type} {has : φ → Bool} {name : φ → String} {method : String} {fields : List φ}
  {waits : Prop}

/-- The procedure turns away at once what lacks a field, and else does not answer at once. -/
def Screens (has : φ → Bool) (name : φ → String) (method : String) (fields : List φ) (waits : Prop)
    (p : Procedure σ (Except MethodError β)) : Prop :=
  match fields.find? fun f => !has f with
  | some f => p = .done (.error (.missingField method (name f)))
  | none => waits → p.answer? = none

lemma Checks.screens {x : Except MethodError α} (h : Checks has name method fields x)
    {p : Procedure σ (Except MethodError β)} (herror : ∀ e, x = .error e → p = .done (.error e))
    (hok : ∀ a, x = .ok a → waits → p.answer? = none) :
    Screens has name method fields waits p := by
  unfold Checks at h
  unfold Screens
  cases hf : fields.find? fun f => !has f with
  | some f =>
    rw [hf] at h
    exact herror _ h
  | none =>
    rw [hf] at h
    obtain ⟨a, ha⟩ := h
    exact hok a ha

lemma Screens.handler {input : Codec α} {output : Codec β}
    {answer : ClientId → α → Procedure σ (Except MethodError β)} {c : ClientId}
    {payload rest : List UInt8} {a : α} (ha : input.decode payload = .ok (a, rest))
    (h : Screens has name method fields waits (answer c a)) :
    Screens has name method fields waits
      (Server.handler method input output answer c payload) := by
  unfold Screens at h ⊢
  unfold Server.handler
  rw [ha]
  split at h
  · show Procedure.bind _ _ = _
    rw [h]
    rfl
  · exact fun hw => Procedure.answer?_bind_of_none (h hw) _

/-- The procedure turns a payload away at once that is no message, or one that lacks a field. -/
def TurnsAway (method : String) (absent : Except DecodeFault (Option String)) (waits : Prop)
    (p : Procedure σ (Except MethodError β)) : Prop :=
  match absent with
  | .error fault => p = .done (.error (Server.undecodable method fault))
  | .ok (some field) => p = .done (.error (.missingField method field))
  | .ok none => waits → p.answer? = none

lemma turnsAway_handler {has : α → φ → Bool} {input : Codec α} {output : Codec β}
    {answer : ClientId → α → Procedure σ (Except MethodError β)} {c : ClientId}
    {payload : List UInt8} (h : ∀ a, Screens (has a) name method fields waits (answer c a)) :
    TurnsAway method (do
        let (a, _) ← input.decode payload
        return (fields.find? fun f => !has a f).map name) waits
      (Server.handler method input output answer c payload) := by
  cases ha : input.decode payload with
  | error fault =>
    show _ = _
    rw [Server.handler, ha]
    rfl
  | ok decoded =>
    obtain ⟨a, rest⟩ := decoded
    have hscreens : Screens (has a) name method fields waits
        (Server.handler method input output answer c payload) := (h a).handler ha
    show TurnsAway method (.ok ((fields.find? fun f => !has a f).map name)) waits _
    unfold Screens at hscreens
    cases hf : fields.find? fun f => !has a f with
    | some f =>
      rw [hf] at hscreens
      exact hscreens
    | none =>
      rw [hf] at hscreens
      exact hscreens

namespace TurnsAway

variable {payload : List UInt8} {m : ServiceMethod} {p : Procedure σ (Except MethodError β)}

lemma of_error {absent : Except DecodeFault (Option String)}
    (h : TurnsAway method absent waits p) {fault : DecodeFault} (ha : absent = .error fault) :
    p = .done (.error (Server.undecodable method fault)) := by
  rwa [ha] at h

lemma of_some {absent : Except DecodeFault (Option String)} (h : TurnsAway method absent waits p)
    {field : String} (ha : absent = .ok (some field)) :
    p = .done (.error (.missingField method field)) := by
  rwa [ha] at h

lemma malformed (h : TurnsAway m.name (m.absent? payload) waits p) (hw : waits)
    {o : Except MethodError β} (ho : p = .done o) :
    ∃ e, o = .error e ∧ Malformed m.name payload e := by
  unfold TurnsAway at h
  split at h
  · rename_i fault ha
    rw [ho, Server.undecodable_eq] at h
    exact ⟨_, Procedure.done.inj h, .undecodable rfl ha⟩
  · rename_i field ha
    rw [ho, MethodError.missingField_eq] at h
    exact ⟨_, Procedure.done.inj h, .incomplete rfl ha⟩
  · have hnone := h hw
    rw [ho] at hnone
    cases hnone

end TurnsAway

end Screens

section Services

variable {σ : Type} {S : Selector σ} {T : Tracer σ} {handles : Procedure.Place σ HandleBook}
  {connections : Procedure.Place σ ConnectionBook}

lemma screens_serveOffer (method : SelectorMethod) (c : ClientId) (m : SelectorMessage) :
    Screens m.has SelectorField.name method.name [.remote, .paths] S.Waits
      (serveOffer S handles method c m) := by
  refine (checks_offer m method).screens (fun e he => ?_) fun a ha _ => ?_
  · rw [serveOffer, he]
    rfl
  · rw [serveOffer, ha]
    rfl

lemma screens_servePath (c : ClientId) (m : SelectorMessage) :
    Screens m.has SelectorField.name SelectorMethod.path.name [.remote] S.Waits
      (servePath S handles c m) := by
  refine (checks_remote m .path).screens (fun e he => ?_) fun r hr hS => ?_
  · rw [servePath, he]
    rfl
  · rw [servePath, hr]
    have hcall := Procedure.answer?_of_bind_done (hS (.path (c.scoped r)))
    exact Procedure.answer?_bind_of_none hcall _

lemma screens_servePathDown (c : ClientId) (m : SelectorMessage) :
    Screens m.has SelectorField.name SelectorMethod.pathDown.name
      SelectorMethod.pathDown.requiredFields S.Waits (servePathDown S c m) := by
  refine (checks_pathDown m).screens (fun e he => ?_) fun a ha hS => ?_
  · rw [servePathDown, he]
    rfl
  · obtain ⟨r, f, i⟩ := a
    rw [servePathDown, ha]
    have hcall := Procedure.answer?_of_bind_done (hS (.pathDown (c.scoped r) f i))
    exact Procedure.answer?_bind_of_none hcall _

lemma screens_serveClose (c : ClientId) (m : SelectorMessage) :
    Screens m.has SelectorField.name SelectorMethod.close.name [.remote] S.Waits
      (serveClose S handles c m) := by
  refine (checks_remote m .close).screens (fun e he => ?_) fun r hr hS => ?_
  · rw [serveClose, he]
    rfl
  · rw [serveClose, hr]
    have hcall := Procedure.answer?_of_bind_done (hS (.close (c.scoped r)))
    exact Procedure.answer?_bind_of_none hcall _

lemma screens_serveRegistration (c : ClientId) (m : TracerMessage) {waits : Prop} :
    Screens m.has MessageField.name TracerMessage.registrationMethod
      TracerMessage.registrationFields waits (serveRegistration T connections c m) := by
  refine m.checks_registration.screens (fun e he => ?_) fun a ha _ => ?_
  · simp only [serveRegistration, he]
    rfl
  · simp only [serveRegistration, ha]
    rfl

lemma screens_serveEvent (k : EventKind) (c : ClientId) (m : TracerMessage) {waits : Prop} :
    Screens m.has MessageField.name (TracerMessage.methodFor k)
      (TracerMessage.eventFields k) waits (serveEvent T connections k c m) := by
  refine (m.checks_event k).screens (fun e he => ?_) fun a ha _ => ?_
  · simp only [serveEvent, he]
    rfl
  · simp only [serveEvent, ha]
    rfl

/-! ### The server -/

variable (S T handles connections) in
/-- The server of a selector and a tracer. -/
def service (frameLimit : Nat) : Server σ :=
  registerTracer T connections (registerSelector S handles { frameLimit })

variable {frameLimit : Nat} {c : ClientId} {method : String} {payload : List UInt8}

lemma dispatch_service_unknown (h : ∀ m : ServiceMethod, m.name ≠ method) :
    (service S T handles connections frameLimit).dispatch c method payload =
      .done (.error (.unknownMethod method)) := by
  have htracer : method ∉ tracerMethods := by
    intro hmem
    rcases List.mem_cons.mp hmem with hr | he
    · exact h .registration hr.symm
    · obtain ⟨k, -, hk⟩ := List.mem_map.mp he
      exact h (.event k) hk
  have hselector (m : SelectorMethod) : method ≠ m.name := (h (.selector m)).symm
  rw [service, dispatch_of_not_mem T connections _ c payload htracer,
    dispatch_registerSelector_of_ne _ _ _ _ _ hselector]
  rfl

lemma dispatch_service (m : ServiceMethod) :
    TurnsAway m.name (m.absent? payload) S.Waits
      ((service S T handles connections frameLimit).dispatch c m.name payload) := by
  have hselector (m : SelectorMethod) :
      (service S T handles connections frameLimit).dispatch c m.name payload =
        (registerSelector S handles { frameLimit }).dispatch c m.name payload :=
    dispatch_of_not_mem T connections _ c payload m.name_not_mem
  cases m with
  | selector m =>
    rw [ServiceMethod.name, hselector, dispatch_registerSelector]
    cases m with
    | start => exact turnsAway_handler fun a => screens_serveOffer .start c a
    | path => exact turnsAway_handler fun a => screens_servePath c a
    | pathDown => exact turnsAway_handler fun a => screens_servePathDown c a
    | refresh => exact turnsAway_handler fun a => screens_serveOffer .refresh c a
    | close => exact turnsAway_handler fun a => screens_serveClose c a
  | registration =>
    rw [ServiceMethod.name, service, dispatch_registration]
    exact turnsAway_handler fun a => screens_serveRegistration c a
  | event k =>
    rw [ServiceMethod.name, service, dispatch_event]
    exact turnsAway_handler fun a => screens_serveEvent k c a

end Services

/-- A malformed call is answered why it is turned away and has no stretch to run. So whatever comes
before and after it, the server answers the rest and is left as if the call had never been made.
Only malformed calls are turned away so, unless the selector itself answers at once. -/
theorem malformed_turned_away {σ : Type} (S : Selector σ) (T : Tracer σ)
    (handles : Procedure.Place σ HandleBook) (connections : Procedure.Place σ ConnectionBook)
    (frameLimit : Nat) (c : ClientId) (method : String) (payload : List UInt8) :
    (∀ e, Malformed method payload e →
      (service S T handles connections frameLimit).dispatch c method payload = .done (.error e) ∧
      ∀ (elapse : Nat → σ → σ) (before after : List Server.Event) (s : σ),
        let served := (service S T handles connections frameLimit).serveAll elapse
        served (before ++ .request c method payload :: after) s =
          ((served before s).1 ++ (c, .error e) :: (served after (served before s).2).1,
            (served (before ++ after) s).2)) ∧
    (S.Waits → ∀ o,
      (service S T handles connections frameLimit).dispatch c method payload = .done o →
      ∃ e, o = .error e ∧ Malformed method payload e) := by
  constructor
  · intro e he
    have hdone : (service S T handles connections frameLimit).dispatch c method payload =
        .done (.error e) := by
      cases he with
      | unknown h => exact dispatch_service_unknown h
      | undecodable hm h =>
        subst hm
        exact (dispatch_service _).of_error h
      | incomplete hm h =>
        subst hm
        exact (dispatch_service _).of_some h
    refine ⟨hdone, fun elapse before after s => ?_⟩
    simp only [Server.serveAll_append, Server.serveAll, Server.serve, hdone, Procedure.run_done,
      List.singleton_append]
  · intro hS o ho
    by_cases hm : ∃ m : ServiceMethod, m.name = method
    · obtain ⟨m, rfl⟩ := hm
      exact (dispatch_service m).malformed hS ho
    · have hne : ∀ m : ServiceMethod, m.name ≠ method := fun m h => hm ⟨m, h⟩
      rw [dispatch_service_unknown hne, MethodError.unknownMethod_eq] at ho
      exact ⟨_, (Procedure.done.inj ho).symm, .unknown hne⟩

/-- An event that lacks a field, of a connection that nobody registered, comes between an offer and
the question for a path: it is turned away for the field, and nobody else notices. -/
theorem malformed_turned_away_unregistered :
    let payload (m : TracerMessage) : List UInt8 := (Codec.tracerMessage.encode m).toOption.getD []
    let message (m : SelectorMessage) : List UInt8 :=
      (Codec.selectorMessage.encode m).toOption.getD []
    let event := payload { tracingId := some ⟨9⟩, key := some "k" }
    let offer := message
      { remote := some ⟨"r"⟩, paths := some [⟨⟨7⟩, ⟨⟨"1-1"⟩, ⟨"1-2"⟩, ⟨"a"⟩, .epoch, none⟩⟩] }
    let ask := message { remote := some ⟨"r"⟩ }
    let method := "ConnectionTracer.Debug"
    let refusal : MethodError :=
      ⟨.missingField, "ConnectionTracer.Debug: missing required field `value`"⟩
    let S : Selector (FailoverState × HandleBook × ConnectionBook) := failoverSelector.within .first
    let server := service S .silent ⟨fun s => s.2.1, fun b s => (s.1, b, s.2.2)⟩
      ⟨fun s => s.2.2, fun b s => (s.1, s.2.1, b)⟩ 1024
    Malformed method event refusal ∧ S.Waits ∧
      (server.serveAll (fun _ s => s) [.request ⟨1⟩ "Selector.Initialize" offer,
        .request ⟨1⟩ method event, .request ⟨1⟩ "Selector.Path" ask] ({}, {}, {})).1 =
        [(⟨1⟩, .ok []), (⟨1⟩, .error refusal), (⟨1⟩, .ok [1, 7, 0, 0, 0, 0, 0, 0, 0])] ∧
      ∃ e, Malformed method event e := by
  intro payload message event offer ask method refusal S server
  have hname : (ServiceMethod.event .debug).name = method := by decide +kernel
  have habsent : (ServiceMethod.event .debug).absent? event = .ok (some "value") := by
    decide +kernel
  have htold : (⟨.missingField, method ++ ": missing required field `" ++ "value" ++ "`"⟩ :
      MethodError) = refusal := by decide +kernel
  have hm : Malformed method event refusal := htold ▸ .incomplete hname habsent
  have hS : S.Waits := by
    intro call
    cases call <;> rfl
  obtain ⟨hrefused, honly⟩ := malformed_turned_away S .silent
    ⟨fun s => s.2.1, fun b s => (s.1, b, s.2.2)⟩ ⟨fun s => s.2.2, fun b s => (s.1, s.2.1, b)⟩ 1024
    ⟨1⟩ method event
  obtain ⟨hdone, hserved⟩ := hrefused _ hm
  refine ⟨hm, hS, ?_, ?_⟩
  · have hrun := hserved (fun _ s => s) [.request ⟨1⟩ "Selector.Initialize" offer]
      [.request ⟨1⟩ "Selector.Path" ask] ({}, {}, {})
    refine (congrArg Prod.fst hrun).trans ?_
    decide +kernel
  · obtain ⟨e, -, he⟩ := honly hS _ hdone
    exact ⟨e, he⟩

end Remote

end PathPolicy
