import PathPolicy.Proofs.Lossless
import PathPolicy.Proofs.SelectorService
import PathPolicy.Remote.TracerService
import Mathlib.Data.List.Nodup

/-!
# What the methods of a served tracer are

A tracer has one method for registrations and one for each kind of event. Each is found under its
name, whatever was registered before, and what was registered before under another name is still
found under that.
-/

namespace PathPolicy.Remote

open Telemetry Call

lemma nodup_eventMethods : (EventKind.all.map TracerMessage.methodFor).Nodup := by decide +kernel

lemma registrationMethod_not_mem :
    TracerMessage.registrationMethod ∉ EventKind.all.map TracerMessage.methodFor := by
  decide +kernel

/-- The names of a tracer's methods. -/
def tracerMethods : List String :=
  TracerMessage.registrationMethod :: EventKind.all.map TracerMessage.methodFor

lemma SelectorMethod.name_not_mem (m : SelectorMethod) : m.name ∉ tracerMethods := by
  cases m <;> decide +kernel

variable {σ : Type} (T : Tracer σ) (p : Procedure.Place σ ConnectionBook) (server : Server σ)
  (c : ClientId) (payload : List UInt8)

/-- What answers events of a kind. -/
def eventHandler (k : EventKind) : Handler σ :=
  Server.handler (TracerMessage.methodFor k) Codec.tracerMessage Codec.unit (serveEvent T p k)

lemma handlers_foldl_register (kinds : List EventKind) :
    (kinds.foldl (fun server k => server.register (TracerMessage.methodFor k)
        Codec.tracerMessage Codec.unit (serveEvent T p k)) server).handlers =
      server.handlers.insertAll
        (kinds.map fun k => (TracerMessage.methodFor k, eventHandler T p k)) := by
  induction kinds generalizing server with
  | nil => rfl
  | cons k kinds ih =>
    rw [List.foldl_cons, ih]
    rfl

lemma get?_handlers_registerTracer (method : String) :
    (registerTracer T p server).handlers.get? method =
      ((EventKind.all.map fun k => (TracerMessage.methodFor k, eventHandler T p k)).reverse.lookup
        method).or (if method = TracerMessage.registrationMethod then
          some (Server.handler TracerMessage.registrationMethod Codec.tracerMessage Codec.unit
            (serveRegistration T p)) else server.handlers.get? method) := by
  simp only [registerTracer, Server.onFarewell, handlers_foldl_register, Dictionary.get?_insertAll]
  rw [Server.register, Dictionary.get?_insert]

/-- The names of the event methods, each with what answers it. -/
lemma map_fst_eventHandlers :
    ((EventKind.all.map fun k => (TracerMessage.methodFor k, eventHandler T p k)).reverse.map
      Prod.fst) = (EventKind.all.map TracerMessage.methodFor).reverse := by
  rw [List.map_reverse, List.map_map]
  rfl

lemma lookup_eventHandlers_eq_none {method : String}
    (h : method ∉ EventKind.all.map TracerMessage.methodFor) :
    (EventKind.all.map fun k => (TracerMessage.methodFor k, eventHandler T p k)).reverse.lookup
      method = none := by
  rw [List.lookup_eq_none_iff]
  intro e he
  rw [bne_iff_ne]
  rintro rfl
  have hmem := List.mem_map_of_mem (f := Prod.fst) he
  rw [map_fst_eventHandlers, List.mem_reverse] at hmem
  exact h hmem

theorem dispatch_event (k : EventKind) :
    (registerTracer T p server).dispatch c (TracerMessage.methodFor k) payload =
      eventHandler T p k c payload := by
  have hlookup : (EventKind.all.map fun k =>
      (TracerMessage.methodFor k, eventHandler T p k)).reverse.lookup (TracerMessage.methodFor k) =
        some (eventHandler T p k) := by
    rw [Dictionary.lookup_eq_some_iff_mem]
    · rw [List.mem_reverse]
      exact List.mem_map.mpr ⟨k, EventKind.mem_all k, rfl⟩
    · rw [map_fst_eventHandlers]
      exact List.nodup_reverse.mpr nodup_eventMethods
  rw [Server.dispatch, get?_handlers_registerTracer, hlookup]
  rfl

theorem dispatch_registration :
    (registerTracer T p server).dispatch c TracerMessage.registrationMethod payload =
      Server.handler TracerMessage.registrationMethod Codec.tracerMessage Codec.unit
        (serveRegistration T p) c payload := by
  rw [Server.dispatch, get?_handlers_registerTracer,
    lookup_eventHandlers_eq_none T p registrationMethod_not_mem, Option.none_or, if_pos rfl]

theorem dispatch_of_not_mem {method : String} (h : method ∉ tracerMethods) :
    (registerTracer T p server).dispatch c method payload =
      server.dispatch c method payload := by
  rw [tracerMethods, List.mem_cons, not_or] at h
  rw [Server.dispatch, get?_handlers_registerTracer, lookup_eventHandlers_eq_none T p h.2,
    Option.none_or, if_neg h.1]
  rfl

end PathPolicy.Remote
