import PathPolicy.Proofs.SelectorMessage
import PathPolicy.Remote.SelectorService
import Mathlib.Tactic.Common

/-!
# What the methods of a served selector do

A request for one of the five methods is decoded, acts on the selector under the client's own name
for the remote, and is answered what the selector answers.
-/

namespace PathPolicy

/-- One client's remotes keep apart under the names they have at a shared selector. -/
lemma ClientId.scoped_inj (c : ClientId) {r r' : RemoteAddress} :
    c.scoped r = c.scoped r' ↔ r = r' := by
  cases r
  cases r'
  simp only [ClientId.scoped, RemoteAddress.mk.injEq, String.append_right_inj]

namespace Call.Server

variable {σ α β : Type}

lemma run_handler (elapse : Nat → σ → σ) {method : String} {input : Codec α} {output : Codec β}
    {answer : ClientId → α → Procedure σ (Except MethodError β)} {client : ClientId}
    {payload bytes : List UInt8} {a : α} {b : β} {s s' : σ} (ha : input.ReadsBack a)
    (hpayload : input.encode a = .ok payload) (hl : payload.length < UInt64.size)
    (hrun : (answer client a).run elapse s = (.ok b, s')) (hbytes : output.encode b = .ok bytes) :
    (handler method input output answer client payload).run elapse s = (.ok bytes, s') := by
  have hdecode := ha payload [] hpayload hl
  rw [List.append_nil] at hdecode
  simp only [handler, hdecode, Procedure.run_bind, hrun, hbytes, Procedure.run_pure]

/-- A method that fails on its payload answers that it failed. -/
lemma run_handler_of_failed (elapse : Nat → σ → σ) {method : String} {input : Codec α}
    {output : Codec β} {answer : ClientId → α → Procedure σ (Except MethodError β)}
    {client : ClientId} {payload : List UInt8} {a : α} {e : MethodError} {s s' : σ}
    (ha : input.ReadsBack a) (hpayload : input.encode a = .ok payload)
    (hl : payload.length < UInt64.size)
    (hrun : (answer client a).run elapse s = (.error e, s')) :
    (handler method input output answer client payload).run elapse s = (.error e, s') := by
  have hdecode := ha payload [] hpayload hl
  rw [List.append_nil] at hdecode
  simp only [handler, hdecode, Procedure.run_bind, hrun, Procedure.run_pure]

end Call.Server

namespace Remote

variable {σ : Type} (S : Selector σ) (p : Procedure.Place σ HandleBook) (server : Call.Server σ)
  (c : ClientId) (payload : List UInt8)

/-- The methods that answer nothing but that they are done. -/
def serveUpdate (method : SelectorMethod) :
    ClientId → SelectorMessage → Procedure σ (Except MethodError Unit) :=
  match method with
  | .pathDown => servePathDown S
  | .close => serveClose S p
  | method => serveOffer S p method

/-- Each method is found under its name, whatever was registered before. -/
lemma dispatch_registerSelector (method : SelectorMethod) :
    (registerSelector S p server).dispatch c method.name payload =
      match method with
      | .path => Call.Server.handler method.name Codec.selectorMessage Codec.pathReply
          (servePath S p) c payload
      | _ => Call.Server.handler method.name Codec.selectorMessage Codec.unit
          (serveUpdate S p method) c payload := by
  cases method <;>
    simp [registerSelector, Call.Server.register, Call.Server.onFarewell, Call.Server.dispatch,
      Dictionary.get?_insert, SelectorMethod.name, serveUpdate]

/-- No other name leads to a method of the selector. -/
lemma dispatch_registerSelector_of_ne {name : String}
    (h : ∀ method : SelectorMethod, name ≠ method.name) :
    (registerSelector S p server).dispatch c name payload = server.dispatch c name payload := by
  simp [registerSelector, Call.Server.register, Call.Server.onFarewell, Call.Server.dispatch,
    Dictionary.get?_insert, h]

lemma table_update (b : HandleBook) (f : OfferTable PathHandle → OfferTable PathHandle) :
    (b.update c f).table c = f (b.table c) := by
  simp [HandleBook.table, HandleBook.update]

end Remote

end PathPolicy
