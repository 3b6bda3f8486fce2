import PathPolicy.Proofs.Link
import PathPolicy.Proofs.SelectorRequest
import PathPolicy.Proofs.SelectorService
import PathPolicy.Remote.Selector

/-!
# A caller's end connected to a far end

A caller's selector, its client, and a server with any selector behind it, joined by one connection
that is used for one request at a time.
-/

namespace PathPolicy.Remote

open Call

structure Connected (σ : Type) where
  proxy : ProxyState := {}
  client : Client
  book : HandleBook := {}
  inner : σ

namespace Connected

variable {σ : Type}

def proxyPlace : Procedure.Place (Connected σ) ProxyState :=
  ⟨proxy, fun proxy s => { s with proxy }⟩

def clientPlace : Procedure.Place (Connected σ) Client :=
  ⟨client, fun client s => { s with client }⟩

def bookPlace : Procedure.Place (Connected σ) HandleBook := ⟨book, fun book s => { s with book }⟩

def innerPlace : Procedure.Place (Connected σ) σ := ⟨inner, fun inner s => { s with inner }⟩

lemma clientPlace_lawful : (clientPlace (σ := σ)).Lawful :=
  ⟨fun _ _ => rfl, fun _ _ _ => rfl, fun _ => rfl⟩

lemma proxyPlace_lawful : (proxyPlace (σ := σ)).Lawful :=
  ⟨fun _ _ => rfl, fun _ _ _ => rfl, fun _ => rfl⟩

variable (S : Selector σ) (base : Server (Connected σ)) (id : ClientId)

/-- The server once the selector is registered with it. -/
def server : Server (Connected σ) := registerSelector (S.within innerPlace) bookPlace base

def caller : Caller (Connected σ) := Client.caller clientPlace ((server S base).farEnd id)

/-- The selector as its user has it, who is known to the server as `id`. -/
def selector : Selector (Connected σ) := Remote.selector (caller S base id) proxyPlace

end Connected

end PathPolicy.Remote
