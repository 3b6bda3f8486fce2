import PathPolicy.Call.Server
import PathPolicy.OfferTable
import PathPolicy.Remote.SelectorMessage
import PathPolicy.Selector.Basic

/-!
# A selector for callers at the far end of a connection

Each client has a table of the handles it told, so clients never resolve each other's handles. The
selector knows every remote under a name that begins with its client's, so clients that use equal
names for their remotes do not meet there either.
-/

namespace PathPolicy.Remote

/-- The handles of each client that has told any. -/
structure HandleBook where
  clients : Dictionary ClientId (OfferTable PathHandle) := {}
  deriving Inhabited

namespace HandleBook

/-- The handles a client told; empty for a new client. -/
def table (b : HandleBook) (c : ClientId) : OfferTable PathHandle := (b.clients.get? c).getD {}

/-- Changes the handles of a client, who is known afterwards. -/
def update (b : HandleBook) (c : ClientId) (f : OfferTable PathHandle → OfferTable PathHandle) :
    HandleBook :=
  ⟨b.clients.insert c (f (b.table c))⟩

def release (b : HandleBook) (c : ClientId) : HandleBook := ⟨b.clients.erase c⟩

def clientCount (b : HandleBook) : Nat := b.clients.size

end HandleBook

variable {σ α : Type}

/-- A field that a method cannot do without. -/
def SelectorMethod.required (method : SelectorMethod) (field : String) (value : Option α) :
    Except MethodError α :=
  MethodError.required method.name field value

/-- The outcome of a selector as its caller is told. -/
def told (outcome : Except PolicyError α) : Except MethodError α :=
  outcome.mapError PolicyError.toMethodError

/-- Takes a new offer and passes it on to the selector. -/
def serveOffer (S : Selector σ) (p : Procedure.Place σ HandleBook) (method : SelectorMethod)
    (c : ClientId) (m : SelectorMessage) : Procedure σ (Except MethodError Unit) :=
  match (do return (← method.required "remote" m.remote, ← method.required "paths" m.paths)) with
  | .error e => return .error e
  | .ok (r, records) => do
    let paths : List PathObject := records.map fun record => ⟨none, record.path⟩
    .write (p.modify fun b =>
      b.update c (·.replaceWith r ((records.map PathRecord.handle).zip paths)))
    let outcome ←
      match method with
      | .start => S.start (c.scoped r) paths
      | _ => S.refresh (c.scoped r) paths
    return told outcome

/-- Answers with the handle of the chosen path, if the client offered one with its fingerprint. -/
def servePath (S : Selector σ) (p : Procedure.Place σ HandleBook) (c : ClientId)
    (m : SelectorMessage) : Procedure σ (Except MethodError PathReply) :=
  match SelectorMethod.path.required "remote" m.remote with
  | .error e => return .error e
  | .ok r => do
    match ← S.path (c.scoped r) with
    | .error e => return .error e.toMethodError
    | .ok none => return .ok {}
    | .ok (some o) => .stretch fun s =>
      let b := (p.get s).update c id
      (.ok ⟨(b.table c).keyOf r o.fingerprint⟩, p.set b s)

def servePathDown (S : Selector σ) (c : ClientId) (m : SelectorMessage) :
    Procedure σ (Except MethodError Unit) :=
  let method := SelectorMethod.pathDown
  let fields := do
    return (← method.required "remote" m.remote, ← method.required "fingerprint" m.fingerprint,
      ← method.required "interface" m.interface)
  match fields with
  | .error e => return .error e
  | .ok (r, f, i) => do return told (← S.pathDown (c.scoped r) f i)

/-- Drops the handles even if the selector fails. -/
def serveClose (S : Selector σ) (p : Procedure.Place σ HandleBook) (c : ClientId)
    (m : SelectorMessage) : Procedure σ (Except MethodError Unit) :=
  match SelectorMethod.close.required "remote" m.remote with
  | .error e => return .error e
  | .ok r => do
    let outcome ← S.close (c.scoped r)
    .write (p.modify fun b => b.update c (·.removeRemote r))
    return told outcome

/-- Registers the methods of a selector, with the handles of its callers at `p`. -/
def registerSelector (S : Selector σ) (p : Procedure.Place σ HandleBook) (server : Call.Server σ) :
    Call.Server σ :=
  let message := Codec.selectorMessage
  let server := server
    |>.register SelectorMethod.start.name message Codec.unit (serveOffer S p .start)
    |>.register SelectorMethod.refresh.name message Codec.unit (serveOffer S p .refresh)
    |>.register SelectorMethod.path.name message Codec.pathReply (servePath S p)
    |>.register SelectorMethod.pathDown.name message Codec.unit (servePathDown S)
    |>.register SelectorMethod.close.name message Codec.unit (serveClose S p)
  server.onFarewell fun c => p.modify (·.release c)

end PathPolicy.Remote
