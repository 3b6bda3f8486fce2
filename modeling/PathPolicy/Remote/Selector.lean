import PathPolicy.Call.Caller
import PathPolicy.OfferTable
import PathPolicy.Remote.SelectorMessage
import PathPolicy.Selector.Basic
import PathPolicy.Selector.Lifecycle

/-!
# A selector at the far end of a connection

Every decision is the far end's. It is told the paths on offer under fresh handles and answers
with a handle, which leads back to the path object that was offered under it. An operation is two
stretches with the call between them: `ProxyState.ask` prepares the call or refuses it, and
`settleUpdate` or `settlePath` takes the answer.
-/

namespace PathPolicy.Remote

structure ProxyState where
  /-- The handles the far end was told. -/
  handles : HandleTable := {}
  lifecycle : RemoteLifecycle := {}
  deriving Inhabited

def SelectorMethod.of : SelectorCall → SelectorMethod
  | .start .. => .start
  | .path _ => .path
  | .pathDown .. => .pathDown
  | .refresh .. => .refresh
  | .close _ => .close

namespace ProxyState

/-- Issues handles for an offer; the message has all of them in one batch. -/
def offer (s : ProxyState) (r : RemoteAddress) (paths : List PathObject) :
    SelectorMessage × ProxyState :=
  let (issued, handles) := s.handles.issue r paths
  ({ remote := r, paths := some ((issued.zip paths).map fun (h, o) => ⟨h, o.path⟩) },
    { s with handles })

/-- What the far end is asked, unless the remote is closed. -/
def ask (s : ProxyState) (call : SelectorCall) : Except PolicyError SelectorMessage × ProxyState :=
  let unlessClosed (operation : String) (m : SelectorMessage) :
      Except PolicyError SelectorMessage :=
    (s.lifecycle.ensureOpen call.remote operation).map fun _ => m
  match call with
  | .start r paths =>
    let (m, s) := s.offer r paths
    (.ok m, s)
  | .path r => (unlessClosed "path" { remote := r }, s)
  | .pathDown r f i =>
    (unlessClosed "path_down" { remote := r, fingerprint := f, interface := i }, s)
  | .refresh r paths =>
    match s.lifecycle.ensureOpen r "refresh" with
    | .error e => (.error e, s)
    | .ok _ =>
      let (m, s) := s.offer r paths
      (.ok m, s)
  | .close r => (unlessClosed "close" { remote := r }, s)

/-- The answer to anything but `path`. A remote is closed here even if closing it failed. -/
def settleUpdate (s : ProxyState) (call : SelectorCall) (reply : Except CallError Unit) :
    Except PolicyError Unit × ProxyState :=
  (reply.mapError .call,
    match call, reply with
    | .start r _, .ok () | .refresh r _, .ok () =>
      { s with lifecycle := s.lifecycle.markPopulated r }
    | .pathDown r f _, .ok () => { s with handles := s.handles.removePath r f }
    | .close r, _ =>
      { handles := s.handles.removeRemote r, lifecycle := s.lifecycle.markClosed r }
    | _, _ => s)

/-- The path a handle stands for at this moment; none if it stands for nothing any more. -/
def settlePath (s : ProxyState) (reply : Except CallError PathReply) :
    Except PolicyError (Option PathObject) :=
  match reply with
  | .error e => .error (.call e)
  | .ok reply => .ok (reply.handle.bind s.handles.resolve)

end ProxyState

variable {σ : Type}

/-- An operation with a unit answer. -/
def update (C : Call.Caller σ) (p : Procedure.Place σ ProxyState) (call : SelectorCall) :
    Procedure σ (Except PolicyError Unit) := do
  let asked ← .stretch fun s =>
    let (m, proxy) := (p.get s).ask call
    (m, p.set proxy s)
  match asked with
  | .error e => return .error e
  | .ok m =>
    let reply ← C.request (SelectorMethod.of call).name Codec.selectorMessage Codec.unit m
    .stretch fun s =>
      let (outcome, proxy) := (p.get s).settleUpdate call reply
      (outcome, p.set proxy s)

/-- The selector that calls through `C` and keeps its own state at `p`. -/
def selector (C : Call.Caller σ) (p : Procedure.Place σ ProxyState) : Selector σ where
  start r paths := update C p (.start r paths)
  path r := do
    match ← .read fun s => ((p.get s).ask (.path r)).1 with
    | .error e => return .error e
    | .ok m =>
      let reply ← C.request SelectorMethod.path.name Codec.selectorMessage Codec.pathReply m
      .read fun s => (p.get s).settlePath reply
  pathDown r f i := update C p (.pathDown r f i)
  refresh r paths := update C p (.refresh r paths)
  close r := update C p (.close r)

end PathPolicy.Remote
