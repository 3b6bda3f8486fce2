import PathPolicy.Codec.Path

/-!
# Selector calls as messages

The five methods of a selector share one request record with every field optional. Paths travel
with the handles under which their holder knows them, and the answer to `Path` is such a handle.
-/

namespace PathPolicy

namespace Remote

/-- A path and the handle its holder issued for it. -/
structure PathRecord where
  handle : PathHandle
  path : Path
  deriving DecidableEq

structure SelectorMessage where
  remote : Option RemoteAddress := none
  paths : Option (List PathRecord) := none
  fingerprint : Option Fingerprint := none
  interface : Option Interface := none
  deriving DecidableEq

structure PathReply where
  handle : Option PathHandle := none
  deriving DecidableEq

inductive SelectorMethod
  | start
  | path
  | pathDown
  | refresh
  | close
  deriving DecidableEq

namespace SelectorMethod

def all : List SelectorMethod := [.start, .path, .pathDown, .refresh, .close]

def name : SelectorMethod → String
  | .start => "Selector.Initialize"
  | .path => "Selector.Path"
  | .pathDown => "Selector.PathDown"
  | .refresh => "Selector.Refresh"
  | .close => "Selector.Close"

end SelectorMethod

end Remote

namespace Codec

open Remote

def pathRecord : Codec PathRecord :=
  (pair pathHandle path).map (fun (h, p) => ⟨h, p⟩) fun r => (r.handle, r.path)

def selectorMessage : Codec SelectorMessage :=
  (pair (option remoteAddress) <| pair (option (list pathRecord)) <|
    pair (option fingerprint) (option interface)).map
    (fun (remote, paths, fingerprint, interface) => { remote, paths, fingerprint, interface })
    fun m => (m.remote, m.paths, m.fingerprint, m.interface)

def pathReply : Codec PathReply := (option pathHandle).map .mk PathReply.handle

end Codec

end PathPolicy
