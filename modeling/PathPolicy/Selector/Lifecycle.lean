import PathPolicy.Dictionary
import PathPolicy.Error

/-!
# Remotes from opening to closing

A stateful selector remembers for each remote whether it is in use or was closed. Starting a remote
is always allowed; every other operation on a closed remote is misuse. Only the remotes closed last
are remembered, so the memory for closed remotes is bounded; an older one reads as never used.
-/

namespace PathPolicy

inductive RemoteState
  | uninitialized
  | populated
  | closed
  deriving DecidableEq, Inhabited

def RemoteState.name : RemoteState → String
  | .uninitialized => "Uninitialized"
  | .populated => "Populated"
  | .closed => "Closed"

structure RemoteLifecycle where
  maxClosed : Nat := 1024
  states : Dictionary RemoteAddress RemoteState := {}
  /-- Closed remotes, the one closed first in front. -/
  closed : List RemoteAddress := []
  deriving Inhabited

namespace RemoteLifecycle

def state (l : RemoteLifecycle) (r : RemoteAddress) : RemoteState :=
  (l.states.get? r).getD .uninitialized

/-- The number of remotes with a remembered state. -/
def tracked (l : RemoteLifecycle) : Nat := l.states.size

def ensureOpen (l : RemoteLifecycle) (r : RemoteAddress) (operation : String) :
    Except PolicyError RemoteState :=
  match l.state r with
  | .closed => .error (.selector (.remoteClosed r operation))
  | s => .ok s

def markPopulated (l : RemoteLifecycle) (r : RemoteAddress) : RemoteLifecycle :=
  { l with
    states := l.states.insert r .populated
    closed := if l.state r = .closed then l.closed.filter (· ≠ r) else l.closed }

/-- Forgets the remotes closed first until at most `maxClosed` are left. -/
def trim (l : RemoteLifecycle) : RemoteLifecycle :=
  let excess := l.closed.length - l.maxClosed
  { l with
    states := l.states.eraseAll (l.closed.take excess)
    closed := l.closed.drop excess }

def markClosed (l : RemoteLifecycle) (r : RemoteAddress) : RemoteLifecycle :=
  let marked := { l with states := l.states.insert r .closed }
  if l.state r = .closed then marked else trim { marked with closed := l.closed ++ [r] }

end RemoteLifecycle

end PathPolicy
