import PathPolicy.Path

/-!
# Numbers that stand for things

A `PathHandle` stands for a path across a connection, a `TracingId` for a traced connection and
a `ClientId` for a client of a server. A `Scope` puts a client's name before its remotes, so that
remotes of different clients never coincide.
-/

namespace PathPolicy

structure PathHandle where
  number : UInt64
  deriving DecidableEq, Inhabited, Hashable

structure TracingId where
  number : UInt64
  deriving DecidableEq, Inhabited, Hashable

structure ClientId where
  number : UInt64
  deriving DecidableEq, Inhabited, Hashable

instance : ToString PathHandle := ⟨fun h => "#" ++ Nat.repr h.number.toNat⟩

instance : ToString TracingId := ⟨fun i => Nat.repr i.number.toNat⟩

instance : ToString ClientId := ⟨fun c => "client-" ++ Nat.repr c.number.toNat⟩

instance : ToString RemoteAddress := ⟨RemoteAddress.text⟩

instance : ToString Fingerprint := ⟨Fingerprint.text⟩

instance : ToString Network := ⟨Network.text⟩

/-- The remote under the name by which a shared selector knows it. -/
def ClientId.scoped (c : ClientId) (r : RemoteAddress) : RemoteAddress :=
  ⟨toString c ++ "/" ++ r.text⟩

/-- Hands out tracing ids in order, starting at one. -/
structure TracingIdAllocator where
  next : TracingId := ⟨1⟩
  deriving DecidableEq, Inhabited

namespace TracingIdAllocator

def allocate (a : TracingIdAllocator) : TracingId × TracingIdAllocator :=
  (a.next, ⟨⟨a.next.number + 1⟩⟩)

def take : Nat → TracingIdAllocator → List TracingId
  | 0, _ => []
  | n + 1, a => a.allocate.1 :: take n a.allocate.2

end TracingIdAllocator

end PathPolicy
