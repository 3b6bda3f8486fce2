import PathPolicy.Time

/-!
# Paths between networks

A `Path` is one of the ways packets can reach a remote: where it starts and ends, the fingerprint
that names it, when it expires, and what is known of the networks it crosses.
A `PathObject` is a path as its holder keeps it: two equal paths may still be two objects.
-/

namespace PathPolicy

/-- The far end of a connection; its text is never interpreted. -/
structure RemoteAddress where
  text : String
  deriving DecidableEq, Inhabited, Hashable

/-- Names a path by the interfaces it crosses. -/
structure Fingerprint where
  text : String
  deriving DecidableEq, Inhabited, Hashable

/-- A network, named by its isolation domain and number. -/
structure Network where
  text : String
  deriving DecidableEq, Inhabited, Hashable

/-- An interface of a network. -/
structure Interface where
  network : Network
  number : UInt64
  deriving DecidableEq, Inhabited

inductive LinkType
  | unset
  | direct
  | multiHop
  | openNet
  deriving DecidableEq, Inhabited

/-- The number that stands for the link type in scripts. -/
def LinkType.code : LinkType → Nat
  | .unset => 0
  | .direct => 1
  | .multiHop => 2
  | .openNet => 3

/-- Coordinates are single-precision floats, kept as their bits. -/
structure Location where
  latitude : UInt32
  longitude : UInt32
  address : String
  deriving DecidableEq, Inhabited

structure PathMetadata where
  mtu : UInt16 := 0
  interfaces : List Interface := []
  latency : List Span := []
  bandwidth : List UInt64 := []
  linkTypes : List LinkType := []
  internalHops : List UInt32 := []
  notes : List String := []
  locations : List Location := []
  deriving DecidableEq, Inhabited

structure Path where
  source : Network
  destination : Network
  fingerprint : Fingerprint
  expiry : Instant
  metadata : Option PathMetadata
  deriving DecidableEq, Inhabited

namespace Path

/-- Whether the metadata lists the interface; a path without metadata crosses none it knows of. -/
def crosses (p : Path) (i : Interface) : Bool :=
  match p.metadata with
  | none => false
  | some m => m.interfaces.contains i

def isExpired (p : Path) (now : Instant) : Bool := p.expiry.notAfter now

/-- Unusable once the path with fingerprint `f` failed at interface `i`. -/
def isAffected (p : Path) (f : Fingerprint) (i : Interface) : Bool :=
  p.fingerprint == f || p.crosses i

end Path

/--
A path as held by someone. The label tells the objects of one holder apart;
a path read from a message has none.
-/
structure PathObject where
  label : Option Nat
  path : Path
  deriving DecidableEq, Inhabited

namespace PathObject

abbrev fingerprint (o : PathObject) : Fingerprint := o.path.fingerprint

end PathObject

end PathPolicy
