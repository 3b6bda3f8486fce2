import PathPolicy.Dictionary
import PathPolicy.Identity

/-!
# Keys that stand for offered paths

A policy behind a boundary cannot hold a path object. It is given a key for each path offered for
a remote, and the holder resolves the keys it gets back. An `OfferTable` leads from remote and
fingerprint to key and from key to path object. A new offer for a remote first drops all keys of
the old one, so a stale key resolves to nothing and never to a newer path with its fingerprint.

`HandleTable` issues its own keys, in order and each once.
-/

namespace PathPolicy

structure OfferTable (κ : Type) where
  offers : Dictionary RemoteAddress (Dictionary Fingerprint κ) := {}
  objects : Dictionary κ PathObject := {}
  deriving Inhabited

namespace OfferTable

variable {κ : Type} [DecidableEq κ]

/-- The keys by fingerprint of the current offer for `r`; empty without one. -/
def offer (t : OfferTable κ) (r : RemoteAddress) : Dictionary Fingerprint κ :=
  (t.offers.get? r).getD {}

/-- Drops the keys of `r`, which stays known. -/
def clear (t : OfferTable κ) (r : RemoteAddress) : OfferTable κ :=
  { offers := t.offers.modify r fun _ => {}
    objects := t.objects.eraseAll (t.offer r).values }

/-- Drops the keys of `r` and forgets it. -/
def removeRemote (t : OfferTable κ) (r : RemoteAddress) : OfferTable κ :=
  { t.clear r with offers := t.offers.erase r }

/-- Drops the key of one fingerprint. -/
def removePath (t : OfferTable κ) (r : RemoteAddress) (f : Fingerprint) : OfferTable κ :=
  match (t.offer r).get? f with
  | none => t
  | some k =>
    { offers := t.offers.modify r (·.erase f)
      objects := t.objects.erase k }

/-- Clears `r` and offers `batch` for it. Of two paths with one fingerprint, the later has it. -/
def replaceWith (t : OfferTable κ) (r : RemoteAddress) (batch : List (κ × PathObject)) :
    OfferTable κ :=
  { offers := t.offers.insert r
      (({} : Dictionary Fingerprint κ).insertAll (batch.map fun e => (e.2.fingerprint, e.1)))
    objects := (t.clear r).objects.insertAll batch }

/-- The path object a key currently stands for, whichever remote it was offered for. -/
def resolve (t : OfferTable κ) (k : κ) : Option PathObject := t.objects.get? k

def keyOf (t : OfferTable κ) (r : RemoteAddress) (f : Fingerprint) : Option κ :=
  (t.offer r).get? f

def count (t : OfferTable κ) (r : RemoteAddress) : Nat := (t.offer r).size

def containsRemote (t : OfferTable κ) (r : RemoteAddress) : Bool := t.offers.contains r

end OfferTable

structure HandleTable extends OfferTable PathHandle where
  next : UInt64 := 1
  deriving Inhabited

namespace HandleTable

/-- Pairs each path with the next handle. -/
def number (next : UInt64) : List PathObject → List (PathHandle × PathObject)
  | [] => []
  | p :: ps => (⟨next⟩, p) :: number (next + 1) ps

/-- Offers `paths` for `r` under fresh handles, answered in order. -/
def issue (t : HandleTable) (r : RemoteAddress) (paths : List PathObject) :
    List PathHandle × HandleTable :=
  let batch := number t.next paths
  (batch.map Prod.fst,
    { toOfferTable := t.toOfferTable.replaceWith r batch
      next := t.next + paths.length.toUInt64 })

def clear (t : HandleTable) (r : RemoteAddress) : HandleTable :=
  { t with toOfferTable := t.toOfferTable.clear r }

def removeRemote (t : HandleTable) (r : RemoteAddress) : HandleTable :=
  { t with toOfferTable := t.toOfferTable.removeRemote r }

def removePath (t : HandleTable) (r : RemoteAddress) (f : Fingerprint) : HandleTable :=
  { t with toOfferTable := t.toOfferTable.removePath r f }

/-- Offers `batch` under keys chosen by the caller; none of them is issued. -/
def replaceWith (t : HandleTable) (r : RemoteAddress) (batch : List (PathHandle × PathObject)) :
    HandleTable :=
  { t with toOfferTable := t.toOfferTable.replaceWith r batch }

end HandleTable

end PathPolicy
