import PathPolicy.Enumeration
import PathPolicy.Time

/-!
# Self-describing values

A `Document` is a value together with the names of its fields, as people and scripts see it. A
`Described` type writes its values as documents and a `Readable` one reads them back. An absent
field and an absent value are the same. What an instant looks like is left to whoever shows the
document.
-/

namespace PathPolicy

inductive Document
  | absent
  | boolean (b : Bool)
  | number (n : Int)
  | text (s : String)
  | instant (t : Instant)
  | list (items : List Document)
  | record (fields : List (String × Document))
  deriving Inhabited

class Described (α : Type) where
  describe : α → Document

class Readable (α : Type) where
  read? : Document → Option α

export Described (describe)

namespace Document

variable {α : Type}

/-- The value of a field, absent without one. -/
def field (d : Document) (key : String) : Document :=
  match d with
  | .record fields => (fields.lookup key).getD .absent
  | _ => .absent

/-- Reads a field. -/
def get? [Readable α] (d : Document) (key : String) : Option α := Readable.read? (d.field key)

/-- Reads a field that may be absent. -/
def getD [Readable α] (d : Document) (key : String) (default : α) : Option α :=
  match d.field key with
  | .absent => some default
  | v => Readable.read? v

/-- A number within bounds. -/
def bounded? (low high : Int) : Document → Option Int
  | .number n => if low ≤ n ∧ n < high then some n else none
  | _ => none

/-- The fields present, in order. -/
def present (fields : List (String × Document)) : Document :=
  .record (fields.filter fun | (_, .absent) => false | _ => true)

end Document

variable {α : Type}

instance : Described Document := ⟨id⟩

instance : Readable Document := ⟨some⟩

instance : Described Bool := ⟨.boolean⟩

instance : Readable Bool := ⟨fun | .boolean b => some b | _ => none⟩

instance : Readable Int := ⟨fun | .number n => some n | _ => none⟩

instance : Described Nat := ⟨fun n => .number n⟩

instance : Readable Nat := ⟨fun | .number n => n.toNat? | _ => none⟩

instance : Described UInt64 := ⟨fun n => .number n.toNat⟩

instance : Readable UInt64 :=
  ⟨fun d => (d.bounded? 0 UInt64.size).map fun n => n.toNat.toUInt64⟩

instance : Described UInt32 := ⟨fun n => .number n.toNat⟩

instance : Readable UInt32 :=
  ⟨fun d => (d.bounded? 0 UInt32.size).map fun n => n.toNat.toUInt32⟩

instance : Described UInt16 := ⟨fun n => .number n.toNat⟩

instance : Readable UInt16 :=
  ⟨fun d => (d.bounded? 0 UInt16.size).map fun n => n.toNat.toUInt16⟩

instance : Described UInt8 := ⟨fun n => .number n.toNat⟩

instance : Readable UInt8 := ⟨fun d => (d.bounded? 0 UInt8.size).map fun n => n.toNat.toUInt8⟩

instance : Described Int64 := ⟨fun n => .number n.toInt⟩

instance : Readable Int64 :=
  ⟨fun d => (d.bounded? Int64.minValue.toInt (Int64.maxValue.toInt + 1)).map Int64.ofInt⟩

instance : Described (Fin nanosPerSecond) := ⟨fun n => .number n.val⟩

instance : Readable (Fin nanosPerSecond) :=
  ⟨fun d => (d.bounded? 0 nanosPerSecond).map fun n =>
    ⟨n.toNat % nanosPerSecond, Nat.mod_lt _ (by decide)⟩⟩

instance : Described String := ⟨.text⟩

instance : Readable String := ⟨fun | .text s => some s | _ => none⟩

instance : Described Instant := ⟨.instant⟩

instance : Readable Instant :=
  ⟨fun
    | .instant t => some t
    | d => do return ⟨← d.get? "secs_since_epoch", ← d.get? "nanos_since_epoch"⟩⟩

instance : Described Span :=
  ⟨fun d => .record [("secs", describe d.seconds), ("nanos", describe d.nanos)]⟩

instance : Readable Span := ⟨fun d => do return ⟨← d.get? "secs", ← d.get? "nanos"⟩⟩

instance [Described α] : Described (Option α) :=
  ⟨fun | none => .absent | some a => describe a⟩

instance [Readable α] : Readable (Option α) :=
  ⟨fun | .absent => some none | d => (Readable.read? d).map some⟩

instance [Described α] : Described (List α) := ⟨fun l => .list (l.map describe)⟩

instance [Readable α] : Readable (List α) :=
  ⟨fun | .list items => items.mapM Readable.read? | _ => none⟩

instance (priority := low) [Enumeration α] : Described α :=
  ⟨fun a => .text (Enumeration.name a)⟩

instance (priority := low) [Enumeration α] : Readable α :=
  ⟨fun | .text s => Enumeration.ofName? s | _ => none⟩

end PathPolicy
