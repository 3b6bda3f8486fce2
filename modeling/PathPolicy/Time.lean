/-!
# Instants and spans

An `Instant` is a point on the clock, seconds counted from 1970-01-01 and possibly before it.
A `Span` is a length of time. Both keep their nanoseconds below a second, so each has one form
and comparison is lexicographic.
-/

namespace PathPolicy

/-- The number of nanoseconds in a second. -/
abbrev nanosPerSecond : Nat := 1000000000

/-- Whole seconds since 1970-01-01, rounded down, and the nanoseconds above them. -/
structure Instant where
  seconds : Int64
  nanos : Fin nanosPerSecond
  deriving DecidableEq, Inhabited

structure Span where
  seconds : UInt64
  nanos : Fin nanosPerSecond
  deriving DecidableEq, Inhabited

namespace Instant

def epoch : Instant := ⟨0, 0⟩

/-- No later than `later`. -/
def notAfter (earlier later : Instant) : Bool :=
  earlier.seconds < later.seconds ||
    (earlier.seconds == later.seconds && earlier.nanos ≤ later.nanos)

def isBeforeEpoch (t : Instant) : Bool := t.seconds < 0

/--
Whole seconds between the epoch and `t`, dropping the fraction: half a second before the epoch
is second zero, as is half a second after it.
-/
def wholeSeconds (t : Instant) : Int :=
  if t.isBeforeEpoch && t.nanos.val != 0 then t.seconds.toInt + 1 else t.seconds.toInt

end Instant

namespace Span

def zero : Span := ⟨0, 0⟩

/-- The span as a number of seconds, to the precision of a double. -/
def toFloat (d : Span) : Float :=
  d.seconds.toFloat + d.nanos.val.toFloat / 1e9

def ofMilliseconds (ms : Nat) : Span :=
  ⟨(ms / 1000).toUInt64, ⟨ms % 1000 * 1000000, by
    have : ms % 1000 < 1000 := Nat.mod_lt _ (by decide)
    simp only [nanosPerSecond]; omega⟩⟩

end Span

end PathPolicy
