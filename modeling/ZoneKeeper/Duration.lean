/-!
# Durations

Lengths of time and instants of the virtual clock, in whole nanoseconds.
-/

namespace ZoneKeeper

structure Duration where
  nanoseconds : Nat
  deriving DecidableEq, Repr, Inhabited

namespace Duration

def zero : Duration := ⟨0⟩

def perSecond : Nat := 1000000000

def ofSeconds (seconds : Nat) : Duration :=
  ⟨seconds * perSecond⟩

def ofMillis (milliseconds : Nat) : Duration :=
  ⟨milliseconds * 1000000⟩

def ofParts (seconds nanoseconds : Nat) : Duration :=
  ⟨seconds * perSecond + nanoseconds⟩

def seconds (duration : Duration) : Nat :=
  duration.nanoseconds / perSecond

/-- The nanoseconds past the last whole second. -/
def subsecond (duration : Duration) : Nat :=
  duration.nanoseconds % perSecond

def millis (duration : Duration) : Nat :=
  duration.nanoseconds / 1000000

def isZero (duration : Duration) : Bool :=
  duration.nanoseconds = 0

theorem isZero_iff {duration : Duration} : duration.isZero = true ↔ duration.nanoseconds = 0 :=
  decide_eq_true_iff

instance : Add Duration :=
  ⟨fun left right => ⟨left.nanoseconds + right.nanoseconds⟩⟩

instance : LE Duration :=
  ⟨fun left right => left.nanoseconds ≤ right.nanoseconds⟩

instance (left right : Duration) : Decidable (left ≤ right) :=
  inferInstanceAs (Decidable (left.nanoseconds ≤ right.nanoseconds))

/-- The nearest floating-point number of seconds, the fraction added to the whole part. -/
def toFloat (duration : Duration) : Float :=
  duration.seconds.toFloat + duration.subsecond.toFloat / perSecond.toFloat

/-- Thirty years. -/
def longest : Duration :=
  .ofSeconds 946080000

def bounded (duration : Duration) : Duration :=
  if duration ≤ longest then duration else longest

end Duration

end ZoneKeeper
