import ZoneKeeper.Duration
import ZoneKeeper.Number.Binary

/-!
# Backoff

The time that a key waits before it is tried again grows with the number of its failures: the base
time is multiplied once for every failure, up to a ceiling.
-/

namespace ZoneKeeper

structure Backoff where
  base : Duration
  ceiling : Duration
  multiplier : Float

namespace Backoff

/-- Five milliseconds, doubled with every failure up to a thousand seconds. -/
def standard : Backoff :=
  ⟨.ofMillis 5, .ofSeconds 1000, 2⟩

/-- More failures than this count as this many. -/
def largestExponent : Nat := 0x7FFFFFFF

/-- The time to wait after `failures` earlier failures.  A product that is no number, or reaches
the ceiling, gives the ceiling; there is no answer for a negative product. -/
def delay (backoff : Backoff) (failures : Nat) : Option Duration :=
  let seconds := backoff.base.toFloat *
    powerOf backoff.multiplier (min failures largestExponent)
  match Binary.ofFloat? seconds with
  | none => some backoff.ceiling
  | some binary =>
      if backoff.ceiling.toFloat ≤ seconds then some backoff.ceiling
      else if binary.negative && binary.mantissa ≠ 0 then none
      else some ⟨binary.scaled Duration.perSecond⟩

end Backoff

end ZoneKeeper
