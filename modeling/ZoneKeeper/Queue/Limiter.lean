import ZoneKeeper.Queue.Backoff
import ZoneKeeper.Table

/-!
# Counting failures

The limiter counts the failures of every item since the item was last forgotten, and turns the
count into a time to wait.
-/

namespace ZoneKeeper

/-- Counts stop here. -/
def largestCount : Nat := 0xFFFFFFFF

structure Limiter (κ : Type) where
  backoff : Backoff
  counts : Table κ Nat := {}

namespace Limiter

variable {κ : Type} [DecidableEq κ]

/-- How often an item has failed since it was last forgotten. -/
def failures (limiter : Limiter κ) (item : κ) : Nat :=
  (limiter.counts.get? item).getD 0

def delay (limiter : Limiter κ) (item : κ) : Option Duration :=
  limiter.backoff.delay (limiter.failures item)

def count (limiter : Limiter κ) (item : κ) : Limiter κ :=
  { limiter with
    counts := limiter.counts.insert item (min (limiter.failures item + 1) largestCount) }

def forget (limiter : Limiter κ) (item : κ) : Limiter κ :=
  { limiter with counts := limiter.counts.erase item }

@[simp]
theorem failures_count_self (limiter : Limiter κ) (item : κ) :
    (limiter.count item).failures item = min (limiter.failures item + 1) largestCount := by
  simp [failures, count]

theorem failures_count_of_ne (limiter : Limiter κ) {item other : κ} (apart : item ≠ other) :
    (limiter.count item).failures other = limiter.failures other := by
  simp [failures, count, Table.get?_insert_of_ne _ _ apart]

@[simp]
theorem failures_forget_self (limiter : Limiter κ) (item : κ) :
    (limiter.forget item).failures item = 0 := by
  simp [failures, forget]

theorem failures_forget_of_ne (limiter : Limiter κ) {item other : κ} (apart : item ≠ other) :
    (limiter.forget item).failures other = limiter.failures other := by
  simp [failures, forget, Table.get?_erase_of_ne _ apart]

end Limiter

end ZoneKeeper
