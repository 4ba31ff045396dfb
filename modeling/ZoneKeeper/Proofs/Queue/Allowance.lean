import ZoneKeeper.Proofs.Queue.Expectations
import Mathlib.Algebra.Order.BigOperators.Group.Finset

/-!
# The allowance of a key

A key can still be worked on once for each time that it is outstanding: dirty, handed out, or to be
added by a timer.  If each work on it may fail a limited number of times in a row, and every such
failure puts it back with one more failure on its count, then the number of times that it can still
be worked on is bounded by its allowance: one more than the limit for each time that it is
outstanding, less the failures that are counted already.
-/

namespace ZoneKeeper.WorkQueue

variable {κ : Type} [DecidableEq κ] {queue rest : WorkQueue κ} {key other : κ}

def timed (queue : WorkQueue κ) (key : κ) : Nat :=
  queue.timers.countP fun timer => timer.key = key

/-- How many times a key is dirty, handed out, or to be added by a timer. -/
def outstanding (queue : WorkQueue κ) (key : κ) : Nat :=
  (if key ∈ queue.dirty then 1 else 0) + (if key ∈ queue.processing then 1 else 0) +
    queue.timed key

/-- An upper bound of how often a key can still be worked on, if it is given up after `limit`
failures in a row. -/
def allowance (limit : Nat) (queue : WorkQueue κ) (key : κ) : Nat :=
  (limit + 1) * queue.outstanding key - min (queue.requeues key) limit

def outstandingKeys (queue : WorkQueue κ) : Finset κ :=
  (queue.dirty ++ queue.processing ++ queue.timers.map Timer.key).toFinset

def totalAllowance (limit : Nat) (queue : WorkQueue κ) : Nat :=
  ∑ key ∈ queue.outstandingKeys, queue.allowance limit key

theorem outstanding_eq_zero_of_notMem (absent : key ∉ queue.outstandingKeys) :
    queue.outstanding key = 0 := by
  simp only [outstandingKeys, List.toFinset_append, Finset.mem_union, List.mem_toFinset,
    List.mem_map, not_or, not_exists, not_and] at absent
  obtain ⟨⟨clean, free⟩, untimed⟩ := absent
  have none_timed : queue.timed key = 0 :=
    List.countP_eq_zero.2 fun timer pending => by simpa using untimed timer pending
  simp [outstanding, clean, free, none_timed]

theorem outstanding_add_le (queue : WorkQueue κ) (key other : κ) :
    (queue.add key).outstanding other ≤ queue.outstanding other + if key = other then 1 else 0 := by
  have dirty : (if other ∈ (queue.add key).dirty then 1 else 0) ≤
      (if other ∈ queue.dirty then 1 else 0) + if key = other then 1 else 0 := by
    by_cases same : key = other
    · rw [if_pos same]
      split <;> omega
    · have unchanged : other ∈ (queue.add key).dirty ↔ other ∈ queue.dirty := by
        simp [mem_dirty_add, Ne.symm same]
      simp [unchanged]
  simp only [outstanding, timed, processing_add, timers_add]
  omega

theorem outstanding_addAll_le (queue : WorkQueue κ) (keys : List κ) (key : κ) :
    (keys.foldl WorkQueue.add queue).outstanding key ≤ queue.outstanding key + keys.count key := by
  induction keys generalizing queue with
  | nil => simp
  | cons first keys ih =>
      have head := outstanding_add_le queue first key
      have tail := ih (queue.add first)
      rw [List.foldl_cons, List.count_cons]
      simp only [beq_iff_eq]
      omega

@[simp]
theorem requeues_add (queue : WorkQueue κ) (key other : κ) :
    (queue.add key).requeues other = queue.requeues other := by
  unfold add
  split <;> rfl

@[simp]
theorem requeues_addAll (queue : WorkQueue κ) (keys : List κ) (key : κ) :
    (keys.foldl WorkQueue.add queue).requeues key = queue.requeues key := by
  induction keys generalizing queue with
  | nil => rfl
  | cons first keys ih => rw [List.foldl_cons, ih, requeues_add]

@[simp]
theorem timers_addAll (queue : WorkQueue κ) (keys : List κ) :
    (keys.foldl WorkQueue.add queue).timers = queue.timers := by
  induction keys generalizing queue with
  | nil => rfl
  | cons first keys ih => rw [List.foldl_cons, ih, timers_add]

/-- The key that is handed out was dirty and is then being worked on. -/
theorem outstanding_take (sound : queue.IsSound) (taken : queue.take? = some (key, rest))
    (other : κ) : rest.outstanding other = queue.outstanding other := by
  obtain ⟨line, waiting, rfl⟩ := take?_eq_some_iff.1 taken
  obtain ⟨dirty, free⟩ := (sound.mem_line_iff key).1 (by simp [waiting])
  by_cases same : other = key
  · subst same
    simp [outstanding, timed, dirty, free]
  · simp [outstanding, timed, same]

theorem outstanding_done (held : key ∈ queue.processing) (other : κ) :
    (queue.done key).outstanding other + (if key = other then 1 else 0) =
      queue.outstanding other := by
  by_cases same : key = other
  · subst same
    simp [outstanding, timed, done, held]
    omega
  · simp [outstanding, timed, done, same, Ne.symm same]

/-- A timer that fires gives way to the addition that it stands for. -/
theorem outstanding_fire_le {timer : Timer κ} (pending : timer ∈ queue.timers) (other : κ) :
    (queue.fire timer).outstanding other ≤ queue.outstanding other := by
  have erased : queue.timed other =
      (queue.timers.erase timer).countP (fun later => later.key = other) +
        if timer.key = other then 1 else 0 := by
    rw [timed, (List.perm_cons_erase pending).countP_eq, List.countP_cons]
    simp
  calc (queue.fire timer).outstanding other
      ≤ outstanding { queue with timers := queue.timers.erase timer } other +
          if timer.key = other then 1 else 0 := outstanding_add_le _ timer.key other
    _ = queue.outstanding other := by
        simp only [outstanding, erased]
        simp only [timed]
        omega

theorem outstanding_advanceTo_le (queue : WorkQueue κ) (instant : Duration) (other : κ) :
    (queue.advanceTo instant).outstanding other ≤ queue.outstanding other := by
  have agrees := advanceTo_agrees queue instant
  have added := outstanding_addAll_le queue ((queue.dueBy instant).map Timer.key) other
  have fired : ((queue.dueBy instant).map Timer.key).count other =
      (queue.timers.filter fun timer => timer.due ≤ instant).countP fun timer =>
        timer.key = other := by
    rw [List.count_eq_countP, List.countP_map, dueBy, (sortBy_perm _ _).countP_eq]
    rfl
  have parted := List.countP_eq_countP_filter_add queue.timers (fun timer => timer.key = other)
    fun timer => timer.due ≤ instant
  have left : (queue.advanceTo instant).timed other =
      (queue.timers.filter fun timer => !decide (timer.due ≤ instant)).countP fun timer =>
        timer.key = other := by
    simp [timed, advanceTo]
  rw [fired] at added
  simp only [outstanding, timed, timers_addAll, processing_addAll] at added parted left ⊢
  rw [agrees.dirty, agrees.processing, processing_addAll, left]
  omega

@[simp]
theorem requeues_advanceTo (queue : WorkQueue κ) (instant : Duration) (key : κ) :
    (queue.advanceTo instant).requeues key = queue.requeues key := by
  have limiter : (queue.advanceTo instant).limiter =
      (((queue.dueBy instant).map Timer.key).foldl WorkQueue.add queue).limiter := by
    rw [List.foldl_map]
    rfl
  rw [requeues, limiter]
  exact requeues_addAll queue _ key

theorem requeues_take (taken : queue.take? = some (key, rest)) (other : κ) :
    rest.requeues other = queue.requeues other := by
  obtain ⟨line, -, rfl⟩ := take?_eq_some_iff.1 taken
  rfl

theorem requeues_forget (queue : WorkQueue κ) (key other : κ) :
    (queue.forget key).requeues other = if key = other then 0 else queue.requeues other := by
  by_cases same : key = other
  · subst same
    simp [requeues, forget]
  · simp [requeues, forget, Limiter.failures_forget_of_ne _ same, same]

/-- The calls by which keys only go from one collection to the next: a key is handed out, a pending
addition fires, the clock moves. -/
def Call.MovesOn (queue : WorkQueue κ) : Call κ → Prop
  | .get | .advanceTo _ => True
  | .fire timer => timer ∈ queue.timers
  | _ => False

variable {call : Call κ}

omit [DecidableEq κ] in
theorem Call.MovesOn.isAllowed (moves : call.MovesOn queue) : call.IsAllowed queue := by
  cases call with
  | get | advanceTo => trivial
  | fire => exact moves
  | _ => contradiction

theorem outstanding_call_le (sound : queue.IsSound) (moves : call.MovesOn queue) (other : κ) :
    (call.run queue).outstanding other ≤ queue.outstanding other := by
  cases call with
  | get =>
      cases taken : queue.take? with
      | none => simp [Call.run, taken]
      | some handout => simpa [Call.run, taken] using (outstanding_take sound taken other).le
  | fire timer => exact outstanding_fire_le moves other
  | advanceTo instant => exact outstanding_advanceTo_le queue instant other
  | _ => contradiction

theorem requeues_call (moves : call.MovesOn queue) (other : κ) :
    (call.run queue).requeues other = queue.requeues other := by
  cases call with
  | get =>
      cases taken : queue.take? with
      | none => simp [Call.run, taken]
      | some handout => simpa [Call.run, taken] using requeues_take taken other
  | fire timer => exact requeues_add _ timer.key other
  | advanceTo instant => exact requeues_advanceTo queue instant other
  | _ => contradiction

theorem shuttingDown_call (moves : call.MovesOn queue) :
    (call.run queue).shuttingDown = queue.shuttingDown :=
  shuttingDown_run (by rintro rfl; contradiction)

theorem outstanding_addAfter_le (queue : WorkQueue κ) (key : κ) (delay : Duration) (other : κ) :
    (queue.addAfter key delay).outstanding other ≤
      queue.outstanding other + if key = other then 1 else 0 := by
  unfold addAfter
  split
  · exact outstanding_add_le queue key other
  · simp [outstanding, timed, List.countP_append, List.countP_singleton, Nat.add_assoc]

@[simp]
theorem requeues_addAfter (queue : WorkQueue κ) (key : κ) (delay : Duration) (other : κ) :
    (queue.addAfter key delay).requeues other = queue.requeues other := by
  unfold addAfter
  split
  · exact requeues_add queue key other
  · rfl

theorem requeues_addRateLimited_of_ne (queue : WorkQueue κ) (apart : key ≠ other) :
    (queue.addRateLimited key).requeues other = queue.requeues other := by
  unfold addRateLimited
  split
  · rfl
  · split
    · rw [requeues_addAfter]
      exact Limiter.failures_count_of_ne queue.limiter apart
    · rfl

theorem requeues_addRateLimited_self (running : queue.shuttingDown = false)
    (delays : queue.canDelay key = true) :
    (queue.addRateLimited key).requeues key = min (queue.requeues key + 1) largestCount := by
  obtain ⟨delay, added⟩ := exists_addRateLimited_eq running delays
  rw [added, requeues_addAfter]
  exact Limiter.failures_count_self queue.limiter key

theorem requeues_addRateLimited_le (queue : WorkQueue κ) (key : κ) :
    (queue.addRateLimited key).requeues key ≤ queue.requeues key + 1 := by
  by_cases counts : queue.shuttingDown = false ∧ queue.canDelay key = true
  · rw [requeues_addRateLimited_self counts.1 counts.2]
    exact min_le_left _ _
  · have unchanged : queue.addRateLimited key = queue := by
      unfold addRateLimited
      split
      · rfl
      · rename_i running
        split
        · rename_i delayed
          exact absurd ⟨by simpa using running, by simp [canDelay, delayed]⟩ counts
        · rfl
    rw [unchanged]
    exact Nat.le_succ _

theorem outstanding_addRateLimited_le (queue : WorkQueue κ) (key other : κ) :
    (queue.addRateLimited key).outstanding other ≤
      queue.outstanding other + if key = other then 1 else 0 := by
  unfold addRateLimited
  split
  · exact Nat.le_add_right _ _
  · split
    · rename_i delay _
      exact outstanding_addAfter_le { queue with limiter := queue.limiter.count key } key delay
        other
    · exact Nat.le_add_right _ _

theorem addRateLimited_of_shuttingDown (stopped : queue.shuttingDown = true) (key : κ) :
    queue.addRateLimited key = queue := by
  simp [addRateLimited, stopped]

variable {limit : Nat} {before after : WorkQueue κ}

/-- A key that is outstanding can still be worked on. -/
theorem allowance_pos (limit : Nat) (outstanding : 0 < queue.outstanding key) :
    0 < queue.allowance limit key := by
  have scaled := Nat.mul_le_mul_left (limit + 1) outstanding
  unfold allowance
  omega

/-- As long as no failure is forgotten, every addition gives one allowance. -/
theorem allowance_le_add (limit : Nat) {additions : Nat}
    (outstanding : after.outstanding key ≤ before.outstanding key + additions)
    (requeues : after.requeues key = before.requeues key) :
    after.allowance limit key ≤ before.allowance limit key + (limit + 1) * additions := by
  have scaled := Nat.mul_le_mul_left (limit + 1) outstanding
  rw [Nat.mul_add] at scaled
  unfold allowance
  rw [requeues]
  omega

theorem allowance_le (limit : Nat) (outstanding : after.outstanding key ≤ before.outstanding key)
    (requeues : after.requeues key = before.requeues key) :
    after.allowance limit key ≤ before.allowance limit key := by
  have nothingAdded : after.outstanding key ≤ before.outstanding key + 0 := outstanding
  exact allowance_le_add limit nothingAdded requeues

/-- To be put back after one more failure costs a key some of its allowance. -/
theorem allowance_lt_of_put_back (outstanding : after.outstanding key ≤ before.outstanding key)
    (positive : 0 < before.outstanding key)
    (requeues : after.requeues key = before.requeues key + 1)
    (again : before.requeues key < limit) :
    after.allowance limit key < before.allowance limit key := by
  have scaled := Nat.mul_le_mul_left (limit + 1) outstanding
  have atLeast := Nat.mul_le_mul_left (limit + 1) positive
  unfold allowance
  rw [requeues]
  omega

/-- To be worked on without being put back costs a key some of its allowance, even if all its
failures are forgotten. -/
theorem allowance_lt_add_of_worked (limit : Nat) {additions : Nat}
    (outstanding : after.outstanding key + 1 ≤ before.outstanding key + additions) :
    after.allowance limit key < before.allowance limit key + (limit + 1) * additions := by
  have scaled := Nat.mul_le_mul_left (limit + 1) outstanding
  rw [Nat.mul_add, Nat.mul_add] at scaled
  unfold allowance
  omega

theorem totalAllowance_eq_sum (keys : Finset κ) (covers : queue.outstandingKeys ⊆ keys) :
    queue.totalAllowance limit = ∑ key ∈ keys, queue.allowance limit key := by
  refine Finset.sum_subset covers fun key _ absent => ?_
  simp [allowance, outstanding_eq_zero_of_notMem absent]

theorem totalAllowance_le (le : ∀ key, after.allowance limit key ≤ before.allowance limit key) :
    after.totalAllowance limit ≤ before.totalAllowance limit := by
  rw [totalAllowance_eq_sum (before.outstandingKeys ∪ after.outstandingKeys)
      Finset.subset_union_left,
    totalAllowance_eq_sum (before.outstandingKeys ∪ after.outstandingKeys)
      Finset.subset_union_right]
  exact Finset.sum_le_sum fun key _ => le key

theorem totalAllowance_lt (le : ∀ key, after.allowance limit key ≤ before.allowance limit key)
    (lt : after.allowance limit key < before.allowance limit key) :
    after.totalAllowance limit < before.totalAllowance limit := by
  -- A key with an allowance is outstanding, so that its term stands in the sum.
  have present : key ∈ before.outstandingKeys := by
    by_contra absent
    simp [allowance, outstanding_eq_zero_of_notMem absent] at lt
  rw [totalAllowance_eq_sum (before.outstandingKeys ∪ after.outstandingKeys)
      Finset.subset_union_left,
    totalAllowance_eq_sum (before.outstandingKeys ∪ after.outstandingKeys)
      Finset.subset_union_right]
  exact Finset.sum_lt_sum (fun key _ => le key) ⟨key, Finset.mem_union_left _ present, lt⟩

end ZoneKeeper.WorkQueue
