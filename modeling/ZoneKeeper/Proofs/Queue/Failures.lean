import ZoneKeeper.Proofs.Queue.Allowance
import ZoneKeeper.Proofs.Queue.Order
import Mathlib.Data.List.DropRight

/-!
# Counting the failures of a key

A queue counts the failures of each key that are reported to it before its shutdown, and forgets
them on demand.  The calls that were made of a queue tell the count: whatever else is asked of it,
whatever becomes of other keys, and whenever delayed additions fire, it is the number of the reports
since the key was last forgotten.
-/

namespace ZoneKeeper.WorkQueue

deriving instance DecidableEq for Call

variable {κ : Type} [DecidableEq κ] {queue : WorkQueue κ} {calls : List (Call κ)} {call : Call κ}
  {key : κ} {backoff : Backoff}

/-- A key is added after its failures only if there is a delay for them: else the call breaks off,
and leaves the queue as it is. -/
def Call.Returns (queue : WorkQueue κ) : Call κ → Prop
  | .addRateLimited key => queue.canDelay key = true
  | _ => True

instance (queue : WorkQueue κ) : (call : Call κ) → Decidable (call.Returns queue)
  | .addRateLimited key => inferInstanceAs (Decidable (queue.canDelay key = true))
  | .add _ | .get | .done _ | .addAfter _ _ | .forget _ | .shutDown | .fire _ | .advanceTo _ =>
      isTrue trivial

/-- Every call returns. -/
def Returns (queue : WorkQueue κ) : List (Call κ) → Prop
  | [] => True
  | call :: calls => call.Returns queue ∧ (call.run queue).Returns calls

theorem returns_concat_iff : queue.Returns (calls ++ [call]) ↔
    queue.Returns calls ∧ call.Returns (queue.runAll calls) := by
  induction calls generalizing queue with
  | nil => simp [Returns, runAll]
  | cons first calls ih =>
      rw [List.cons_append, Returns, Returns, ih, and_assoc]
      rfl

theorem run_of_not_returns (broken : ¬ call.Returns queue) : call.run queue = queue := by
  cases call with
  | addRateLimited key =>
      simp only [Call.Returns, canDelay, Bool.or_eq_true, not_or, Bool.not_eq_true,
        Option.isSome_eq_false_iff, Option.isNone_iff_eq_none] at broken
      simp [Call.run, addRateLimited, broken.1, broken.2]
  | _ => exact absurd trivial broken

/-- Those of some calls that return. -/
def returned (queue : WorkQueue κ) : List (Call κ) → List (Call κ)
  | [] => []
  | call :: calls =>
      if call.Returns queue then call :: (call.run queue).returned calls
      else queue.returned calls

theorem returns_returned (queue : WorkQueue κ) (calls : List (Call κ)) :
    queue.Returns (queue.returned calls) := by
  induction calls generalizing queue with
  | nil => trivial
  | cons call calls ih =>
      rw [returned]
      split
      · rename_i returns
        exact ⟨returns, ih (call.run queue)⟩
      · exact ih queue

theorem returned_sublist (queue : WorkQueue κ) (calls : List (Call κ)) :
    (queue.returned calls).Sublist calls := by
  induction calls generalizing queue with
  | nil => exact .slnil
  | cons call calls ih =>
      rw [returned]
      split
      · exact (ih (call.run queue)).cons_cons call
      · exact (ih queue).cons call

/-- The calls that break off might as well not have been made. -/
theorem runAll_returned (queue : WorkQueue κ) (calls : List (Call κ)) :
    queue.runAll (queue.returned calls) = queue.runAll calls := by
  induction calls generalizing queue with
  | nil => rfl
  | cons call calls ih =>
      rw [returned]
      split
      · exact ih (call.run queue)
      · rename_i broken
        rw [ih queue, runAll, runAll, List.foldl_cons, run_of_not_returns broken]

theorem answers_returned (queue : WorkQueue κ) (calls : List (Call κ)) :
    queue.answers (queue.returned calls) = queue.answers calls := by
  induction calls generalizing queue with
  | nil => rfl
  | cons call calls ih =>
      rw [returned]
      split
      · rw [answers, answers, ih (call.run queue)]
      · rename_i broken
        have unasked : call ≠ .get := by
          rintro rfl
          exact broken trivial
        rw [ih queue, answers_of_ne_get unasked, run_of_not_returns broken]

@[simp]
theorem limiter_add (queue : WorkQueue κ) (key : κ) : (queue.add key).limiter = queue.limiter := by
  unfold add
  split <;> rfl

@[simp]
theorem limiter_addAll (queue : WorkQueue κ) (keys : List κ) :
    (keys.foldl WorkQueue.add queue).limiter = queue.limiter := by
  induction keys generalizing queue with
  | nil => rfl
  | cons key keys ih => rw [List.foldl_cons, ih, limiter_add]

@[simp]
theorem limiter_addAfter (queue : WorkQueue κ) (key : κ) (delay : Duration) :
    (queue.addAfter key delay).limiter = queue.limiter := by
  unfold addAfter
  split
  · exact limiter_add queue key
  · rfl

/-- Only reports of failures and forgetting change the counts. -/
theorem limiter_run (counts : ∀ key, call ≠ .addRateLimited key)
    (forgets : ∀ key, call ≠ .forget key) : (call.run queue).limiter = queue.limiter := by
  cases call with
  | add key => exact limiter_add queue key
  | get =>
      obtain ⟨line, dirty, processing, moved⟩ := exists_run_get_eq queue
      rw [moved]
  | done | shutDown => rfl
  | addRateLimited key => exact absurd rfl (counts key)
  | addAfter key delay => exact limiter_addAfter queue key delay
  | forget key => exact absurd rfl (forgets key)
  | fire timer => exact limiter_add _ timer.key
  | advanceTo instant =>
      have fired := limiter_addAll queue ((queue.dueBy instant).map Timer.key)
      rw [List.foldl_map] at fired
      exact fired

theorem limiter_addRateLimited (running : queue.shuttingDown = false)
    (delays : queue.canDelay key = true) :
    (queue.addRateLimited key).limiter = queue.limiter.count key := by
  obtain ⟨delay, added⟩ := exists_addRateLimited_eq running delays
  rw [added, limiter_addAfter]

/-- The backoff stays the same. -/
theorem backoff_run (queue : WorkQueue κ) (call : Call κ) :
    (call.run queue).limiter.backoff = queue.limiter.backoff := by
  cases call with
  | addRateLimited key =>
      by_cases returns : Call.Returns queue (.addRateLimited key)
      · cases running : queue.shuttingDown with
        | true => rw [Call.run, addRateLimited_of_shuttingDown running]
        | false =>
            rw [Call.run, limiter_addRateLimited running returns]
            rfl
      · rw [run_of_not_returns returns]
  | forget key => rfl
  | _ => rw [limiter_run (by simp) (by simp)]

theorem backoff_runAll (queue : WorkQueue κ) (calls : List (Call κ)) :
    (queue.runAll calls).limiter.backoff = queue.limiter.backoff := by
  induction calls generalizing queue with
  | nil => rfl
  | cons call calls ih => exact (ih (call.run queue)).trans (backoff_run queue call)

theorem shuttingDown_runAll_iff : ((withBackoff backoff).runAll calls).shuttingDown = true ↔
    .shutDown ∈ calls := by
  induction calls using List.reverseRecOn with
  | nil => simp [runAll, withBackoff]
  | append_singleton calls call ih =>
      rw [runAll_concat, List.mem_append, List.mem_singleton, ← ih]
      by_cases stops : call = .shutDown
      · subst stops
        simp [Call.run, shutDown]
      · rw [shuttingDown_run stops]
        simp [Ne.symm stops]

theorem shuttingDown_runAll_eq_false (backoff : Backoff) (running : .shutDown ∉ calls) :
    ((withBackoff backoff).runAll calls).shuttingDown = false :=
  Bool.eq_false_iff.2 (mt shuttingDown_runAll_iff.1 running)

/-- How often a failure of a key was reported before the shutdown, since the key was last
forgotten. -/
def reported (key : κ) (calls : List (Call κ)) : Nat :=
  ((calls.takeWhile (· ≠ .shutDown)).drop (calls.rdropWhile (· ≠ .forget key)).length).count
    (.addRateLimited key)

theorem takeWhile_eq_self_of_running (running : .shutDown ∉ calls) :
    calls.takeWhile (· ≠ .shutDown) = calls := by
  rw [List.takeWhile_eq_self_iff]
  intro call present
  simp only [decide_eq_true_eq]
  rintro rfl
  exact running present

/-- The calls before the shutdown, after one more call. -/
theorem takeWhile_concat (calls : List (Call κ)) (call : Call κ) :
    (calls ++ [call]).takeWhile (· ≠ .shutDown) =
      if .shutDown ∉ calls ∧ call ≠ .shutDown then calls ++ [call]
      else calls.takeWhile (· ≠ .shutDown) := by
  have running_iff : (calls.takeWhile (· ≠ .shutDown)).length = calls.length ↔
      .shutDown ∉ calls := by
    constructor
    · intro whole stopped
      rw [← (List.takeWhile_prefix _).eq_of_length whole] at stopped
      simpa using List.mem_takeWhile_imp stopped
    · intro running
      rw [takeWhile_eq_self_of_running running]
  rw [List.takeWhile_append]
  by_cases running : .shutDown ∉ calls
  · rw [if_pos (running_iff.2 running), takeWhile_eq_self_of_running running]
    by_cases stops : call = .shutDown
    · simp [stops]
    · simp [stops, running]
  · rw [if_neg (mt running_iff.1 running), if_neg (by simp [running])]

theorem reported_concat (key : κ) (calls : List (Call κ)) (call : Call κ) :
    reported key (calls ++ [call]) =
      if call = .forget key then 0
      else if call = .addRateLimited key ∧ .shutDown ∉ calls then reported key calls + 1
      else reported key calls := by
  unfold reported
  rw [List.rdropWhile_concat]
  by_cases forgets : call = .forget key
  · have short := (List.takeWhile_prefix (· ≠ .shutDown) (l := calls ++ [call])).length_le
    rw [if_neg (by simpa using forgets), if_pos forgets, List.drop_eq_nil_of_le short]
    rfl
  · have inside : (calls.rdropWhile (· ≠ .forget key)).length ≤ calls.length :=
      (List.rdropWhile_prefix _ _).length_le
    rw [if_pos (by simpa using forgets), if_neg forgets, takeWhile_concat]
    by_cases running : .shutDown ∉ calls ∧ call ≠ .shutDown
    · rw [if_pos running, takeWhile_eq_self_of_running running.1,
        List.drop_append_of_le_length inside, List.count_append, List.count_singleton]
      by_cases counts : call = .addRateLimited key
      · simp [counts, running.1]
      · simp [counts]
    · have uncounted : ¬ (call = .addRateLimited key ∧ .shutDown ∉ calls) := by
        rintro ⟨rfl, isOpen⟩
        exact running ⟨isOpen, nofun⟩
      rw [if_neg running, if_neg uncounted]

/-- Whether a call bears on the count of a key. -/
def Call.concerns (key : κ) : Call κ → Bool
  | .addRateLimited other | .forget other => other = key
  | .shutDown => true
  | _ => false

theorem reported_concat_of_unconcerned (unconcerned : ¬ call.concerns key = true) :
    reported key (calls ++ [call]) = reported key calls := by
  rw [reported_concat, if_neg, if_neg]
  · rintro ⟨rfl, -⟩
    simp [Call.concerns] at unconcerned
  · rintro rfl
    simp [Call.concerns] at unconcerned

/-- Only reports and forgetting of the key itself bear on its count, and the shutdown. -/
theorem reported_filter (key : κ) (calls : List (Call κ)) :
    reported key (calls.filter (Call.concerns key)) = reported key calls := by
  induction calls using List.reverseRecOn with
  | nil => rfl
  | append_singleton calls call ih =>
      rw [List.filter_append, List.filter_singleton]
      cases concerned : call.concerns key with
      | true =>
          have stopped_iff : .shutDown ∈ calls.filter (Call.concerns key) ↔ .shutDown ∈ calls := by
            simp [List.mem_filter, Call.concerns]
          simp only [cond_true, reported_concat, ih, stopped_iff]
      | false =>
          rw [cond_false, List.append_nil, ih, reported_concat_of_unconcerned (by simp [concerned])]

/-- A queue counts the reported failures of every key, and stops counting at the largest count. -/
theorem requeues_runAll (returns : (withBackoff backoff).Returns calls) (key : κ) :
    ((withBackoff backoff).runAll calls).requeues key = min (reported key calls) largestCount := by
  -- From the last call back, as the count is of what comes after the last forgetting.
  induction calls using List.reverseRecOn with
  | nil => rfl
  | append_singleton calls call ih =>
      obtain ⟨earlier, returnsNow⟩ := returns_concat_iff.1 returns
      have counted := ih earlier
      rw [runAll_concat, reported_concat]
      cases call with
      | addRateLimited other =>
          rw [if_neg (by simp), Call.run]
          by_cases stopped : .shutDown ∈ calls
          · rw [addRateLimited_of_shuttingDown (shuttingDown_runAll_iff.2 stopped),
              if_neg (by simp [stopped]), counted]
          · have running := shuttingDown_runAll_eq_false backoff stopped
            by_cases same : other = key
            · subst same
              rw [requeues_addRateLimited_self running returnsNow, counted,
                if_pos ⟨rfl, stopped⟩]
              omega
            · rw [requeues_addRateLimited_of_ne _ same, counted, if_neg (by simp [same])]
      | forget other =>
          rw [Call.run, requeues_forget, counted]
          by_cases same : other = key
          · simp [same]
          · simp [same]
      | _ =>
          rw [requeues, limiter_run (by simp) (by simp), ← requeues, counted, if_neg (by simp),
            if_neg (by simp)]

theorem delay_runAll (returns : (withBackoff backoff).Returns calls) (key : κ) :
    ((withBackoff backoff).runAll calls).limiter.delay key =
      backoff.delay (min (reported key calls) largestCount) := by
  rw [Limiter.delay, backoff_runAll]
  exact congrArg backoff.delay (requeues_runAll returns key)

end ZoneKeeper.WorkQueue
