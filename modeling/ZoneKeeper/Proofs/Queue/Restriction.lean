import ZoneKeeper.Proofs.Queue.History

/-!
# Queues restricted to some keys

Of the keys of a queue some are its own and all others are foreign.  A second queue may hold what
the first one holds of its own keys, in the same order, and nothing else.  What is done with a key
of its own can then be done with both queues, and what is done with a foreign key with the first one
alone: what the two hold of its own keys stays the same.
-/

namespace ZoneKeeper

namespace WorkQueue

variable {κ : Type} [DecidableEq κ] {own : κ → Bool} {queue shadow rest : WorkQueue κ} {key : κ}

/-- The second queue holds what the first one holds of its own keys. -/
structure Restricts (own : κ → Bool) (queue shadow : WorkQueue κ) : Prop where
  line : shadow.line = queue.line.filter own
  dirty : shadow.dirty = queue.dirty.filter own
  processing : shadow.processing = queue.processing.filter own
  shuttingDown : shadow.shuttingDown = queue.shuttingDown
  backoff : shadow.limiter.backoff = queue.limiter.backoff
  requeues : ∀ key, own key = true → shadow.requeues key = queue.requeues key
  timers : shadow.timers = queue.timers.filter fun timer => own timer.key
  now : shadow.now = queue.now

theorem restricts_withBackoff (own : κ → Bool) (backoff : Backoff) :
    (withBackoff backoff).Restricts own (withBackoff backoff) :=
  ⟨rfl, rfl, rfl, rfl, rfl, fun _ _ => rfl, rfl, rfl⟩

namespace Restricts

omit [DecidableEq κ] in
theorem filter_of_foreign {keys : List κ} (foreign : own key = false) :
    (keys ++ [key]).filter own = keys.filter own := by
  simp [foreign]

theorem filter_ne_of_foreign (keys : List κ) (foreign : own key = false) :
    (keys.filter fun other => other ≠ key).filter own = keys.filter own := by
  rw [List.filter_filter]
  apply List.filter_congr
  intro other _
  by_cases same : other = key
  · simp [same, foreign]
  · simp [same]

theorem contains_filter (keys : List κ) (isOwn : own key = true) :
    (keys.filter own).contains key = keys.contains key := by
  simp [isOwn]

theorem exists_of_queue (own : κ → Bool) (queue : WorkQueue κ) :
    ∃ shadow, queue.Restricts own shadow :=
  ⟨{ queue with
      line := queue.line.filter own
      dirty := queue.dirty.filter own
      processing := queue.processing.filter own
      timers := queue.timers.filter fun timer => own timer.key },
    rfl, rfl, rfl, rfl, rfl, fun _ _ => rfl, rfl, rfl⟩

theorem add (restricts : queue.Restricts own shadow) (isOwn : own key = true) :
    (queue.add key).Restricts own (shadow.add key) := by
  have sameDirty : shadow.dirty.contains key = queue.dirty.contains key := by
    rw [restricts.dirty, contains_filter _ isOwn]
  have sameHeld : shadow.processing.contains key = queue.processing.contains key := by
    rw [restricts.processing, contains_filter _ isOwn]
  have sameGuard : (shadow.shuttingDown || shadow.dirty.contains key) =
      (queue.shuttingDown || queue.dirty.contains key) := by
    rw [restricts.shuttingDown, sameDirty]
  unfold WorkQueue.add
  rw [sameGuard, sameHeld]
  split
  · exact restricts
  · refine { restricts with line := ?_, dirty := ?_ }
    · dsimp only
      split
      · exact restricts.line
      · rw [List.filter_append, restricts.line, List.filter_cons_of_pos isOwn, List.filter_nil]
    · dsimp only
      rw [restricts.dirty, List.filter_cons_of_pos isOwn]

theorem add_of_foreign (restricts : queue.Restricts own shadow) (foreign : own key = false) :
    (queue.add key).Restricts own shadow := by
  have other : ¬ own key = true := by simp [foreign]
  unfold WorkQueue.add
  split
  · exact restricts
  · refine { restricts with line := ?_, dirty := ?_ }
    · dsimp only
      split
      · exact restricts.line
      · rw [filter_of_foreign foreign]
        exact restricts.line
    · rw [List.filter_cons_of_neg other]
      exact restricts.dirty

theorem addAll (restricts : queue.Restricts own shadow) (keys : List κ) :
    (keys.foldl WorkQueue.add queue).Restricts own
      ((keys.filter own).foldl WorkQueue.add shadow) := by
  induction keys generalizing queue shadow with
  | nil => exact restricts
  | cons key keys ih =>
      cases isOwn : own key with
      | true =>
          rw [List.filter_cons_of_pos isOwn]
          exact ih (restricts.add isOwn)
      | false =>
          rw [List.filter_cons_of_neg (by simp [isOwn])]
          exact ih (restricts.add_of_foreign isOwn)

theorem take (restricts : queue.Restricts own shadow) (isOwn : own key = true)
    (taken : queue.take? = some (key, rest)) :
    ∃ shadowRest, shadow.take? = some (key, shadowRest) ∧ rest.Restricts own shadowRest := by
  obtain ⟨line, waiting, rfl⟩ := take?_eq_some_iff.1 taken
  have shadowWaiting : shadow.line = key :: line.filter own := by
    rw [restricts.line, waiting, List.filter_cons_of_pos isOwn]
  refine ⟨_, take?_eq_some_iff.2 ⟨_, shadowWaiting, rfl⟩, ?_⟩
  refine { restricts with line := rfl, dirty := ?_, processing := ?_ }
  · dsimp only
    rw [restricts.dirty, List.filter_comm]
  · dsimp only
    rw [restricts.processing]
    by_cases held : key ∈ queue.processing
    · simp [List.insert, held, isOwn]
    · simp [List.insert, held, isOwn]

theorem take_of_foreign (restricts : queue.Restricts own shadow) (foreign : own key = false)
    (taken : queue.take? = some (key, rest)) : rest.Restricts own shadow := by
  obtain ⟨line, waiting, rfl⟩ := take?_eq_some_iff.1 taken
  have other : ¬ own key = true := by simp [foreign]
  refine { restricts with line := ?_, dirty := ?_, processing := ?_ }
  · rw [restricts.line, waiting, List.filter_cons_of_neg other]
  · dsimp only
    rw [restricts.dirty, filter_ne_of_foreign _ foreign]
  · dsimp only
    rw [restricts.processing]
    by_cases held : key ∈ queue.processing
    · simp [List.insert, held]
    · simp [List.insert, held, foreign]

theorem done (restricts : queue.Restricts own shadow) (isOwn : own key = true) :
    (queue.done key).Restricts own (shadow.done key) := by
  refine { restricts with line := ?_, processing := ?_ }
  · simp only [WorkQueue.done]
    rw [restricts.dirty, contains_filter _ isOwn, restricts.line]
    split
    · rw [List.filter_append, List.filter_cons_of_pos isOwn, List.filter_nil]
    · rfl
  · simp only [WorkQueue.done]
    rw [restricts.processing, List.filter_comm]

theorem done_of_foreign (restricts : queue.Restricts own shadow) (foreign : own key = false) :
    (queue.done key).Restricts own shadow := by
  refine { restricts with line := ?_, processing := ?_ }
  · simp only [WorkQueue.done]
    split
    · rw [filter_of_foreign foreign]
      exact restricts.line
    · exact restricts.line
  · simp only [WorkQueue.done]
    rw [restricts.processing, filter_ne_of_foreign _ foreign]

theorem forget (restricts : queue.Restricts own shadow) (key : κ) :
    (queue.forget key).Restricts own (shadow.forget key) := by
  refine { restricts with requeues := fun other isOwnToo => ?_ }
  by_cases same : key = other
  · subst same
    exact (Limiter.failures_forget_self _ _).trans (Limiter.failures_forget_self _ _).symm
  · exact (Limiter.failures_forget_of_ne _ same).trans
      ((restricts.requeues other isOwnToo).trans (Limiter.failures_forget_of_ne _ same).symm)

omit [DecidableEq κ] in
theorem ne_of_foreign {other : κ} (foreign : own key = false) (isOwn : own other = true) :
    key ≠ other := by
  rintro rfl
  rw [foreign] at isOwn
  contradiction

theorem forget_of_foreign (restricts : queue.Restricts own shadow) (foreign : own key = false) :
    (queue.forget key).Restricts own shadow := by
  refine { restricts with requeues := fun other isOwn => ?_ }
  exact (restricts.requeues other isOwn).trans
    (Limiter.failures_forget_of_ne _ (ne_of_foreign foreign isOwn)).symm

theorem delay_eq (restricts : queue.Restricts own shadow) (isOwn : own key = true) :
    shadow.limiter.delay key = queue.limiter.delay key := by
  have same : shadow.limiter.failures key = queue.limiter.failures key :=
    restricts.requeues key isOwn
  rw [Limiter.delay, Limiter.delay, restricts.backoff, same]

theorem canDelay_eq (restricts : queue.Restricts own shadow) (isOwn : own key = true) :
    shadow.canDelay key = queue.canDelay key := by
  rw [canDelay, canDelay, restricts.shuttingDown, restricts.delay_eq isOwn]

theorem count (restricts : queue.Restricts own shadow) (key : κ) :
    Restricts own { queue with limiter := queue.limiter.count key }
      { shadow with limiter := shadow.limiter.count key } := by
  refine { restricts with requeues := fun other isOwnToo => ?_ }
  have before := restricts.requeues other isOwnToo
  simp only [WorkQueue.requeues] at before ⊢
  by_cases same : key = other
  · subst same
    rw [Limiter.failures_count_self, Limiter.failures_count_self, before]
  · rw [Limiter.failures_count_of_ne _ same, Limiter.failures_count_of_ne _ same, before]

theorem count_of_foreign (restricts : queue.Restricts own shadow) (foreign : own key = false) :
    Restricts own { queue with limiter := queue.limiter.count key } shadow := by
  refine { restricts with requeues := fun other isOwn => ?_ }
  exact (restricts.requeues other isOwn).trans
    (Limiter.failures_count_of_ne _ (ne_of_foreign foreign isOwn)).symm

theorem addAfter (restricts : queue.Restricts own shadow) (isOwn : own key = true)
    (delay : Duration) : (queue.addAfter key delay).Restricts own (shadow.addAfter key delay) := by
  unfold WorkQueue.addAfter
  split
  · exact restricts.add isOwn
  · refine { restricts with timers := ?_ }
    simp [restricts.timers, restricts.now, isOwn]

theorem addAfter_of_foreign (restricts : queue.Restricts own shadow) (foreign : own key = false)
    (delay : Duration) : (queue.addAfter key delay).Restricts own shadow := by
  unfold WorkQueue.addAfter
  split
  · exact restricts.add_of_foreign foreign
  · refine { restricts with timers := ?_ }
    simp [restricts.timers, foreign]

theorem addRateLimited (restricts : queue.Restricts own shadow) (isOwn : own key = true) :
    (queue.addRateLimited key).Restricts own (shadow.addRateLimited key) := by
  unfold WorkQueue.addRateLimited
  by_cases stopped : queue.shuttingDown = true
  · rw [if_pos stopped, if_pos (restricts.shuttingDown.trans stopped)]
    exact restricts
  · rw [if_neg stopped, if_neg (restricts.shuttingDown ▸ stopped), restricts.delay_eq isOwn]
    split
    · exact (restricts.count key).addAfter isOwn _
    · exact restricts

theorem addRateLimited_of_foreign (restricts : queue.Restricts own shadow)
    (foreign : own key = false) : (queue.addRateLimited key).Restricts own shadow := by
  unfold WorkQueue.addRateLimited
  split
  · exact restricts
  · split
    · exact (restricts.count_of_foreign foreign).addAfter_of_foreign foreign _
    · exact restricts

theorem fire (restricts : queue.Restricts own shadow) {timer : Timer κ}
    (isOwn : own timer.key = true) : (queue.fire timer).Restricts own (shadow.fire timer) := by
  have erased : Restricts own { queue with timers := queue.timers.erase timer }
      { shadow with timers := shadow.timers.erase timer } :=
    { restricts with timers := by rw [restricts.timers, List.erase_filter] }
  exact erased.add isOwn

theorem fire_of_foreign (restricts : queue.Restricts own shadow) {timer : Timer κ}
    (foreign : own timer.key = false) : (queue.fire timer).Restricts own shadow := by
  have absent : timer ∉ queue.timers.filter fun timer => own timer.key := by simp [foreign]
  have erased : Restricts own { queue with timers := queue.timers.erase timer } shadow :=
    { restricts with
      timers := by rw [restricts.timers, ← List.erase_filter, List.erase_of_not_mem absent] }
  exact erased.add_of_foreign foreign

theorem dueBy_eq (restricts : queue.Restricts own shadow) (instant : Duration) :
    shadow.dueBy instant = (queue.dueBy instant).filter fun timer => own timer.key := by
  rw [dueBy, dueBy, restricts.timers, List.filter_comm,
    sortBy_filter _ due_trans due_total]

theorem advanceTo (restricts : queue.Restricts own shadow) (instant : Duration) :
    (queue.advanceTo instant).Restricts own (shadow.advanceTo instant) := by
  have fired := restricts.addAll ((queue.dueBy instant).map Timer.key)
  rw [List.filter_map, List.foldl_map, List.foldl_map] at fired
  unfold WorkQueue.advanceTo
  rw [restricts.dueBy_eq]
  refine { fired with timers := ?_, now := rfl }
  dsimp only
  rw [restricts.timers, List.filter_comm]

theorem shutDown (restricts : queue.Restricts own shadow) :
    queue.shutDown.Restricts own shadow.shutDown :=
  { restricts with shuttingDown := rfl }

end Restricts

/-- Two queues hold the same of all keys but one. -/
def SameBeside (key : κ) (before after : WorkQueue κ) : Prop :=
  ∃ shadow, before.Restricts (fun other => other ≠ key) shadow ∧
    after.Restricts (fun other => other ≠ key) shadow

end WorkQueue

end ZoneKeeper
