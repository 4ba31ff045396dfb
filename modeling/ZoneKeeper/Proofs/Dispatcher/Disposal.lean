import ZoneKeeper.Proofs.Dispatcher.Retries

/-!
# What becomes of the key of a pass

A pass puts its key back or lets it go.  It puts the key back if the object cannot be looked up and
the key has not failed too often: the failure is counted, and the key is added after the delay of
the failures before.  In all other cases the failures of the key are forgotten, and nothing is
added after a delay.  In both cases the key is given back; that there is no delay for it is the only
thing that can break the pass off before that.
-/

namespace ZoneKeeper

/-- For the failures after which a key is put back there is always a delay. -/
theorem Backoff.isSome_delay_standard :
    ∀ failures < 5, (Backoff.standard.delay failures).isSome = true := by
  decide +kernel

namespace WorkQueue

variable {κ : Type} [DecidableEq κ] {queue : WorkQueue κ} {key : κ}

theorem addAfter_of_eq_zero {delay : Duration} (immediate : delay.nanoseconds = 0) :
    queue.addAfter key delay = queue.add key :=
  if_pos (Duration.isZero_iff.2 immediate)

theorem addAfter_of_ne_zero {delay : Duration} (later : delay.nanoseconds ≠ 0) :
    queue.addAfter key delay =
      { queue with timers := queue.timers ++ [⟨queue.now + delay.bounded, key⟩] } :=
  if_neg (mt Duration.isZero_iff.1 later)

theorem mem_dirty_addAfter (running : queue.shuttingDown = false) (delay : Duration) :
    key ∈ (queue.addAfter key delay).dirty ↔ key ∈ queue.dirty ∨ delay.nanoseconds = 0 := by
  by_cases immediate : delay.nanoseconds = 0
  · simp [addAfter_of_eq_zero immediate, mem_dirty_add, running, immediate]
  · simp [addAfter_of_ne_zero immediate, immediate]

/-- A key that is given back waits exactly if it has become dirty in the meantime. -/
theorem mem_line_done_iff (sound : queue.IsSound) (held : key ∈ queue.processing) :
    key ∈ (queue.done key).line ↔ key ∈ queue.dirty := by
  rw [(sound.done held).mem_line_iff]
  simp [done]

end WorkQueue

namespace Dispatcher

/-- The key is to be tried again: the pass reports the attempt, the failures are one more, and one
timer is set for the key, to the instant that lies the delay of the failures before ahead.  If there
is a delay but it is none at all, the key is added at once. -/
structure PutsBack (key : ResourceKey) (result : Except ReconcileError Outcome)
    (before after : WorkQueue ResourceKey) : Prop where
  reported : ∃ source, result = .error (.lookupRetrying key.path (after.requeues key) source)
  counted : after.requeues key = before.requeues key + 1
  within : after.requeues key ≤ 5
  delayed : ∃ delay, before.limiter.backoff.delay (before.requeues key) = some delay ∧
    if delay.nanoseconds = 0 then
      after.timers = before.timers ∧
        ∀ other, other ∈ after.dirty ↔ other ∈ before.dirty ∨ other = key
    else
      after.timers = before.timers ++ [⟨before.now + delay.bounded, key⟩] ∧
        after.dirty = before.dirty

/-- The key is not to be tried again: its failures are forgotten, and nothing is added after a
delay. -/
structure LetsGo (key : ResourceKey) (result : Except ReconcileError Outcome)
    (before after : WorkQueue ResourceKey) : Prop where
  settled : ∀ path attempt source, result ≠ .error (.lookupRetrying path attempt source)
  forgotten : after.requeues key = 0
  undelayed : after.timers = before.timers

variable {σ : Type} {backend : Backend σ} {key : ResourceKey} {state : Dispatcher σ}
  {address : Address} {source : CacheError} {delay : Duration}

theorem exists_delay_of_unbroken (running : state.queue.shuttingDown = false)
    (addressed : key.address = .ok address)
    (unanswered : (state.lookup backend key).1 = .error source)
    (again : state.queue.requeues key < maxRequeues)
    (unbroken : (state.process backend key).2.isBroken = false) :
    ∃ delay, state.queue.limiter.delay key = some delay := by
  have delays := canDelay_of_unbroken addressed unanswered unbroken again
  rwa [WorkQueue.canDelay, running, Bool.false_or, Option.isSome_iff_exists] at delays

/-- As long as a key has not failed too often, it is added again after a delay. -/
theorem queue_reconcile_of_delay (running : state.queue.shuttingDown = false)
    (addressed : key.address = .ok address)
    (unanswered : (state.lookup backend key).1 = .error source)
    (again : state.queue.requeues key < maxRequeues)
    (delayed : state.queue.limiter.delay key = some delay) :
    (state.reconcile backend key).2.queue =
      { state.queue.addAfter key delay with limiter := state.queue.limiter.count key } := by
  have delays : state.queue.canDelay key = true := by simp [WorkQueue.canDelay, delayed]
  rw [queue_reconcile_of_unanswered addressed unanswered, if_pos again, if_pos delays,
    WorkQueue.addRateLimited_of_delay running delayed, WorkQueue.addAfter_count]

theorem putsBack_process (running : state.queue.shuttingDown = false)
    (addressed : key.address = .ok address)
    (unanswered : (state.lookup backend key).1 = .error source)
    (again : state.queue.requeues key < maxRequeues)
    (delayed : state.queue.limiter.delay key = some delay) :
    PutsBack key (state.process backend key).1 state.queue (state.process backend key).2.queue := by
  have queue := queue_reconcile_of_delay running addressed unanswered again delayed
  have counted : (state.process backend key).2.queue.requeues key =
      state.queue.requeues key + 1 := by
    rw [requeues_process, queue]
    refine (Limiter.failures_count_self state.queue.limiter key).trans (min_eq_left ?_)
    exact again.trans_le (by decide)
  refine ⟨⟨source, ?_⟩, counted, counted.trans_le again, delay, delayed, ?_⟩
  · rw [process_result_of_unanswered addressed unanswered, counted, verdict, if_pos again]
  · rw [process_timers, process_dirty, queue]
    split
    · rename_i immediate
      rw [WorkQueue.addAfter_of_eq_zero immediate]
      refine ⟨WorkQueue.timers_add state.queue key, fun other => WorkQueue.mem_dirty_add.trans ?_⟩
      simp [running]
    · rename_i later
      rw [WorkQueue.addAfter_of_ne_zero later]
      exact ⟨rfl, rfl⟩

theorem letsGo_process_of_unanswered (addressed : key.address = .ok address)
    (unanswered : (state.lookup backend key).1 = .error source)
    (spent : ¬ state.queue.requeues key < maxRequeues) :
    LetsGo key (state.process backend key).1 state.queue (state.process backend key).2.queue := by
  have queue := queue_reconcile_of_unanswered addressed unanswered
  rw [if_neg spent] at queue
  refine ⟨fun path attempt source => ?_, ?_, ?_⟩
  · rw [process_result_of_unanswered addressed unanswered, verdict, if_neg spent]
    simp
  · rw [requeues_process, queue, WorkQueue.requeues_forget, if_pos rfl]
  · rw [process_timers, queue]
    rfl

theorem letsGo_process_of_answered (answers : ∀ address source, key.address = .ok address →
      (state.lookup backend key).1 ≠ .error source) :
    LetsGo key (state.process backend key).1 state.queue (state.process backend key).2.queue := by
  refine ⟨fun path attempt source failed => ?_, ?_, ?_⟩
  · apply outcomeOf_process answers
    rw [failed]
    rfl
  · rw [requeues_process_of_answered answers, if_pos rfl]
  · rw [process_timers, queue_reconcile answers]
    exact WorkQueue.timers_addAll state.queue _

/-- There is nothing else that can break a pass off than a missing delay. -/
theorem isBroken_process_iff (running : state.queue.shuttingDown = false)
    (unbroken : state.isBroken = false) :
    (state.process backend key).2.isBroken = true ↔
      (∃ address source, key.address = .ok address ∧
        (state.lookup backend key).1 = .error source) ∧
      state.queue.requeues key < maxRequeues ∧ state.queue.limiter.delay key = none := by
  rw [process_isBroken]
  rcases answers_or_unanswered backend key state with
    answers | ⟨address, source, addressed, unanswered⟩
  · rw [isBroken_of_acts (acts_reconcile answers), unbroken]
    constructor
    · exact nofun
    · rintro ⟨⟨address, source, addressed, unanswered⟩, -⟩
      exact absurd unanswered (answers address source addressed)
  · rw [reconcile_of_unanswered addressed unanswered, isBroken_failLookup, queue_lookup]
    have wasUnbroken : (state.lookup backend key).2.isBroken = false := unbroken
    simp [wasUnbroken, WorkQueue.canDelay, running, addressed, unanswered]

theorem unbroken_of_standard (running : state.queue.shuttingDown = false)
    (unbroken : state.isBroken = false) (standard : state.queue.limiter.backoff = .standard) :
    (state.process backend key).2.isBroken = false := by
  rw [Bool.eq_false_iff, ne_eq, isBroken_process_iff running unbroken]
  rintro ⟨-, again, undelayed⟩
  have delayed := Backoff.isSome_delay_standard (state.queue.requeues key) again
  rw [Limiter.delay, standard] at undelayed
  rw [WorkQueue.requeues, undelayed] at delayed
  contradiction

/-- What makes a key wait again once it is given back: it was added since it was handed out, a name
was handed over to it, or it is put back after no delay at all. -/
def IsReadded (backend : Backend σ) (key : ResourceKey) (state : Dispatcher σ) : Prop :=
  key ∈ state.queue.dirty ∨ key ∈ state.handedOver backend key ∨
    outcomeOf (state.process backend key).1 = .retrying ∧
      ∃ delay, state.queue.limiter.delay key = some delay ∧ delay.nanoseconds = 0

theorem mem_dirty_process_self_iff (running : state.queue.shuttingDown = false)
    (unbroken : (state.process backend key).2.isBroken = false) :
    key ∈ (state.process backend key).2.queue.dirty ↔ IsReadded backend key state := by
  unfold IsReadded
  rw [process_dirty]
  rcases answers_or_unanswered backend key state with
    answers | ⟨address, source, addressed, unanswered⟩
  · rw [queue_reconcile answers]
    simp only [outcomeOf_process answers, false_and, or_false]
    refine WorkQueue.mem_dirty_addAll.trans ?_
    simp [running]
  · rw [handedOver_of_unanswered addressed unanswered,
      process_result_of_unanswered addressed unanswered, outcomeOf_verdict]
    by_cases again : state.queue.requeues key < maxRequeues
    · obtain ⟨delay, delayed⟩ :=
        exists_delay_of_unbroken running addressed unanswered again unbroken
      rw [queue_reconcile_of_delay running addressed unanswered again delayed]
      simp [WorkQueue.mem_dirty_addAfter running, again, delayed]
    · rw [queue_reconcile_of_unanswered addressed unanswered, if_neg again]
      simp [again, WorkQueue.forget]

/-- However a pass ends, it gives its key back, which waits again exactly if it was added in the
meantime, and lets the failures of all other keys stand.  If it reports that it could not look its
object up and the key is to be tried again, it has put the key back; in all other cases it has let
the key go.  It only breaks off, with its key still handed out, if the key is to be tried again and
there is no delay for it; by the standard backoff there always is one. -/
theorem disposes_of_key {result : Except ReconcileError Outcome} {after : Dispatcher σ}
    (sound : state.queue.IsSound) (held : key ∈ state.queue.processing)
    (running : state.queue.shuttingDown = false) (unbroken : state.isBroken = false)
    (passed : state.process backend key = (result, after)) :
    (after.isBroken = true ↔
      (∃ address source, key.address = .ok address ∧
        (state.lookup backend key).1 = .error source) ∧
      state.queue.requeues key < 5 ∧
      state.queue.limiter.backoff.delay (state.queue.requeues key) = none) ∧
    (state.queue.limiter.backoff = .standard → after.isBroken = false) ∧
    (after.isBroken = false →
      key ∉ after.queue.processing ∧
      (key ∈ after.queue.line ↔ IsReadded backend key state) ∧
      (∀ other, other ≠ key → after.queue.requeues other = state.queue.requeues other) ∧
      if outcomeOf result = .retrying then PutsBack key result state.queue after.queue
      else LetsGo key result state.queue after.queue) := by
  obtain rfl : (state.process backend key).1 = result := congrArg Prod.fst passed
  obtain rfl : (state.process backend key).2 = after := congrArg Prod.snd passed
  refine ⟨isBroken_process_iff running unbroken, unbroken_of_standard running unbroken,
    fun stillUnbroken => ⟨?_, ?_, ?_, ?_⟩⟩
  · rw [process_queue_of_unbroken stillUnbroken]
    simp [WorkQueue.done]
  · have kept := kept_reconcile backend key state
    rw [← mem_dirty_process_self_iff running stillUnbroken, process_dirty,
      process_queue_of_unbroken stillUnbroken]
    exact WorkQueue.mem_line_done_iff (kept.sound sound) (kept.processing ▸ held)
  · exact fun other apart => requeues_process_of_ne apart.symm
  · rcases answers_or_unanswered backend key state with
      answers | ⟨address, source, addressed, unanswered⟩
    · rw [if_neg (outcomeOf_process answers)]
      exact letsGo_process_of_answered answers
    · have verdict := process_result_of_unanswered addressed unanswered
      by_cases again : state.queue.requeues key < maxRequeues
      · obtain ⟨delay, delayed⟩ :=
          exists_delay_of_unbroken running addressed unanswered again stillUnbroken
        rw [if_pos (verdict ▸ (outcomeOf_verdict key _ source).2 again)]
        exact putsBack_process running addressed unanswered again delayed
      · rw [if_neg (verdict ▸ mt (outcomeOf_verdict key _ source).1 again)]
        exact letsGo_process_of_unanswered addressed unanswered again

/-- No zone can be looked up, and four passes for a key have failed already. -/
def unseen : Dispatcher World :=
  let observed := blinded.observe (.applied ⟨"team/a", .zone⟩)
  let queue := WorkQueue.Call.run observed.queue .get
  { observed with
    queue := { queue with limiter := (Limiter.count · ⟨"team/a", .zone⟩)^[4] queue.limiter } }

/-- The key is put back for the last time, and waits for its timer. -/
theorem disposes_of_key_unseen :
    unseen.queue.requeues ⟨"team/a", .zone⟩ = 4 ∧
      PutsBack ⟨"team/a", .zone⟩ (unseen.process World.backend ⟨"team/a", .zone⟩).1 unseen.queue
        (unseen.process World.backend ⟨"team/a", .zone⟩).2.queue ∧
      (unseen.process World.backend ⟨"team/a", .zone⟩).2.queue.timers =
        [⟨unseen.queue.now + .ofMillis 80, ⟨"team/a", .zone⟩⟩] ∧
      ⟨"team/a", .zone⟩ ∉ (unseen.process World.backend ⟨"team/a", .zone⟩).2.queue.processing ∧
      ⟨"team/a", .zone⟩ ∉ (unseen.process World.backend ⟨"team/a", .zone⟩).2.queue.line := by
  have sound : unseen.queue.IsSound := by
    have fresh : blinded.queue.IsSound := WorkQueue.isSound_withBackoff .standard
    have observed := (observed_observe (.applied ⟨"team/a", .zone⟩) blinded).sound fresh
    exact (observed.call .get trivial).of_agrees ⟨rfl, rfl, rfl, rfl⟩
  have held : ⟨"team/a", .zone⟩ ∈ unseen.queue.processing := by decide +kernel
  have passed : unseen.process World.backend ⟨"team/a", .zone⟩ = (_, _) := rfl
  obtain ⟨-, goesOn, disposed⟩ := disposes_of_key sound held rfl rfl passed
  obtain ⟨free, -, -, disposed⟩ := disposed (goesOn rfl)
  rw [if_pos (by decide +kernel)] at disposed
  exact ⟨by decide +kernel, disposed, by decide +kernel, free, by decide +kernel⟩

end Dispatcher

end ZoneKeeper
