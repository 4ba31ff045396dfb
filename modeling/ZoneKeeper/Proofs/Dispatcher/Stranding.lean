import ZoneKeeper.Proofs.Dispatcher.Deliveries
import ZoneKeeper.Proofs.Queue.Expectations

/-!
# No deletion is stranded

As long as a deletion is kept under a key, the key is expected: it waits, is handed out, or comes
back after a delay.  Only a key that no pass can do anything with is given up with its tombstone: a
malformed one, or one whose look-up has failed too often.
-/

namespace ZoneKeeper

/-- Whether a failure ends a pass without anything having become of a tombstone of its key, and
without the key coming back. -/
def ReconcileError.abandons : ReconcileError → Bool
  | malformedKey _ | lookupExhausted .. => true
  | _ => false

namespace Dispatcher

/-- A pass for the key, or the capture of a deletion of it. -/
def Moment.concerns (key : ResourceKey) : Moment → Bool
  | .passed other _ _ => other = key
  | .observed event => ((Moment.observed event).captured? key).isSome

/-- The last capture or pass for a key. -/
def lastConcern? (key : ResourceKey) (trace : List Moment) : Option Moment :=
  (trace.filter (Moment.concerns key)).getLast?

theorem lastConcern?_concat (key : ResourceKey) (trace : List Moment) (moment : Moment) :
    lastConcern? key (trace ++ [moment]) =
      if moment.concerns key then some moment else lastConcern? key trace := by
  by_cases concerns : moment.concerns key
  · simp [lastConcern?, concerns]
  · simp [lastConcern?, concerns]

/-- The last pass for the key has abandoned it, and nothing has been captured for it since. -/
def Abandoned (key : ResourceKey) (trace : List Moment) : Prop :=
  ∃ error calls, lastConcern? key trace = some (.passed key (.error error) calls) ∧
    error.abandons = true

theorem Abandoned.concat {key : ResourceKey} {trace : List Moment} {moment : Moment}
    (abandoned : Abandoned key trace) (apart : moment.concerns key = false) :
    Abandoned key (trace ++ [moment]) := by
  obtain ⟨error, calls, last, abandons⟩ := abandoned
  exact ⟨error, calls, by rw [lastConcern?_concat, apart]; exact last, abandons⟩

/-- A pass for the key is the last that concerns it. -/
theorem abandoned_concat_passed_iff {key : ResourceKey} {trace : List Moment}
    {result : Except ReconcileError Outcome} {calls : List HandlerCall} :
    Abandoned key (trace ++ [.passed key result calls]) ↔
      ∃ error, result = .error error ∧ error.abandons = true := by
  have last : lastConcern? key (trace ++ [.passed key result calls]) =
      some (.passed key result calls) := by
    simp [lastConcern?_concat, Moment.concerns]
  rw [Abandoned, last]
  constructor
  · rintro ⟨error, others, same, abandons⟩
    obtain ⟨-, failed, -⟩ := Moment.passed.inj (Option.some.inj same)
    exact ⟨error, failed, abandons⟩
  · rintro ⟨error, rfl, abandons⟩
    exact ⟨error, calls, rfl, abandons⟩

variable {σ : Type} {backend : Backend σ} {key other : ResourceKey} {state : Dispatcher σ}

@[simp]
theorem timers_observe (event : WatchEvent) :
    (state.observe event).queue.timers = state.queue.timers := by
  cases event with
  | applied key => exact WorkQueue.timers_add _ _
  | deleted gone =>
      unfold observe
      dsimp only
      split
      · exact WorkQueue.timers_add _ _
      · rfl

theorem timers_of_acts {before after : Dispatcher σ} (acts : Acts backend key before after) :
    after.queue.timers = before.queue.timers := by
  induction acts with
  | refl => rfl
  | tail _ act ih =>
      rw [← ih]
      cases act with
      | enqueue => exact WorkQueue.timers_add _ _
      | _ => rfl

theorem timers_reconcile (backend : Backend σ) (key : ResourceKey) (state : Dispatcher σ) :
    state.queue.timers ⊆ (state.reconcile backend key).2.queue.timers := by
  rcases acts_or_unanswered backend key state with acts | ⟨address, source, addressed, failed⟩
  · rw [timers_of_acts acts]
    exact List.Subset.refl _
  · rw [reconcile_of_unanswered addressed failed]
    unfold failLookup
    dsimp only
    split
    · dsimp only
      split
      · exact WorkQueue.timers_addRateLimited _ key
      · exact List.Subset.refl _
    · exact List.Subset.refl _

theorem expects_observe (sound : state.queue.IsSound) (event : WatchEvent)
    (expects : state.queue.Expects key) : (state.observe event).queue.Expects key := by
  have observed := observed_observe event state
  exact expects.mono sound (observed.sound sound) (observed.dirty key)
    (fun held => by rwa [observed.processing]) fun _ pending => by rwa [timers_observe]

/-- Before the shutdown, a deletion is captured together with its key. -/
theorem expects_observe_of_captured (sound : state.queue.IsSound)
    (running : state.queue.shuttingDown = false) {event : WatchEvent} {gone : Resource}
    (captured : (Moment.observed event).captured? key = some gone) :
    (state.observe event).queue.Expects key := by
  obtain ⟨told, keyed⟩ := Moment.captured?_eq_some_iff.1 captured
  obtain rfl := Moment.observed.inj told
  rw [((observed_observe (.deleted gone) state).sound sound).expects_iff]
  exact Or.inl (mem_dirty_observe_deleted running keyed).1

theorem running_of_process (running : (state.process backend key).2.queue.shuttingDown = false) :
    state.queue.shuttingDown = false := by
  rw [← (kept_reconcile backend key state).shuttingDown, ← running, process_queue]
  split <;> rfl

theorem expects_process_of_ne (sound : state.queue.IsSound) (held : key ∈ state.queue.processing)
    (apart : other ≠ key) (expects : state.queue.Expects other) :
    (state.process backend key).2.queue.Expects other := by
  have kept := kept_reconcile backend key state
  apply expects.mono sound (isSound_process sound held)
  · rw [process_dirty]
    exact kept.dirty other
  · intro heldToo
    rw [← kept.processing] at heldToo
    rw [process_queue]
    split
    · exact heldToo
    · exact List.mem_filter.2 ⟨heldToo, by simpa using apart⟩
  · rw [process_timers]
    exact fun _ pending => timers_reconcile backend key state pending

/-- A pass that cannot look its object up either leaves its key expected, or abandons it. -/
theorem expects_or_abandons_of_unanswered {address : Address} {source : CacheError}
    (sound : state.queue.IsSound) (held : key ∈ state.queue.processing)
    (running : state.queue.shuttingDown = false) (addressed : key.address = .ok address)
    (unanswered : (state.lookup backend key).1 = .error source) :
    (state.process backend key).2.queue.Expects key ∨
      ∃ error, (state.process backend key).1 = .error error ∧ error.abandons = true := by
  have given := reconcile_of_unanswered addressed unanswered
  have soundAfter : (state.process backend key).2.queue.IsSound := isSound_process sound held
  have sameQueue : (state.lookup backend key).2.queue = state.queue := rfl
  generalize (state.lookup backend key).2 = asked at given sameQueue
  by_cases attempts : asked.queue.requeues key < maxRequeues
  · left
    by_cases delays : asked.queue.canDelay key = true
    · have queueEq : (state.reconcile backend key).2.queue = asked.queue.addRateLimited key := by
        rw [given]
        simp [failLookup, attempts, delays]
      rw [soundAfter.expects_iff, process_dirty, process_timers, queueEq]
      rw [← sameQueue] at running
      rcases WorkQueue.awaited_addRateLimited running delays with dirty | timed
      · exact Or.inl dirty
      · exact Or.inr (Or.inr timed)
    · -- The pass breaks off, and its key stays handed out.
      have passed : (state.reconcile backend key).2 = { asked with isBroken := true } := by
        rw [given]
        simp [failLookup, attempts, delays]
      rw [process_queue, passed, if_pos rfl]
      exact Or.inr (Or.inl (sameQueue ▸ held))
  · right
    refine ⟨.lookupExhausted key.path (asked.queue.requeues key) source, ?_, rfl⟩
    rw [process_result, given]
    simp [failLookup, attempts]

/-- A pass after which a deletion of its key is still kept either leaves the key expected, or
abandons it. -/
theorem expects_or_abandons {gone : Resource} (sound : state.queue.IsSound)
    (held : key ∈ state.queue.processing) (running : state.queue.shuttingDown = false)
    (buried : (state.process backend key).2.tombstones.get? key = some gone) :
    (state.process backend key).2.queue.Expects key ∨
      ∃ error, (state.process backend key).1 = .error error ∧ error.abandons = true := by
  cases addressed : key.address with
  | error fault =>
      refine Or.inr ⟨.malformedKey fault, ?_, rfl⟩
      rw [process_result, reconcile_of_malformed addressed]
  | ok address =>
      cases answered : (state.lookup backend key).1 with
      | error source =>
          exact expects_or_abandons_of_unanswered sound held running addressed answered
      | ok found =>
          obtain ⟨-, -, -, -, -, unburied⟩ := delivered_of_answered addressed answered
          rw [unburied] at buried
          contradiction

/-- In every history before the shutdown, the key of each deletion that is kept waits, is handed
out, or comes back after a delay; unless the last pass for the key since it was captured has
abandoned it. -/
theorem History.expects_or_abandoned {trace : List Moment} (history : History backend trace state)
    (running : state.queue.shuttingDown = false) {gone : Resource}
    (buried : state.tombstones.get? key = some gone) :
    state.queue.Expects key ∨ Abandoned key trace := by
  induction history generalizing gone with
  | start => simp at buried
  | @observe trace state earlier event ih =>
      rw [(observed_observe event state).shuttingDown] at running
      rw [get?_observe] at buried
      cases captured : (Moment.observed event).captured? key with
      | none =>
          rw [captured, Option.none_or] at buried
          exact (ih running buried).imp (expects_observe earlier.isSound event)
            fun abandoned => abandoned.concat (by simp [Moment.concerns, captured])
      | some last => exact Or.inl (expects_observe_of_captured earlier.isSound running captured)
  | ask earlier call allowed unfinished ih =>
      exact (ih (WorkQueue.running_of_call running) buried).imp
        (fun expects => expects.call earlier.isSound call allowed (unfinished key) running) id
  | @pass trace state earlier other held _ calls _ ih =>
      have wasRunning := running_of_process running
      by_cases same : other = key
      · -- What is kept after a pass for the key itself was not delivered by it.
        subst same
        exact (expects_or_abandons earlier.isSound held wasRunning buried).imp id
          abandoned_concat_passed_iff.2
      · rw [process_tombstones,
          (kept_reconcile backend other state).others key (Ne.symm same)] at buried
        exact (ih wasRunning buried).imp (expects_process_of_ne earlier.isSound held (Ne.symm same))
          fun abandoned => abandoned.concat (by simp [Moment.concerns, same])
  | change _ _ ih => exact ih running buried

/-- A zone with a slash in its name is gone, so that its key cannot be read. -/
def unreadable : Resource where
  kind := .zone
  metadata := { name := some "b/c", space := some "team" }
  zoneName := "x"

def removed : Resource where
  kind := .zone
  metadata := { name := some "a", space := some "team" }
  zoneName := "x"

/-- Both are deleted and their keys handed out, while no zone can be looked up. -/
def handedOut : Dispatcher World :=
  let started : Dispatcher World :=
    { queue := .withBackoff .standard, world := { faults := { lookups := [.zone] } } }
  let observed := (started.observe (.deleted unreadable)).observe (.deleted removed)
  let queue := WorkQueue.Call.run observed.queue .get
  { observed with queue := WorkQueue.Call.run queue .get }

def givenUp : Dispatcher World :=
  (handedOut.process World.backend ⟨"team/b/c", .zone⟩).2

/-- A pass has been run for either key. -/
def bothPassed : Dispatcher World :=
  (givenUp.process World.backend ⟨"team/a", .zone⟩).2

/-- Both deletions stay captured.  One of the passes has abandoned its key, and the other has put
its key back. -/
theorem expects_or_abandoned_unreadable :
    ∃ trace, History World.backend trace bothPassed ∧
      bothPassed.tombstones.get? ⟨"team/b/c", .zone⟩ = some unreadable ∧
      ¬ bothPassed.queue.Expects ⟨"team/b/c", .zone⟩ ∧ Abandoned ⟨"team/b/c", .zone⟩ trace ∧
      bothPassed.tombstones.get? ⟨"team/a", .zone⟩ = some removed ∧
      bothPassed.queue.Expects ⟨"team/a", .zone⟩ ∧ ¬ Abandoned ⟨"team/a", .zone⟩ trace := by
  have earlier : History World.backend
      [.observed (.deleted unreadable), .observed (.deleted removed)] handedOut :=
    ((((History.start _ _).observe (.deleted unreadable)).observe (.deleted removed)).ask
      .get trivial nofun).ask .get trivial nofun
  have silent : givenUp.calls = [] := List.isEmpty_iff.1 (by decide +kernel)
  have called : bothPassed.calls = givenUp.calls ++ [] := by
    rw [silent]
    exact List.isEmpty_iff.1 (by decide +kernel)
  have history := (earlier.pass (by decide +kernel) rfl silent).pass (by decide +kernel) rfl called
  have running : bothPassed.queue.shuttingDown = false := by decide +kernel
  have lost : bothPassed.tombstones.get? ⟨"team/b/c", .zone⟩ = some unreadable := by decide +kernel
  have kept : bothPassed.tombstones.get? ⟨"team/a", .zone⟩ = some removed := by decide +kernel
  have line : bothPassed.queue.line = [] := by decide +kernel
  have processing : bothPassed.queue.processing = [] := by decide +kernel
  have timers : bothPassed.queue.timers.map Timer.key = [⟨"team/a", .zone⟩] := by decide +kernel
  have unexpected : ¬ bothPassed.queue.Expects ⟨"team/b/c", .zone⟩ := by
    rw [WorkQueue.Expects, line, processing, ← List.mem_map, timers]
    decide
  have abandoned := (history.expects_or_abandoned running lost).resolve_left unexpected
  refine ⟨_, history, lost, unexpected, abandoned, kept, ?_⟩
  have retried : (match (givenUp.process World.backend ⟨"team/a", .zone⟩).1 with
      | .error error => error.abandons
      | .ok _ => false) = false := by
    decide +kernel
  suffices unabandoned : ¬ Abandoned ⟨"team/a", .zone⟩ _ from
    ⟨(history.expects_or_abandoned running kept).resolve_right unabandoned, unabandoned⟩
  rw [abandoned_concat_passed_iff]
  rintro ⟨error, failed, abandons⟩
  rw [givenUp, failed] at retried
  exact absurd abandons (Bool.eq_false_iff.1 retried)

end Dispatcher

end ZoneKeeper
