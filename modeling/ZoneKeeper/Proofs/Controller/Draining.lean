import ZoneKeeper.Proofs.Controller.Runs
import ZoneKeeper.Proofs.Dispatcher.Queueing

/-!
# Draining the queue

Once the controller has taken notice that it is to stop, nothing is added any more, whoever asks for
it.  It runs one pass for each key that waits, and then ends.
-/

namespace ZoneKeeper

namespace WorkQueue

variable {κ : Type} [DecidableEq κ] {queue : WorkQueue κ} {key : κ}

theorem line_take {rest : WorkQueue κ} (taken : queue.take? = some (key, rest)) :
    queue.line = key :: rest.line ∧ key ∉ rest.dirty := by
  obtain ⟨line, waiting, rfl⟩ := take?_eq_some_iff.1 taken
  exact ⟨waiting, by simp⟩

/-- A key that is clean is gone when it is done. -/
theorem line_done_of_clean (clean : key ∉ queue.dirty) : (queue.done key).line = queue.line := by
  simp [done, clean]

end WorkQueue

namespace Dispatcher

variable {σ : Type} {backend : Backend σ} {key : ResourceKey} {state after : Dispatcher σ}

theorem agrees_reconcile_of_shuttingDown (backend : Backend σ) (key : ResourceKey)
    (stopped : state.queue.shuttingDown = true) :
    (state.reconcile backend key).2.queue.Agrees state.queue := by
  have forgets (queue : WorkQueue ResourceKey) : (queue.forget key).Agrees queue :=
    ⟨rfl, rfl, rfl, rfl⟩
  rcases answers_or_unanswered backend key state with
    answers | ⟨address, source, addressed, unanswered⟩
  · rw [queue_reconcile answers, WorkQueue.addAll_of_shuttingDown stopped]
    exact forgets state.queue
  · rw [queue_reconcile_of_unanswered addressed unanswered,
      WorkQueue.addRateLimited_of_shuttingDown stopped]
    split
    · split <;> exact .refl _
    · exact forgets state.queue

/-- After the shutdown, no pass breaks off: where nothing is added, no delay is asked for. -/
theorem isBroken_reconcile_of_shuttingDown (backend : Backend σ) (key : ResourceKey)
    (stopped : state.queue.shuttingDown = true) :
    (state.reconcile backend key).2.isBroken = state.isBroken := by
  rcases acts_or_unanswered backend key state with acts | ⟨address, source, addressed, failed⟩
  · exact isBroken_of_acts acts
  · rw [reconcile_of_unanswered addressed failed]
    unfold failLookup
    dsimp only
    rw [queue_lookup]
    split
    · simp only [WorkQueue.canDelay, stopped, Bool.true_or, if_true]
      rfl
    · rfl

theorem buried_step {result : Except ReconcileError Outcome}
    (stepped : state.step backend = some (key, result, after)) (other : ResourceKey)
    (gone : Resource) (buried : after.tombstones.get? other = some gone) :
    state.tombstones.get? other = some gone := by
  obtain ⟨rest, passed, -, rfl, -, tombstones, -⟩ := step_eq_some stepped
  rw [tombstones] at buried
  exact (kept_reconcile backend key { state with queue := rest }).buried other gone buried

/-- After the shutdown, a step works off the key at the head of the line, and nothing else
happens to the line. -/
theorem line_step_of_shuttingDown {result : Except ReconcileError Outcome}
    (stopped : state.queue.shuttingDown = true) (unbroken : state.isBroken = false)
    (stepped : state.step backend = some (key, result, after)) :
    state.queue.line = key :: after.queue.line ∧ after.queue.shuttingDown = true ∧
      after.isBroken = false := by
  obtain ⟨rest, passed, taken, rfl, queue, -, -, -, broken⟩ := step_eq_some stepped
  obtain ⟨waiting, clean⟩ := WorkQueue.line_take taken
  have stoppedNow : { state with queue := rest }.queue.shuttingDown = true :=
    (WorkQueue.shuttingDown_take taken).trans stopped
  have agrees := agrees_reconcile_of_shuttingDown backend key stoppedNow
  have whole := isBroken_reconcile_of_shuttingDown backend key stoppedNow
  rw [whole.trans unbroken] at queue broken
  rw [← agrees.dirty] at clean
  rw [queue, if_neg Bool.false_ne_true]
  refine ⟨?_, agrees.shuttingDown.trans stoppedNow, broken⟩
  rw [WorkQueue.line_done_of_clean clean, agrees.line, waiting]

end Dispatcher

namespace Controller

variable {σ : Type} {backend : Backend σ} {start state next drained final : Controller σ}
  {moments trace later : List Moment}

theorem Run.unbroken (new : start.IsNew) (run : Run backend start trace state)
    (whole : state.phase ≠ .broken) : state.dispatcher.isBroken = false := by
  induction run with
  | start => exact new.unbroken
  | outside _ outside ih =>
      have spares := outside.spares
      rw [spares.isBroken]
      exact ih (spares.phase ▸ whole)
  | @turn _ _ state _ _ turn ih =>
      have before := ih turn.phase_ne_broken
      cases turn.effect with
      | moves pauses | looks pauses | stops pauses | returns pauses =>
          exact pauses.isBroken.trans before
      | observes _ dispatcher =>
          rw [dispatcher, (Dispatcher.observed_observe _ state.dispatcher).isBroken]
          exact before
      | passes _ _ _ breaks => exact Bool.eq_false_iff.2 fun broken => whole (breaks broken)

/-- What holds from the moment at which the controller has begun to drain the queue. -/
structure Drains (begun : Controller σ) (trace : List Moment) (state : Controller σ) : Prop where
  shuttingDown : state.dispatcher.queue.shuttingDown = true
  unbroken : state.dispatcher.isBroken = false
  line : passedKeys trace ++ state.dispatcher.queue.line = begun.dispatcher.queue.line
  unobserved : observedEvents trace = []
  buried : ∀ key gone, state.dispatcher.tombstones.get? key = some gone →
    begun.dispatcher.tombstones.get? key = some gone
  progress : state.phase = .draining ∧ trace.countP Moment.isDeed = (passedKeys trace).length ∨
    state.phase = .finished ∧ state.dispatcher.queue.line = [] ∧
      trace.countP Moment.isDeed = (passedKeys trace).length + 1

theorem Drains.outside {begun : Controller σ} (drains : Drains begun trace state)
    (spares : Spares state moments next) : Drains begun (trace ++ moments) next := by
  obtain ⟨keys, agrees⟩ := spares.queue
  rw [WorkQueue.addAll_of_shuttingDown drains.shuttingDown] at agrees
  obtain ⟨unobserved, unpassed, idle⟩ := spares.quiet
  exact
    { shuttingDown := agrees.shuttingDown.trans drains.shuttingDown
      unbroken := spares.isBroken.trans drains.unbroken
      line := by rw [passedKeys_append, unpassed, agrees.line, List.append_nil, drains.line]
      unobserved := by rw [observedEvents_append, unobserved, drains.unobserved, List.append_nil]
      buried := spares.tombstones ▸ drains.buried
      progress := by
        rw [passedKeys_append, unpassed, List.append_nil, List.countP_append, idle, spares.phase,
          agrees.line]
        exact drains.progress }

theorem Drains.turn {begun : Controller σ} (drains : Drains begun trace state)
    (turn : Turn backend state moments next) : Drains begun (trace ++ moments) next := by
  obtain ⟨phase, counted⟩ := drains.progress.resolve_right fun ⟨finished, _, _⟩ => by
    have unfinished := turn.unfinished
    simp [isFinished, finished] at unfinished
  cases turn.effect with
  | moves _ _ active => exact absurd phase active
  | looks _ _ checking => simp [phase] at checking
  | observes _ _ awaits => simp [phase] at awaits
  | stops _ _ active => exact absurd phase active
  | @passes key result _ stepped goesOn =>
      obtain ⟨waiting, stopped, unbroken⟩ := Dispatcher.line_step_of_shuttingDown
        drains.shuttingDown drains.unbroken stepped
      obtain ⟨phaseEq, -⟩ := goesOn unbroken
      exact
        { shuttingDown := stopped
          unbroken := unbroken
          line := by
            rw [← drains.line, waiting, passedKeys_append, List.append_assoc]
            rfl
          unobserved := by
            rw [observedEvents_append, drains.unobserved]
            rfl
          buried := fun other gone buried => drains.buried other gone
            (Dispatcher.buried_step stepped other gone buried)
          progress := by
            refine Or.inl ⟨phaseEq.trans phase, ?_⟩
            rw [List.countP_append, passedKeys_append, List.length_append, counted]
            rfl }
  | returns pauses shuttingDown _ empty finished =>
      exact
        { shuttingDown := shuttingDown.trans drains.shuttingDown
          unbroken := pauses.isBroken.trans drains.unbroken
          line := by
            rw [← drains.line, pauses.line, passedKeys_append]
            simp [passedKeys, Moment.passed?]
          unobserved := by
            rw [observedEvents_append, drains.unobserved]
            rfl
          buried := pauses.tombstones ▸ drains.buried
          progress := by
            refine Or.inr ⟨finished, pauses.line.trans empty, ?_⟩
            rw [List.countP_append, passedKeys_append, List.length_append, counted]
            rfl }

theorem drains_of_stopping (unbroken : state.dispatcher.isBroken = false)
    (stops : Turn backend state [.stopping] drained) : Drains state [] drained := by
  generalize told : [Moment.stopping] = moments at stops
  cases stops.effect with
  | stops pauses _ _ drains shuttingDown =>
      exact
        { shuttingDown := shuttingDown
          unbroken := pauses.isBroken.trans unbroken
          line := pauses.line
          unobserved := rfl
          buried := pauses.tombstones ▸ fun _ _ buried => buried
          progress := Or.inl ⟨drains, rfl⟩ }
  | _ => cases told

theorem Run.drains (drains : Drains state [] drained) (run : Run backend drained later final) :
    Drains state later final := by
  induction run with
  | start => exact drains
  | outside _ outside ih => exact ih.outside outside.spares
  | turn _ turn ih => exact ih.turn turn

theorem exists_turn_of_draining (draining : state.phase = .draining)
    (stopped : state.dispatcher.queue.shuttingDown = true) :
    ∃ moments next, Turn backend state moments next := by
  have served : ∃ next, state.serveKey backend = some next := by
    unfold serveKey
    split
    · exact ⟨_, rfl⟩
    · rw [if_pos stopped]
      exact ⟨_, rfl⟩
  obtain ⟨next, ready⟩ := served
  exact ⟨_, next, .serveKey (Or.inr (Or.inr draining)) ready⟩

/-- From the moment at which the controller takes notice that it is to stop, whatever others do and
whatever the world answers, it passes the keys that wait by then, in the order of the line and no
others; it observes no event and captures no deletion; there is always a turn for it to take; and
as soon as it has taken one turn for each key that waited and one more, it has ended well. -/
theorem Run.passes_backlog (new : start.IsNew) (run : Run backend start trace state)
    (stops : Turn backend state [.stopping] drained) (drain : Run backend drained later final) :
    passedKeys later ++ final.dispatcher.queue.line = state.dispatcher.queue.line ∧
      observedEvents later = [] ∧
      (∀ key gone, final.dispatcher.tombstones.get? key = some gone →
        state.dispatcher.tombstones.get? key = some gone) ∧
      (final.phase = .draining ∧ later.countP Moment.isDeed = (passedKeys later).length ∧
          (∃ moments next, Turn backend final moments next) ∨
        final.phase = .finished ∧ passedKeys later = state.dispatcher.queue.line ∧
          later.countP Moment.isDeed = state.dispatcher.queue.line.length + 1) := by
  have unbroken := run.unbroken new stops.phase_ne_broken
  have drains := drain.drains (drains_of_stopping unbroken stops)
  refine ⟨drains.line, drains.unobserved, drains.buried, ?_⟩
  rcases drains.progress with ⟨phase, counted⟩ | ⟨phase, empty, counted⟩
  · exact Or.inl ⟨phase, counted, exists_turn_of_draining phase drains.shuttingDown⟩
  · have all : passedKeys later = state.dispatcher.queue.line := by
      simpa [empty] using drains.line
    exact Or.inr ⟨phase, all, all ▸ counted⟩

/-- A new controller over complete caches, in which no zone can be looked up. -/
def prepared : Controller World :=
  let world : World :=
    { zones := { isSynced := true }
      records := { isSynced := true }
      faults := { lookups := [.zone] } }
  { newborn with dispatcher := { newborn.dispatcher with world } }

/-- Two zones are applied, and the controller is told to stop before any pass is run. -/
def crowded : Controller World :=
  let told := ((prepared.send (.applied ⟨"team/a", .zone⟩)).2.send (.applied ⟨"team/b", .zone⟩)).2
  ((settle World.backend 4 told).signal true).2

def halted : Controller World :=
  settle World.backend 1 crowded

/-- Another event is sent, and the controller goes on. -/
def drainedOut : Controller World :=
  settle World.backend 5 (halted.send (.applied ⟨"team/c", .zone⟩)).2

/-- Both zones are passed although none can be looked up, and the last event is never observed. -/
theorem passes_backlog_crowded :
    ∃ trace later, Run World.backend prepared trace crowded ∧
      Turn World.backend crowded [.stopping] halted ∧
      Run World.backend halted later drainedOut ∧ drainedOut.phase = .finished ∧
      passedKeys later = [⟨"team/a", .zone⟩, ⟨"team/b", .zone⟩] ∧
      sentEvents later = [.applied ⟨"team/c", .zone⟩] ∧ observedEvents later = [] := by
  have new : prepared.IsNew :=
    ⟨rfl, rfl, WorkQueue.isSound_withBackoff _, rfl, rfl, rfl, rfl⟩
  have begun : Run World.backend prepared [] prepared := .start
  have run : Run World.backend prepared _ crowded :=
    (((begun.outside (.send (.applied ⟨"team/a", .zone⟩))).outside
      (.send (.applied ⟨"team/b", .zone⟩))).settle 4).outside (.signal true)
  have polled : crowded.poll World.backend = some halted := rfl
  have stops : Turn World.backend crowded [.stopping] halted := turn_of_poll polled
  have drain : Run World.backend halted _ drainedOut :=
    (Run.start.outside (.send (.applied ⟨"team/c", .zone⟩))).settle 5
  obtain ⟨-, unobserved, -, progress⟩ := run.passes_backlog new stops drain
  have finished : drainedOut.phase = .finished := by decide +kernel
  obtain ⟨-, passed, -⟩ := progress.resolve_left fun ⟨draining, _⟩ => by
    rw [finished] at draining
    contradiction
  refine ⟨_, _, run, stops, drain, finished, passed.trans ?_, by decide +kernel, unobserved⟩
  decide +kernel

end Controller

end ZoneKeeper
