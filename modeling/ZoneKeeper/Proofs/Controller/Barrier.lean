import ZoneKeeper.Proofs.Controller.Runs
import ZoneKeeper.Proofs.Dispatcher.Deliveries
import ZoneKeeper.Proofs.Queue.Expectations

/-!
# Waiting for the caches

A pass that is run before the caches hold their first listings would take objects for gone that are
only not listed yet.  So the controller runs no pass before it has found both caches complete.  What
it receives until then it observes, so that no event gets lost or is observed twice, and if it is
to stop it ends there.
-/

namespace ZoneKeeper.Controller

variable {σ : Type} {backend : Backend σ} {start state next : Controller σ}
  {trace moments : List Moment}

/-- The last deletion of a key among some events. -/
def lastDeleted (key : ResourceKey) (events : List WatchEvent) : Option Resource :=
  (events.filterMap fun event => (Dispatcher.Moment.observed event).captured? key).getLast?

theorem lastDeleted_concat (key : ResourceKey) (events : List WatchEvent) (event : WatchEvent) :
    lastDeleted key (events ++ [event]) =
      ((Dispatcher.Moment.observed event).captured? key).or (lastDeleted key events) := by
  cases captured : (Dispatcher.Moment.observed event).captured? key <;>
    simp [lastDeleted, captured]

/-- What was sent was observed in the same order, or is still to be observed, or has got lost by
the end of the run. -/
def Received (trace : List Moment) (state : Controller σ) : Prop :=
  ∃ rest, sentEvents trace = observedEvents trace ++ rest ∧
    (state.isFinished = false → rest = state.events)

theorem Run.received (new : start.IsNew) (run : Run backend start trace state) :
    Received trace state := by
  induction run with
  | start => exact ⟨[], rfl, fun _ => new.events.symm⟩
  | @outside trace moments state next _ outside ih =>
      obtain ⟨rest, sent, waiting⟩ := ih
      have spares := outside.spares
      have finished : next.isFinished = state.isFinished := by
        unfold isFinished
        rw [spares.phase]
      rcases spares.events with ⟨rfl, events⟩ | ⟨unfinished, event, rfl, events⟩
      · rw [List.append_nil]
        exact ⟨rest, sent, fun unfinished => (waiting (finished ▸ unfinished)).trans events.symm⟩
      · refine ⟨rest ++ [event], ?_, fun _ => by rw [events, waiting unfinished]⟩
        rw [sentEvents_append, observedEvents_append, sent]
        simp [sentEvents, observedEvents, Moment.sent?, Moment.observed?]
  | @turn trace moments state next _ turn ih =>
      obtain ⟨rest, sent, waiting⟩ := ih
      obtain rfl := waiting turn.unfinished
      have quiet (unsent : sentEvents moments = []) (unobserved : observedEvents moments = [])
          (events : next.isFinished = false → next.events = state.events) :
          Received (trace ++ moments) next := by
        refine ⟨state.events, ?_, fun unfinished => (events unfinished).symm⟩
        rw [sentEvents_append, observedEvents_append, unsent, unobserved, List.append_nil,
          List.append_nil, sent]
      have kept (pauses : Pauses state next) (unfinished : next.isFinished = false) :
          next.events = state.events :=
        pauses.events.resolve_right (by simp [unfinished])
      cases turn.effect with
      | moves pauses | looks pauses | stops pauses | returns pauses =>
          exact quiet rfl rfl (kept pauses)
      | passes _ _ goesOn breaks =>
          refine quiet rfl rfl fun unfinished => (goesOn ?_).2.1
          refine Bool.eq_false_iff.2 fun broken => ?_
          simp [isFinished, breaks broken] at unfinished
      | @observes event events =>
          refine ⟨next.events, ?_, fun _ => rfl⟩
          rw [sentEvents_append, observedEvents_append, sent, events]
          simp [sentEvents, observedEvents, Moment.sent?, Moment.observed?]

/-- The controller serves the keys alone when it has found the channel closed and empty. -/
theorem Run.closed (new : start.IsNew) (run : Run backend start trace state)
    (phase : state.phase = .servingKeys) : state.events = [] ∧ state.eventsOpen = false := by
  induction run with
  | start =>
      rw [new.phase] at phase
      contradiction
  | outside _ outside ih =>
      have spares := outside.spares
      rw [spares.phase] at phase
      obtain ⟨empty, shut⟩ := ih phase
      obtain ⟨stillShut, events⟩ := spares.closed shut
      exact ⟨events.trans empty, stillShut⟩
  | turn _ turn ih =>
      cases turn.effect with
      | moves pauses _ _ _ closed =>
          rcases closed phase with ⟨before, events⟩ | ⟨empty, shut⟩
          · exact ⟨events.trans (ih before).1, pauses.eventsOpen.trans (ih before).2⟩
          · exact ⟨empty, pauses.eventsOpen.trans shut⟩
      | looks _ _ _ _ serves =>
          have serving := (serves (by rw [phase]; rfl)).1
          rw [phase] at serving
          contradiction
      | observes _ _ phases => rcases phases with ⟨-, other⟩ | ⟨-, other⟩ <;> simp [phase] at other
      | stops _ _ _ other | returns _ _ _ _ other => simp [phase] at other
      | passes _ _ goesOn breaks =>
          obtain ⟨same, events, eventsOpen⟩ := goesOn (Bool.eq_false_iff.2 fun broken => by
            simp [phase] at breaks
            simp [breaks] at broken)
          have before := ih (same ▸ phase)
          exact ⟨events.trans before.1, eventsOpen.trans before.2⟩

/-- The keys come after the events: unless the queue is drained, there is no event left when a pass
is run. -/
theorem Run.events_of_serving (new : start.IsNew) (run : Run backend start trace state)
    (serves : state.ServesKeys) (active : state.phase ≠ .draining) : state.events = [] := by
  rcases serves with ⟨-, -, quiet⟩ | ⟨phase, -⟩ | draining
  · unfold takeEvent at quiet
    split at quiet
    · contradiction
    · assumption
  · exact (run.closed new phase).1
  · exact absurd draining active

theorem shuttingDown_step {state after : Dispatcher σ} {key : ResourceKey}
    {result : Except ReconcileError Outcome}
    (stepped : state.step backend = some (key, result, after)) :
    after.queue.shuttingDown = state.queue.shuttingDown := by
  obtain ⟨rest, passed, taken, rfl, queue, -⟩ := Dispatcher.step_eq_some stepped
  have kept := (Dispatcher.kept_reconcile backend key { state with queue := rest }).shuttingDown
  rw [queue]
  split <;> exact kept.trans (WorkQueue.shuttingDown_take taken)

/-- The queue is only shut down to be drained. -/
theorem Run.stopped (new : start.IsNew) (run : Run backend start trace state)
    (stopped : state.dispatcher.queue.shuttingDown = true) :
    state.phase = .draining ∨ state.isFinished = true := by
  induction run with
  | start => simp [new.running] at stopped
  | outside _ outside ih =>
      have spares := outside.spares
      obtain ⟨keys, agrees⟩ := spares.queue
      rw [agrees.shuttingDown, WorkQueue.shuttingDown_addAll] at stopped
      unfold isFinished
      rw [spares.phase]
      exact ih stopped
  | @turn trace moments state next _ turn ih =>
      have unfinished := turn.unfinished
      have drains (before : state.dispatcher.queue.shuttingDown = true) : state.phase = .draining :=
        (ih before).resolve_right (by simp [unfinished])
      cases turn.effect with
      | moves _ shuttingDown active => exact absurd (drains (shuttingDown ▸ stopped)) active
      | looks _ shuttingDown phase =>
          have draining := drains (shuttingDown ▸ stopped)
          rw [phase] at draining
          contradiction
      | observes _ dispatcher phase =>
          rw [dispatcher, (Dispatcher.observed_observe _ _).shuttingDown] at stopped
          have draining := drains stopped
          rcases phase with ⟨phase, -⟩ | ⟨phase, -⟩ <;> rw [phase] at draining <;> contradiction
      | stops _ _ _ draining => exact Or.inl draining
      | passes _ stepped goesOn breaks =>
          have draining := drains ((shuttingDown_step stepped).symm.trans stopped)
          cases broken : next.dispatcher.isBroken with
          | true => exact Or.inr (by simp [isFinished, breaks broken])
          | false => exact Or.inl ((goesOn broken).1.trans draining)
      | returns _ _ _ _ finished => exact Or.inr (by simp [isFinished, finished])

structure Untried (start : Controller σ) (trace : List Moment) (state : Controller σ) : Prop where
  sound : state.dispatcher.queue.IsSound
  processing : state.dispatcher.queue.processing = []
  calls : state.dispatcher.calls = start.dispatcher.calls
  tombstones : ∀ key,
    state.dispatcher.tombstones.get? key = lastDeleted key (observedEvents trace)
  queued : ∀ event ∈ observedEvents trace, ∀ key, event.key? = some key →
    key ∈ state.dispatcher.queue.dirty

theorem Untried.pauses (untried : Untried start trace state) (pauses : Pauses state next)
    (unobserved : observedEvents moments = []) : Untried start (trace ++ moments) next := by
  have sameEvents : observedEvents (trace ++ moments) = observedEvents trace := by
    rw [observedEvents_append, unobserved, List.append_nil]
  exact
    { sound := by
        refine ⟨pauses.line ▸ untried.sound.line_nodup, fun key => ?_⟩
        rw [pauses.line, pauses.dirty, pauses.processing]
        exact untried.sound.mem_line_iff key
      processing := pauses.processing.trans untried.processing
      calls := pauses.calls.trans untried.calls
      tombstones := by
        rw [sameEvents, pauses.tombstones]
        exact untried.tombstones
      queued := by
        rw [sameEvents, pauses.dirty]
        exact untried.queued }

theorem Untried.spares (untried : Untried start trace state) (spares : Spares state moments next) :
    Untried start (trace ++ moments) next := by
  obtain ⟨keys, agrees⟩ := spares.queue
  have sameEvents : observedEvents (trace ++ moments) = observedEvents trace := by
    rw [observedEvents_append, spares.quiet.1, List.append_nil]
  exact
    { sound := (untried.sound.addAll keys).of_agrees agrees
      processing := by rw [agrees.processing, WorkQueue.processing_addAll, untried.processing]
      calls := spares.calls.trans untried.calls
      tombstones := by
        rw [sameEvents, spares.tombstones]
        exact untried.tombstones
      queued := by
        intro event present key keyed
        rw [sameEvents] at present
        rw [agrees.dirty, WorkQueue.mem_dirty_addAll]
        exact Or.inl (untried.queued event present key keyed) }

theorem Untried.observes (untried : Untried start trace state) {event : WatchEvent}
    (running : state.dispatcher.queue.shuttingDown = false)
    (dispatcher : next.dispatcher = state.dispatcher.observe event) :
    Untried start (trace ++ [.observed event]) next := by
  have observed := Dispatcher.observed_observe event state.dispatcher
  have events : observedEvents (trace ++ [.observed event]) = observedEvents trace ++ [event] := by
    rw [observedEvents_append]
    rfl
  exact
    { sound := dispatcher ▸ observed.sound untried.sound
      processing := by rw [dispatcher, observed.processing, untried.processing]
      calls := by rw [dispatcher, observed.calls, untried.calls]
      tombstones := by
        intro key
        rw [dispatcher, Dispatcher.get?_observe, events, lastDeleted_concat, untried.tombstones]
      queued := by
        intro other present key keyed
        rw [events, List.mem_append, List.mem_singleton] at present
        rw [dispatcher]
        rcases present with earlier | rfl
        · exact observed.dirty key (untried.queued other earlier key keyed)
        · exact Dispatcher.mem_dirty_observe running keyed }

theorem Run.untried (new : start.IsNew) (run : Run backend start trace state)
    (unpassed : passedKeys trace = []) : Untried start trace state := by
  induction run with
  | start =>
      exact
        { sound := new.sound
          processing := new.processing
          calls := rfl
          tombstones := fun key => by
            rw [new.tombstones]
            rfl
          queued := fun _ present => absurd present List.not_mem_nil }
  | outside _ outside ih =>
      rw [passedKeys_append, List.append_eq_nil_iff] at unpassed
      exact (ih unpassed.1).spares outside.spares
  | @turn trace moments state next earlier turn ih =>
      rw [passedKeys_append, List.append_eq_nil_iff] at unpassed
      have untried := ih unpassed.1
      have unfinished := turn.unfinished
      cases turn.effect with
      | moves pauses | looks pauses | stops pauses | returns pauses =>
          exact untried.pauses pauses rfl
      | observes _ dispatcher phase =>
          refine untried.observes (Bool.eq_false_iff.2 fun stopped => ?_) dispatcher
          rcases earlier.stopped new stopped with draining | finished
          · rcases phase with ⟨phase, -⟩ | ⟨phase, -⟩ <;> rw [phase] at draining <;> contradiction
          · simp [unfinished] at finished
      | passes => exact absurd unpassed.2 (List.cons_ne_nil _ _)

theorem Run.synced (new : start.IsNew) (run : Run backend start trace state)
    (served : hasServed state.phase = true) : .looked false true true ∈ trace := by
  induction run with
  | start =>
      rw [new.phase] at served
      contradiction
  | outside _ outside ih =>
      rw [outside.spares.phase] at served
      exact List.mem_append_left _ (ih served)
  | turn _ turn ih =>
      cases turn.effect with
      | moves _ _ _ phase => exact List.mem_append_left _ (ih (phase ▸ served))
      | looks _ _ _ _ serves =>
          obtain ⟨-, rfl, rfl, rfl⟩ := serves served
          simp
      | observes _ _ phase =>
          rcases phase with ⟨-, phase⟩ | ⟨before, -⟩
          · rw [phase] at served
            contradiction
          · exact List.mem_append_left _ (ih (by rw [before]; rfl))
      | stops _ before => exact List.mem_append_left _ (ih before)
      | passes serves | returns _ _ serves => exact List.mem_append_left _ (ih serves.hasServed)

theorem append_eq_append_cons {before after : List Moment} {moment : Moment}
    (split : trace ++ moments = before ++ moment :: after) :
    (∃ rest, trace = before ++ moment :: rest ∧ after = rest ++ moments) ∨
      ∃ rest, before = trace ++ rest ∧ moments = rest ++ moment :: after := by
  rcases List.append_eq_append_iff.1 split with ⟨rest, earlier, later⟩ | ⟨rest, earlier, later⟩
  · exact Or.inr ⟨rest, earlier, later⟩
  · cases rest with
    | nil => exact Or.inr ⟨[], by simpa using earlier.symm, later.symm⟩
    | cons first rest =>
        obtain ⟨rfl, rfl⟩ := List.cons.inj later
        exact Or.inl ⟨rest, earlier, rfl⟩

theorem Run.synced_of_passed (new : start.IsNew) (run : Run backend start trace state)
    {before after : List Moment} {key : ResourceKey} {result : Except ReconcileError Outcome}
    (split : trace = before ++ .passed key result :: after) : .looked false true true ∈ before := by
  induction run generalizing after with
  | start => simp at split
  | outside _ outside ih =>
      rcases append_eq_append_cons split with ⟨rest, earlier, -⟩ | ⟨rest, -, moments⟩
      · exact ih earlier
      · rcases outside.spares.events with ⟨rfl, -⟩ | ⟨-, event, rfl, -⟩ <;>
          cases rest <;> simp at moments
  | turn earlier turn ih =>
      rcases append_eq_append_cons split with ⟨rest, first, -⟩ | ⟨rest, rfl, told⟩
      · exact ih first
      · cases turn.effect with
        | passes serves =>
            exact List.mem_append_left _ (earlier.synced new serves.hasServed)
        | _ => cases rest <;> simp at told

theorem Run.served_of_passed (run : Run backend start trace state)
    (passed : passedKeys trace ≠ []) : hasServed state.phase = true := by
  induction run with
  | start => exact absurd rfl passed
  | outside _ outside ih =>
      have spares := outside.spares
      rw [passedKeys_append, spares.quiet.2.1, List.append_nil] at passed
      rw [spares.phase]
      exact ih passed
  | @turn trace moments state next _ turn ih =>
      have served (unpassed : passedKeys moments = []) : hasServed state.phase = true :=
        ih (by simpa [passedKeys_append, unpassed] using passed)
      cases turn.effect with
      | moves _ _ _ phase => exact phase.trans (served rfl)
      | looks _ _ phase =>
          have before := served rfl
          rw [phase] at before
          contradiction
      | observes _ _ phase =>
          have before := served rfl
          rcases phase with ⟨phase, -⟩ | ⟨-, phase⟩
          · rw [phase] at before
            contradiction
          · rw [phase]
            rfl
      | stops _ _ _ phase | returns _ _ _ _ phase =>
          rw [phase]
          rfl
      | passes serves _ goesOn breaks =>
          cases broken : next.dispatcher.isBroken with
          | true =>
              rw [breaks broken]
              rfl
          | false =>
              rw [(goesOn broken).1]
              exact serves.hasServed

/-- A controller that is to stop when it looks at the caches has failed there, whatever it sees. -/
theorem Run.failed_of_stopped (run : Run backend start trace state)
    {before after : List Moment} {zones records : Bool}
    (split : trace = before ++ .looked true zones records :: after) :
    after = [] ∧ state.phase = .failed .stopped ∧ passedKeys trace = [] := by
  induction run generalizing after with
  | start => simp at split
  | outside _ outside ih =>
      have spares := outside.spares
      rcases append_eq_append_cons split with ⟨rest, first, rfl⟩ | ⟨rest, -, told⟩
      · obtain ⟨rfl, failed, unpassed⟩ := ih first
        rcases spares.events with ⟨rfl, -⟩ | ⟨unfinished, -⟩
        · exact ⟨rfl, spares.phase.trans failed, by rwa [List.append_nil]⟩
        · simp [isFinished, failed] at unfinished
      · rcases spares.events with ⟨rfl, -⟩ | ⟨-, event, rfl, -⟩ <;> cases rest <;> simp at told
  | @turn trace moments state next earlier turn ih =>
      rcases append_eq_append_cons split with ⟨rest, first, rfl⟩ | ⟨rest, rfl, told⟩
      · obtain ⟨-, failed, -⟩ := ih first
        have unfinished := turn.unfinished
        simp [isFinished, failed] at unfinished
      · cases turn.effect with
        | looks _ _ phase fails =>
            obtain ⟨rfl, same⟩ | ⟨more, rfl, nothing⟩ := List.cons_eq_append_iff.1 told
            · obtain ⟨⟨rfl, -, -⟩, rfl⟩ := by simpa using same
              refine ⟨rfl, fails rfl, ?_⟩
              by_contra passed
              have served := earlier.served_of_passed
                (by simpa [passedKeys, Moment.passed?] using passed)
              rw [phase] at served
              contradiction
            · simp at nothing
        | _ => cases rest <;> simp at told

/-- Whatever others do, and in whatever order, the controller runs no pass before it has looked at
both caches and found them complete.  Until its first pass no handler is called and no key is handed
out; every event that was observed has its key in the line, and what is kept under a key is the last
deletion of it that was observed.  What was sent is observed in this order and each event once; when
a pass is run, nothing that was sent is left to be observed, unless the queue is drained.  If the
controller is to stop when it looks at the caches, this is the last thing that it does: it has
failed without a pass and without the call of a handler, even if both caches are complete. -/
theorem Run.waits_for_caches (new : start.IsNew) (run : Run backend start trace state) :
    (∀ before key result after, trace = before ++ .passed key result :: after →
      .looked false true true ∈ before) ∧
    (passedKeys trace = [] →
      state.dispatcher.calls = start.dispatcher.calls ∧
        state.dispatcher.queue.processing = [] ∧
        (∀ event ∈ observedEvents trace, ∀ key, event.key? = some key →
          key ∈ state.dispatcher.queue.line) ∧
        ∀ key, state.dispatcher.tombstones.get? key = lastDeleted key (observedEvents trace)) ∧
    (∃ rest, sentEvents trace = observedEvents trace ++ rest ∧
      (state.isFinished = false → rest = state.events)) ∧
    (∀ key result next, Turn backend state [.passed key result] next → state.phase ≠ .draining →
      sentEvents trace = observedEvents trace) ∧
    ∀ before zones records after, trace = before ++ .looked true zones records :: after →
      after = [] ∧ state.phase = .failed .stopped ∧ passedKeys trace = [] ∧
        state.dispatcher.calls = start.dispatcher.calls := by
  refine ⟨fun _ _ _ _ => run.synced_of_passed new, fun unpassed => ?_, run.received new, ?_, ?_⟩
  · have untried := run.untried new unpassed
    refine ⟨untried.calls, untried.processing, fun event present key keyed => ?_,
      untried.tombstones⟩
    rw [untried.sound.mem_line_iff, untried.processing]
    exact ⟨untried.queued event present key keyed, List.not_mem_nil⟩
  · intro key result next turn active
    obtain ⟨rest, sent, waiting⟩ := run.received new
    generalize told : [Moment.passed key result] = moments at turn
    cases turn.effect with
    | passes serves =>
        rw [sent, waiting turn.unfinished, run.events_of_serving new serves active, List.append_nil]
    | _ => cases told
  · intro before zones records after split
    obtain ⟨last, failed, unpassed⟩ := run.failed_of_stopped split
    exact ⟨last, failed, unpassed, (run.untried new unpassed).calls⟩

/-- A zone is applied before the caches are complete. -/
def expectant : Controller World :=
  settle World.backend 8 (newborn.send (.applied ⟨"team/a", .zone⟩)).2

/-- Another zone is deleted, and the caches become complete. -/
def caughtUp : Controller World :=
  let told := (expectant.send (.deleted (Sample.zone "b" 1 "x"))).2
  let world : World := { zones := { isSynced := true }, records := { isSynced := true } }
  settle World.backend 2 { told with dispatcher := { told.dispatcher with world } }

/-- Both events have been observed when the controller begins to serve. -/
theorem waits_for_caches_caughtUp :
    ∃ trace, Run World.backend newborn trace caughtUp ∧ passedKeys trace = [] ∧
      caughtUp.phase = .serving ∧ .looked false true true ∈ trace ∧
      ⟨"team/a", .zone⟩ ∈ caughtUp.dispatcher.queue.line ∧
      ⟨"team/b", .zone⟩ ∈ caughtUp.dispatcher.queue.line ∧
      caughtUp.dispatcher.tombstones.get? ⟨"team/b", .zone⟩ = some (Sample.zone "b" 1 "x") ∧
      sentEvents trace = [.applied ⟨"team/a", .zone⟩, .deleted (Sample.zone "b" 1 "x")] := by
  have early : Run World.backend newborn _ expectant :=
    (Run.start.outside (.send (.applied ⟨"team/a", .zone⟩))).settle 8
  have run : Run World.backend newborn _ caughtUp :=
    ((early.outside (.send (.deleted (Sample.zone "b" 1 "x")))).outside (.change _)).settle 2
  obtain ⟨-, untried, -, -, -⟩ := run.waits_for_caches isNew_newborn
  obtain ⟨-, -, queued, buried⟩ := untried (by decide +kernel)
  refine ⟨_, run, by decide +kernel, by decide +kernel, by decide +kernel, ?_, ?_, ?_,
    by decide +kernel⟩
  · exact queued (.applied ⟨"team/a", .zone⟩) (by decide +kernel) _ rfl
  · exact queued (.deleted (Sample.zone "b" 1 "x")) (by decide +kernel) _ (by decide)
  · rw [buried]
    decide +kernel

end ZoneKeeper.Controller
