import ZoneKeeper.Proofs.Dispatcher.Acts
import ZoneKeeper.Proofs.Dispatcher.Events
import ZoneKeeper.Proofs.Queue.History

/-!
# Histories of a dispatcher

A dispatcher observes events, and runs passes for keys that its queue has handed out.  In between
the queue is called by anyone, delayed additions fire in any order, and the world changes in any
way; during a pass the world may answer anything.  The trace of a history tells which events were
observed, and which passes were run with which calls of the handlers.
-/

namespace ZoneKeeper.Dispatcher

variable {σ : Type} {backend : Backend σ} {key : ResourceKey} {state : Dispatcher σ}

/-- What the trace of a history tells of. -/
inductive Moment where
  | observed (event : WatchEvent)
  | passed (key : ResourceKey) (result : Except ReconcileError Outcome)
      (calls : List HandlerCall)

/-- The dispatchers that come about from a new one, and what happens on the way. -/
inductive History (backend : Backend σ) : List Moment → Dispatcher σ → Prop
  | start (backoff : Backoff) (world : σ) :
      History backend [] { queue := .withBackoff backoff, world }
  | observe {trace : List Moment} {state : Dispatcher σ} (earlier : History backend trace state)
      (event : WatchEvent) : History backend (trace ++ [.observed event]) (state.observe event)
  /-- A key is handed out, or added by anyone; a timer fires; the queue is shut down.  That a key
  is done is only said at the end of its pass. -/
  | ask {trace : List Moment} {state : Dispatcher σ} (earlier : History backend trace state)
      (call : WorkQueue.Call ResourceKey) (allowed : call.IsAllowed state.queue)
      (unfinished : ∀ key, call ≠ .done key) :
      History backend trace { state with queue := call.run state.queue }
  | pass {trace : List Moment} {state : Dispatcher σ} (earlier : History backend trace state)
      {key : ResourceKey} (held : key ∈ state.queue.processing)
      (unbroken : state.isBroken = false) {calls : List HandlerCall}
      (called : (state.process backend key).2.calls = state.calls ++ calls) :
      History backend (trace ++ [.passed key (state.process backend key).1 calls])
        (state.process backend key).2
  | change {trace : List Moment} {state : Dispatcher σ} (earlier : History backend trace state)
      (world : σ) : History backend trace { state with world }

/-- A pass keeps the three collections of the queue in order. -/
theorem isSound_process (sound : state.queue.IsSound) (held : key ∈ state.queue.processing) :
    (state.process backend key).2.queue.IsSound := by
  have kept := kept_reconcile backend key state
  rw [process_queue]
  split
  · exact kept.sound sound
  · exact (kept.sound sound).done (kept.processing ▸ held)

theorem History.isSound {trace : List Moment} (history : History backend trace state) :
    state.queue.IsSound := by
  induction history with
  | start backoff => exact WorkQueue.isSound_withBackoff backoff
  | observe _ event sound => exact (observed_observe event _).sound sound
  | ask _ call allowed _ sound => exact sound.call call allowed
  | pass _ held _ _ sound => exact isSound_process sound held
  | change _ _ sound => exact sound

end ZoneKeeper.Dispatcher
