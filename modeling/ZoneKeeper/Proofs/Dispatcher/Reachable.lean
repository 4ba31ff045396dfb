import ZoneKeeper.Proofs.Dispatcher.Events
import ZoneKeeper.Proofs.Dispatcher.Passes

/-!
# Reachable dispatchers

Between two passes a dispatcher is idle, and every tombstone stands under the key of the object that
it keeps, whatever has been observed, whichever passes have failed, and whatever has become of the
caches and of the files.
-/

namespace ZoneKeeper.Dispatcher

/-- The states of a dispatcher between passes: it observes events and runs passes, time goes by, it
may be shut down, and the world may change in any way. -/
inductive Reachable : Dispatcher World → Prop
  | start (backoff : Backoff) (world : World) : Reachable { queue := .withBackoff backoff, world }
  | observe {state : Dispatcher World} (reachable : Reachable state) (event : WatchEvent)
      (plain : ∀ gone, event = .deleted gone → gone.IsPlain) : Reachable (state.observe event)
  | pass {state after : Dispatcher World} {key : ResourceKey}
      {result : Except ReconcileError Outcome} (reachable : Reachable state)
      (stepped : state.step World.backend = some (key, result, after))
      (unbroken : after.isBroken = false) : Reachable after
  | wait {state : Dispatcher World} (reachable : Reachable state) (instant : Duration) :
      Reachable { state with queue := state.queue.advanceTo instant }
  | shutDown {state : Dispatcher World} (reachable : Reachable state) :
      Reachable { state with queue := state.queue.shutDown }
  | change {state : Dispatcher World} (reachable : Reachable state) (world : World) :
      Reachable { state with world }

theorem Reachable.isIdle {state : Dispatcher World} (reachable : Reachable state) :
    state.IsIdle ∧ state.tombstones.All Resource.IsPlain := by
  induction reachable with
  | start backoff world =>
      refine ⟨⟨WorkQueue.isSound_withBackoff backoff, rfl, rfl⟩, fun key gone held => ?_⟩
      simp at held
  | @observe state _ event plain ih =>
      obtain ⟨idle, buried⟩ := ih
      have observed := observed_observe event state
      refine ⟨⟨observed.sound idle.sound, observed.processing.trans idle.processing,
        observed.isBroken.trans idle.unbroken⟩, fun key gone held => ?_⟩
      rcases observed.buried key gone held with earlier | ⟨told, keyed⟩
      · exact buried key gone earlier
      · exact ⟨keyed, plain gone told⟩
  | pass _ stepped unbroken ih =>
      obtain ⟨idle, buried⟩ := ih
      have kept := stepped_of_step idle stepped unbroken
      exact ⟨kept.idle, fun key gone held => buried key gone (kept.buried key gone held)⟩
  | @wait state _ instant ih =>
      obtain ⟨idle, buried⟩ := ih
      have agrees := WorkQueue.advanceTo_agrees state.queue instant
      refine ⟨⟨(idle.sound.addAll _).of_agrees agrees, ?_, idle.unbroken⟩, buried⟩
      rw [agrees.processing, WorkQueue.processing_addAll]
      exact idle.processing
  | shutDown _ ih =>
      obtain ⟨idle, buried⟩ := ih
      exact ⟨⟨⟨idle.sound.line_nodup, idle.sound.mem_line_iff⟩, idle.processing, idle.unbroken⟩,
        buried⟩
  | change _ world ih =>
      obtain ⟨idle, buried⟩ := ih
      exact ⟨⟨idle.sound, idle.processing, idle.unbroken⟩, buried⟩

end ZoneKeeper.Dispatcher
