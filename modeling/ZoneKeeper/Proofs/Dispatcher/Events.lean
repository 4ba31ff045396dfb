import ZoneKeeper.Dispatcher
import ZoneKeeper.Proofs.Queue.Soundness

/-!
# Observing events

An event queues one key at most.  Only the event of a deletion changes the tombstones: it puts the
last state of the object under the key of the object.
-/

namespace ZoneKeeper

/-- The key that an event queues. -/
def WatchEvent.key? : WatchEvent → Option ResourceKey
  | .applied key => some key
  | .deleted gone => gone.key.toOption

namespace Dispatcher

variable {σ : Type} {before after : Dispatcher σ}

/-- What the observation of an event does, and what it leaves alone. -/
structure Observed (event : WatchEvent) (before after : Dispatcher σ) : Prop where
  world : after.world = before.world
  calls : after.calls = before.calls
  isBroken : after.isBroken = before.isBroken
  processing : after.queue.processing = before.queue.processing
  shuttingDown : after.queue.shuttingDown = before.queue.shuttingDown
  sound : before.queue.IsSound → after.queue.IsSound
  dirty : ∀ key ∈ before.queue.dirty, key ∈ after.queue.dirty
  buried : ∀ key gone, after.tombstones.get? key = some gone →
    before.tombstones.get? key = some gone ∨ event = .deleted gone ∧ gone.key = .ok key
  kept : ∀ key gone, before.tombstones.get? key = some gone →
    ∃ last, after.tombstones.get? key = some last

theorem observed_of_queue {event : WatchEvent} (keys : List ResourceKey)
    (queue : after.queue = keys.foldl WorkQueue.add before.queue)
    (world : after.world = before.world) (calls : after.calls = before.calls)
    (isBroken : after.isBroken = before.isBroken)
    (buried : ∀ key gone, after.tombstones.get? key = some gone →
      before.tombstones.get? key = some gone ∨ event = .deleted gone ∧ gone.key = .ok key)
    (kept : ∀ key gone, before.tombstones.get? key = some gone →
      ∃ last, after.tombstones.get? key = some last) : Observed event before after where
  world := world
  calls := calls
  isBroken := isBroken
  processing := by rw [queue, WorkQueue.processing_addAll]
  shuttingDown := by rw [queue, WorkQueue.shuttingDown_addAll]
  sound := fun sound => queue ▸ sound.addAll keys
  dirty := fun key present => by
    rw [queue, WorkQueue.mem_dirty_addAll]
    exact Or.inl present
  buried := buried
  kept := kept

theorem observe_deleted {gone : Resource} {key : ResourceKey} (keyed : gone.key = .ok key)
    (state : Dispatcher σ) : state.observe (.deleted gone) =
      ({ state with tombstones := state.tombstones.insert key gone }.enqueue key).showDepth := by
  simp [observe, Tombstones.bury, keyed, Except.map]

theorem observe_unaddressable {gone : Resource} {fault : KeyError} (keyed : gone.key = .error fault)
    (state : Dispatcher σ) : state.observe (.deleted gone) =
      (state.note (.unaddressableDeletion fault)).showDepth := by
  simp [observe, Tombstones.bury, keyed, Except.map]

theorem observed_observe (event : WatchEvent) (state : Dispatcher σ) :
    Observed event state (state.observe event) := by
  cases event with
  | applied key =>
      exact observed_of_queue [key] rfl rfl rfl rfl (fun _ _ held => Or.inl held)
        fun _ gone held => ⟨gone, held⟩
  | deleted gone =>
      cases keyed : gone.key with
      | error fault =>
          rw [observe_unaddressable keyed]
          exact observed_of_queue [] rfl rfl rfl rfl (fun _ _ held => Or.inl held)
            fun _ gone held => ⟨gone, held⟩
      | ok key =>
          rw [observe_deleted keyed]
          refine observed_of_queue [key] rfl rfl rfl rfl (fun other found held => ?_)
            fun other found held => ?_
          · simp only [showDepth, enqueue, Table.get?_insert] at held
            split at held
            · rename_i same
              subst same
              obtain rfl := Option.some.inj held
              exact Or.inr ⟨rfl, keyed⟩
            · exact Or.inl held
          · simp only [showDepth, enqueue, Table.get?_insert]
            split
            · exact ⟨gone, rfl⟩
            · exact ⟨found, held⟩

theorem queue_observe (event : WatchEvent) (state : Dispatcher σ) :
    (state.observe event).queue = event.key?.toList.foldl WorkQueue.add state.queue := by
  cases event with
  | applied key => rfl
  | deleted gone =>
      cases keyed : gone.key with
      | error fault =>
          simp [observe, Tombstones.bury, keyed, Except.map, WatchEvent.key?, Except.toOption, note,
            showDepth]
      | ok key =>
          rw [observe_deleted keyed]
          simp [WatchEvent.key?, keyed, Except.toOption, enqueue, showDepth]

/-- Before the shutdown, the key of an event is queued. -/
theorem mem_dirty_observe {state : Dispatcher σ} {event : WatchEvent} {key : ResourceKey}
    (running : state.queue.shuttingDown = false) (keyed : event.key? = some key) :
    key ∈ (state.observe event).queue.dirty := by
  rw [queue_observe, WorkQueue.mem_dirty_addAll, keyed]
  exact Or.inr ⟨running, List.mem_singleton_self key⟩

theorem mem_dirty_observe_applied {state : Dispatcher σ}
    (running : state.queue.shuttingDown = false) (key : ResourceKey) :
    key ∈ (state.observe (.applied key)).queue.dirty :=
  WorkQueue.mem_dirty_add.2 (Or.inr ⟨running, rfl⟩)

/-- Once the deletion of an object is observed, its last state is kept and its key is queued. -/
theorem mem_dirty_observe_deleted {state : Dispatcher σ} {gone : Resource} {key : ResourceKey}
    (running : state.queue.shuttingDown = false) (keyed : gone.key = .ok key) :
    key ∈ (state.observe (.deleted gone)).queue.dirty ∧
      (state.observe (.deleted gone)).tombstones.get? key = some gone := by
  rw [observe_deleted keyed]
  exact ⟨WorkQueue.mem_dirty_add.2 (Or.inr ⟨running, rfl⟩), Table.get?_insert_self _ _ _⟩

end Dispatcher

end ZoneKeeper
