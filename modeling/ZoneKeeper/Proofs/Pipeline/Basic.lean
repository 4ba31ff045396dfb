import ZoneKeeper.Proofs.Dispatcher.Events
import ZoneKeeper.Proofs.Dispatcher.Settlement
import ZoneKeeper.Proofs.Watch.Reports

/-!
# From the watch to the files

The pipeline is the closed system of the watch of the zones, the channel that carries its events,
and the dispatcher over the store of the watch.  Reports, deliveries and passes come in any order,
so that the store is ahead of the channel and the channel ahead of the passes.  In which order the
zones come that have vanished, or that are listed, is open each time.
-/

namespace ZoneKeeper

/-- The objects of a namespace come in another order from now on when they are listed. -/
def Dispatcher.reorder (shuffle : Shuffle Resource) (state : Dispatcher World) :
    Dispatcher World :=
  { state with world := { state.world with shuffle } }

structure Pipeline where
  announcer : Announcer := {}
  /-- The events that the dispatcher has not observed yet. -/
  channel : List WatchEvent := []
  dispatcher : Dispatcher World

namespace Pipeline

/-- What may happen next. -/
inductive Move where
  /-- The store takes in a report, and the announcer tells of it. -/
  | report (change : Change) (shuffle : Shuffle Resource)
  /-- The dispatcher observes the event at the head of the channel. -/
  | deliver
  /-- The dispatcher runs a pass for the key at the head of the line. -/
  | work (shuffle : Shuffle Resource)
  /-- The clock of the queue moves. -/
  | wait (instant : Duration)

def perform? (pipeline : Pipeline) : Move → Option Pipeline
  | .report change shuffle =>
      (pipeline.dispatcher.world.accept? .zone change).map fun world =>
        let announcement := pipeline.announcer.announce .zone change shuffle
        { announcer := announcement.announcer
          channel := pipeline.channel ++ announcement.events
          dispatcher :=
            { pipeline.dispatcher with
              world
              notices := pipeline.dispatcher.notices ++ announcement.notices } }
  | .deliver =>
      match pipeline.channel with
      | [] => none
      | event :: channel =>
          some { pipeline with channel, dispatcher := pipeline.dispatcher.observe event }
  | .work shuffle =>
      ((pipeline.dispatcher.reorder shuffle).step World.backend).map fun (_, _, dispatcher) =>
        { pipeline with dispatcher }
  | .wait instant =>
      some
        { pipeline with
          dispatcher :=
            { pipeline.dispatcher with queue := pipeline.dispatcher.queue.advanceTo instant } }

/-- Makes some moves, if each of them can be made. -/
def run? (pipeline : Pipeline) : List Move → Option Pipeline
  | [] => some pipeline
  | move :: moves => (pipeline.perform? move).bind fun after => after.run? moves

/-- Nothing has been reported yet. -/
def start (backoff : Backoff) (handler : Handler) (files : Files) : Pipeline where
  dispatcher :=
    { queue := .withBackoff backoff
      world := { handler := some handler, files } }

def store (pipeline : Pipeline) : Store :=
  pipeline.dispatcher.world.zones.store

def files (pipeline : Pipeline) : Files :=
  pipeline.dispatcher.world.files

/-- A pass for the zone at the address is to come. -/
def IsPending (pipeline : Pipeline) (address : Address) : Prop :=
  .applied address.zoneKey ∈ pipeline.channel ∨
    address.zoneKey ∈ pipeline.dispatcher.queue.dirty

/-- A pass is to come that finds the last state of a zone that was at the address. -/
def IsDoomed (pipeline : Pipeline) (address : Address) : Prop :=
  (∃ gone : Resource, gone.IsZoneAt address ∧ .deleted gone ∈ pipeline.channel) ∨
    (∃ gone, pipeline.dispatcher.tombstones.get? address.zoneKey = some gone) ∧
      address.zoneKey ∈ pipeline.dispatcher.queue.dirty

variable {before after : Pipeline} {handler : Handler} {P : Resource → Prop}

/-- Nothing has changed but what is known of what is to come, and nothing that is to come is
lost. -/
structure Bided (before after : Pipeline) : Prop where
  announcer : after.announcer = before.announcer
  world : after.dispatcher.world = before.dispatcher.world
  calls : after.dispatcher.calls = before.dispatcher.calls
  told : ∀ event ∈ after.channel, event ∈ before.channel
  pending : ∀ address, before.IsPending address → after.IsPending address
  doomed : ∀ address, before.IsDoomed address → after.IsDoomed address

theorem Bided.store (bided : Bided before after) : after.store = before.store := by
  unfold Pipeline.store
  rw [bided.world]

theorem Bided.files (bided : Bided before after) : after.files = before.files := by
  unfold Pipeline.files
  rw [bided.world]

theorem deliver_eq_some (delivered : before.perform? .deliver = some after) :
    ∃ event channel, before.channel = event :: channel ∧
      after = { before with channel, dispatcher := before.dispatcher.observe event } := by
  rw [perform?] at delivered
  split at delivered
  · contradiction
  · rename_i event channel shape
    exact ⟨event, channel, shape, (Option.some.inj delivered).symm⟩

theorem bided_of_deliver (running : before.dispatcher.queue.shuttingDown = false)
    (delivered : before.perform? .deliver = some after) : Bided before after := by
  obtain ⟨event, channel, shape, rfl⟩ := deliver_eq_some delivered
  have observed := Dispatcher.observed_observe event before.dispatcher
  refine ⟨rfl, observed.world, observed.calls, fun other present => ?_, ?_, ?_⟩
  · rw [shape]
    exact List.mem_cons_of_mem event present
  · rintro address (announced | queued)
    · rw [shape] at announced
      rcases List.mem_cons.1 announced with rfl | later
      · exact Or.inr (Dispatcher.mem_dirty_observe_applied running address.zoneKey)
      · exact Or.inl later
    · exact Or.inr (observed.dirty _ queued)
  · rintro address (⟨gone, here, announced⟩ | ⟨⟨gone, kept⟩, queued⟩)
    · rw [shape] at announced
      rcases List.mem_cons.1 announced with rfl | later
      · obtain ⟨queued, kept⟩ := Dispatcher.mem_dirty_observe_deleted running here.zoneKey
        exact Or.inr ⟨⟨gone, kept⟩, queued⟩
      · exact Or.inl ⟨gone, here, later⟩
    · exact Or.inr ⟨observed.kept _ gone kept, observed.dirty _ queued⟩

theorem wait_dirty {instant : Duration} (waited : before.perform? (.wait instant) = some after) :
    ∀ key ∈ before.dispatcher.queue.dirty, key ∈ after.dispatcher.queue.dirty := by
  obtain rfl := Option.some.inj waited
  intro key present
  have agrees := WorkQueue.advanceTo_agrees before.dispatcher.queue instant
  change key ∈ (before.dispatcher.queue.advanceTo instant).dirty
  rw [agrees.dirty, WorkQueue.mem_dirty_addAll]
  exact Or.inl present

theorem bided_of_wait {instant : Duration} (waited : before.perform? (.wait instant) = some after) :
    Bided before after := by
  have dirty := wait_dirty waited
  obtain rfl := Option.some.inj waited
  refine ⟨rfl, rfl, rfl, fun _ present => present, ?_, ?_⟩
  · rintro address (announced | queued)
    · exact Or.inl announced
    · exact Or.inr (dirty _ queued)
  · rintro address (announced | ⟨kept, queued⟩)
    · exact Or.inl announced
    · exact Or.inr ⟨kept, dirty _ queued⟩

/-- The dispatcher is between two passes and not shut down, and what it knows of can be handled. -/
structure IsSteady (handler : Handler) (pipeline : Pipeline) : Prop where
  idle : pipeline.dispatcher.IsIdle
  running : pipeline.dispatcher.queue.shuttingDown = false
  serves : pipeline.dispatcher.world.Serves handler
  told : ∀ gone, .deleted gone ∈ pipeline.channel → gone.IsPlain
  buried : pipeline.dispatcher.tombstones.All Resource.IsPlain

theorem IsSteady.zones {pipeline : Pipeline} (steady : pipeline.IsSteady handler) :
    pipeline.store.All Resource.IsZone :=
  steady.serves.zones

theorem IsSteady.deliver (steady : before.IsSteady handler)
    (delivered : before.perform? .deliver = some after) : after.IsSteady handler := by
  obtain ⟨event, channel, shape, rfl⟩ := deliver_eq_some delivered
  have observed := Dispatcher.observed_observe event before.dispatcher
  refine ⟨⟨observed.sound steady.idle.sound, ?_, ?_⟩, ?_, ?_, fun gone present => ?_, ?_⟩
  · exact observed.processing.trans steady.idle.processing
  · exact observed.isBroken.trans steady.idle.unbroken
  · exact observed.shuttingDown.trans steady.running
  · rw [observed.world]
    exact steady.serves
  · apply steady.told
    rw [shape]
    exact List.mem_cons_of_mem event present
  · intro key gone held
    rcases observed.buried key gone held with earlier | ⟨rfl, keyed⟩
    · exact steady.buried key gone earlier
    · refine ⟨keyed, steady.told gone ?_⟩
      rw [shape]
      exact List.mem_cons_self

theorem IsSteady.wait {instant : Duration} (steady : before.IsSteady handler)
    (waited : before.perform? (.wait instant) = some after) : after.IsSteady handler := by
  obtain rfl := Option.some.inj waited
  have agrees := WorkQueue.advanceTo_agrees before.dispatcher.queue instant
  refine { steady with idle := ⟨?_, ?_, steady.idle.unbroken⟩, running := ?_ }
  · exact (steady.idle.sound.addAll _).of_agrees agrees
  · rw [agrees.processing, WorkQueue.processing_addAll]
    exact steady.idle.processing
  · rw [agrees.shuttingDown, WorkQueue.shuttingDown_addAll]
    exact steady.running

/-- What a pass does to the pipeline. -/
structure Passed (handler : Handler) (key : ResourceKey) (fresh : List HandlerCall)
    (before after : Pipeline) : Prop where
  announcer : after.announcer = before.announcer
  channel : after.channel = before.channel
  worked : Dispatcher.Worked handler key fresh before.dispatcher after.dispatcher

theorem passed_of_work (steady : before.IsSteady handler)
    {shuffle : Shuffle Resource} (performed : before.perform? (.work shuffle) = some after)
    (succeeded : SucceedFrom before.dispatcher.calls after.dispatcher.calls) :
    ∃ key fresh, Passed handler key fresh before after := by
  obtain ⟨⟨key, result, dispatcher⟩, stepped, rfl⟩ := Option.map_eq_some_iff.1 performed
  have idle : (before.dispatcher.reorder shuffle).IsIdle :=
    ⟨steady.idle.sound, steady.idle.processing, steady.idle.unbroken⟩
  have serves : (before.dispatcher.reorder shuffle).world.Serves handler :=
    ⟨steady.serves.handled, steady.serves.faultless, steady.serves.zones⟩
  obtain ⟨fresh, worked⟩ :=
    Dispatcher.worked_of_step idle serves steady.buried steady.running stepped succeeded
  have alike : before.dispatcher.world.Alike dispatcher.world :=
    ⟨worked.alike.zones, worked.alike.records, worked.alike.handler, worked.alike.faults⟩
  exact ⟨key, fresh, rfl, rfl, { worked with alike }⟩

variable {key : ResourceKey} {fresh : List HandlerCall}

theorem Passed.store (passed : Passed handler key fresh before after) :
    after.store = before.store := by
  unfold Pipeline.store
  rw [passed.worked.alike.zones]

theorem Passed.pass (passed : Passed handler key fresh before after) :
    Dispatcher.Pass before.store before.dispatcher.tombstones key after.dispatcher.queue.dirty
      fresh :=
  passed.worked.pass

/-- Only a pass that is for the zone itself may settle what is to come for it. -/
theorem Passed.pending (passed : Passed handler key fresh before after) {address : Address}
    (pending : before.IsPending address) (apart : key ≠ address.zoneKey) :
    after.IsPending address := by
  rcases pending with announced | queued
  · exact Or.inl (passed.channel ▸ announced)
  · exact Or.inr (passed.worked.dirty _ queued (Ne.symm apart))

theorem Passed.doomed (passed : Passed handler key fresh before after) {address : Address}
    (doomed : before.IsDoomed address) :
    after.IsDoomed address ∨ key = address.zoneKey ∧
      ∃ gone, before.dispatcher.tombstones.get? key = some gone := by
  rcases doomed with ⟨gone, here, announced⟩ | ⟨⟨gone, kept⟩, queued⟩
  · exact Or.inl (Or.inl ⟨gone, here, passed.channel ▸ announced⟩)
  · by_cases same : key = address.zoneKey
    · exact Or.inr ⟨same, gone, same ▸ kept⟩
    · refine Or.inl (Or.inr ⟨⟨gone, ?_⟩, passed.worked.dirty _ queued (Ne.symm same)⟩)
      rw [passed.worked.others _ (Ne.symm same)]
      exact kept

theorem Passed.steady (passed : Passed handler key fresh before after)
    (steady : before.IsSteady handler) : after.IsSteady handler where
  idle := passed.worked.idle
  running := passed.worked.shuttingDown.trans steady.running
  serves := steady.serves.alike passed.worked.alike
  told := fun gone present => steady.told gone (passed.channel ▸ present)
  buried := fun key gone held => steady.buried key gone (passed.worked.buried key gone held)

end Pipeline

end ZoneKeeper
