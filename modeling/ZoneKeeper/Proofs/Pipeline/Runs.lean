import ZoneKeeper.Proofs.Pipeline.Basic

/-!
# Runs

Whatever is stored, known, told of, buried or materialized in the course of a run was reported, and
the announcer keeps up with the store.  So there are three kinds of move only: a move that loses
nothing that is to come, a report, of whose every change an event tells, and a pass.  A property
that each of them keeps holds after every run in which no call fails.
-/

namespace ZoneKeeper.Pipeline

variable {before after : Pipeline} {handler : Handler} {P : Resource → Prop}

/-- The pipeline is steady, and all zones in it were reported and have a property. -/
structure IsSound (handler : Handler) (P : Resource → Prop) (pipeline : Pipeline) : Prop extends
    pipeline.IsSteady handler where
  stored : pipeline.store.All P
  known : pipeline.announcer.All P
  follows : pipeline.announcer.Follows pipeline.store
  toldOf : ∀ gone, .deleted gone ∈ pipeline.channel → P gone
  kept : pipeline.dispatcher.tombstones.All P
  created : ∀ call ∈ pipeline.dispatcher.calls, call.operation = .created → P call.resource

/-- What a report does to the pipeline. -/
structure Reported (before after : Pipeline) : Prop where
  files : after.files = before.files
  calls : after.dispatcher.calls = before.dispatcher.calls
  pending : ∀ address, before.IsPending address → after.IsPending address
  doomed : ∀ address, before.IsDoomed address → after.IsDoomed address
  told : ∀ address : Address, address.IsProper →
    after.store.find? address = before.store.find? address ∨
      (∃ zone, after.store.find? address = some zone) ∧ after.IsPending address ∨
        after.store.find? address = none ∧ after.IsDoomed address

theorem report_eq_some {change : Change} {shuffle : Shuffle Resource}
    (performed : before.perform? (.report change shuffle) = some after) :
    ∃ store, before.store.accept? change = some store ∧ after =
      { announcer := (before.announcer.announce .zone change shuffle).announcer
        channel := before.channel ++ (before.announcer.announce .zone change shuffle).events
        dispatcher :=
          { before.dispatcher with
            world :=
              { before.dispatcher.world with
                zones := { before.dispatcher.world.zones with store } }
            notices := before.dispatcher.notices ++
              (before.announcer.announce .zone change shuffle).notices } } := by
  obtain ⟨world, accepted, rfl⟩ := Option.map_eq_some_iff.1 performed
  obtain ⟨store, acceptedStore, rfl⟩ := Option.map_eq_some_iff.1 accepted
  exact ⟨store, acceptedStore, rfl⟩

section Report

variable {change : Change} {shuffle : Shuffle Resource} (sound : before.IsSound handler P)
  (zones : ∀ resource, P resource → resource.IsZone)
  (reported : ∀ resource, change.resource? = some resource → P resource)
  (performed : before.perform? (.report change shuffle) = some after)
include sound zones reported performed

theorem reported_of_report : Reported before after := by
  obtain ⟨store, accepted, rfl⟩ := report_eq_some performed
  refine ⟨rfl, rfl, ?_, ?_, fun address proper => ?_⟩
  · rintro address (announced | queued)
    · exact Or.inl (List.mem_append_left _ announced)
    · exact Or.inr queued
  · rintro address (⟨gone, here, announced⟩ | kept)
    · exact Or.inl ⟨gone, here, List.mem_append_left _ announced⟩
    · exact Or.inr kept
  · have told : Announcer.Told address before.store store
        (before.announcer.announce .zone change shuffle).events :=
      Announcer.told_announce proper (sound.stored.mono zones) sound.follows
        (fun resource found => zones resource (reported resource found)) accepted
    cases told with
    | same unchanged => exact Or.inl unchanged
    | applied zone found told =>
        exact Or.inr (Or.inl ⟨⟨zone, found⟩, Or.inl (List.mem_append_right _ told)⟩)
    | deleted gone here absent told =>
        exact Or.inr (Or.inr ⟨absent, Or.inl ⟨gone, here, List.mem_append_right _ told⟩⟩)

theorem IsSound.report : after.IsSound handler P := by
  have plain (resource : Resource) (holds : P resource) : resource.IsPlain := by
    obtain ⟨address, here⟩ := zones resource holds
    exact here.isPlain
  obtain ⟨store, accepted, rfl⟩ := report_eq_some performed
  obtain ⟨known, toldOf⟩ := sound.known.announce reported
  have toldAll : ∀ gone, .deleted gone ∈ before.channel ++
      (before.announcer.announce .zone change shuffle).events → P gone := by
    intro gone present
    rcases List.mem_append.1 present with earlier | fresh
    · exact sound.toldOf gone earlier
    · exact toldOf gone fresh
  have stored : store.All P := sound.stored.accept accepted reported
  exact
    { idle := ⟨sound.idle.sound, sound.idle.processing, sound.idle.unbroken⟩
      running := sound.running
      serves := ⟨sound.serves.handled, sound.serves.faultless, stored.mono zones⟩
      told := fun gone present => plain gone (toldAll gone present)
      buried := sound.buried
      stored := stored
      known := known
      follows := sound.follows.announce
        (fun resource found => zones resource (reported resource found)) accepted
      toldOf := toldAll
      kept := sound.kept
      created := sound.created }

end Report

theorem IsSound.deliver (sound : before.IsSound handler P)
    (delivered : before.perform? .deliver = some after) : after.IsSound handler P := by
  have steady := sound.toIsSteady.deliver delivered
  obtain ⟨event, channel, shape, rfl⟩ := deliver_eq_some delivered
  have observed := Dispatcher.observed_observe event before.dispatcher
  have storeEq : Pipeline.store
      { before with channel, dispatcher := before.dispatcher.observe event } = before.store := by
    unfold Pipeline.store
    rw [observed.world]
  refine { steady with
    stored := ?_
    known := sound.known
    follows := ?_
    toldOf := fun gone present => ?_
    kept := fun key gone held => ?_
    created := ?_ }
  · rw [storeEq]
    exact sound.stored
  · rw [storeEq]
    exact sound.follows
  · apply sound.toldOf
    rw [shape]
    exact List.mem_cons_of_mem event present
  · rcases observed.buried key gone held with earlier | ⟨rfl, keyed⟩
    · exact sound.kept key gone earlier
    · refine ⟨keyed, sound.toldOf gone ?_⟩
      rw [shape]
      exact List.mem_cons_self
  · rw [observed.calls]
    exact sound.created

theorem IsSound.wait {instant : Duration} (sound : before.IsSound handler P)
    (waited : before.perform? (.wait instant) = some after) : after.IsSound handler P := by
  have steady := sound.toIsSteady.wait waited
  obtain rfl := Option.some.inj waited
  exact { steady with
    stored := sound.stored
    known := sound.known
    follows := sound.follows
    toldOf := sound.toldOf
    kept := sound.kept
    created := sound.created }

theorem Passed.sound {key : ResourceKey} {fresh : List HandlerCall}
    (passed : Passed handler key fresh before after) (sound : before.IsSound handler P) :
    after.IsSound handler P := by
  refine { passed.steady sound.toIsSteady with
    stored := passed.store ▸ sound.stored
    known := passed.announcer ▸ sound.known
    follows := ?_
    toldOf := fun gone present => sound.toldOf gone (passed.channel ▸ present)
    kept := fun other gone held => sound.kept other gone (passed.worked.buried other gone held)
    created := fun call present creating => ?_ }
  · rw [passed.store, passed.announcer]
    exact sound.follows
  · rw [passed.worked.callsEq] at present
    rcases List.mem_append.1 present with earlier | recent
    · exact sound.created call earlier creating
    · exact passed.worked.pass.created sound.serves.zones sound.stored call recent creating

theorem calls_perform {move : Move} (performed : before.perform? move = some after) :
    before.dispatcher.calls <+: after.dispatcher.calls := by
  cases move with
  | report change shuffle =>
      obtain ⟨store, -, rfl⟩ := report_eq_some performed
      exact List.prefix_refl _
  | deliver =>
      obtain ⟨event, channel, -, rfl⟩ := deliver_eq_some performed
      have observed := Dispatcher.observed_observe event before.dispatcher
      exact ⟨[], by rw [List.append_nil, observed.calls]⟩
  | work shuffle =>
      obtain ⟨⟨key, result, dispatcher⟩, stepped, rfl⟩ := Option.map_eq_some_iff.1 performed
      obtain ⟨rest, passed, -, passedEq, -, -, -, calls, -⟩ := Dispatcher.step_eq_some stepped
      dsimp only
      rw [calls, passedEq]
      have kept := Dispatcher.kept_reconcile World.backend key
        { before.dispatcher.reorder shuffle with queue := rest }
      exact kept.calls
  | wait instant =>
      obtain rfl := Option.some.inj performed
      exact List.prefix_refl _

theorem calls_run {moves : List Move} (ran : before.run? moves = some after) :
    before.dispatcher.calls <+: after.dispatcher.calls := by
  induction moves generalizing before with
  | nil =>
      obtain rfl := Option.some.inj ran
      exact List.prefix_refl _
  | cons move moves ih =>
      obtain ⟨next, performed, rest⟩ := Option.bind_eq_some_iff.1 ran
      exact (calls_perform performed).trans (ih rest)

/-- What every move keeps in which no call fails, every run keeps. -/
theorem run_keeps {Invariant : Pipeline → Prop} {moves : List Move}
    (kept : ∀ move ∈ moves, ∀ before after : Pipeline, before.perform? move = some after →
      SucceedFrom before.dispatcher.calls after.dispatcher.calls → Invariant before →
        Invariant after)
    (ran : before.run? moves = some after)
    (succeeded : SucceedFrom before.dispatcher.calls after.dispatcher.calls)
    (holds : Invariant before) : Invariant after := by
  induction moves generalizing before with
  | nil =>
      obtain rfl := Option.some.inj ran
      exact holds
  | cons move moves ih =>
      obtain ⟨next, performed, rest⟩ := Option.bind_eq_some_iff.1 ran
      obtain ⟨first, later⟩ := succeeded.of_prefix (calls_perform performed) (calls_run rest)
      have holdsNext := kept move List.mem_cons_self before next performed first holds
      exact ih (fun other present => kept other (List.mem_cons_of_mem move present)) rest later
        holdsNext

/-- The reports among some moves are of resources with a property. -/
def OnlyReports (P : Resource → Prop) (moves : List Move) : Prop :=
  ∀ change shuffle, .report change shuffle ∈ moves →
    ∀ resource, change.resource? = some resource → P resource

/-- What the three kinds of move keep, every run keeps. -/
theorem run_induction {Invariant : Pipeline → Prop}
    (zones : ∀ resource, P resource → resource.IsZone)
    (bided : ∀ before after, before.IsSound handler P → Bided before after → Invariant before →
      Invariant after)
    (reported : ∀ before after, before.IsSound handler P → after.IsSound handler P →
      Reported before after → Invariant before → Invariant after)
    (passed : ∀ before after key fresh, before.IsSound handler P →
      Passed handler key fresh before after → Invariant before → Invariant after)
    {moves : List Move} (ran : before.run? moves = some after) (only : OnlyReports P moves)
    (succeeded : SucceedFrom before.dispatcher.calls after.dispatcher.calls)
    (sound : before.IsSound handler P) (holds : Invariant before) :
    after.IsSound handler P ∧ Invariant after := by
  have kept : ∀ move ∈ moves, ∀ before after : Pipeline, before.perform? move = some after →
      SucceedFrom before.dispatcher.calls after.dispatcher.calls →
        before.IsSound handler P ∧ Invariant before →
          after.IsSound handler P ∧ Invariant after := by
    rintro move present before after performed succeeded ⟨sound, holds⟩
    cases move with
    | report change shuffle =>
        have told := reported_of_report sound zones (only change shuffle present) performed
        have soundAfter := sound.report zones (only change shuffle present) performed
        exact ⟨soundAfter, reported before after sound soundAfter told holds⟩
    | deliver =>
        exact ⟨sound.deliver performed,
          bided before after sound (bided_of_deliver sound.running performed) holds⟩
    | work shuffle =>
        obtain ⟨key, fresh, pass⟩ := passed_of_work sound.toIsSteady performed succeeded
        exact ⟨pass.sound sound, passed before after key fresh sound pass holds⟩
    | wait instant =>
        exact ⟨sound.wait performed,
          bided before after sound (bided_of_wait performed) holds⟩
  exact run_keeps kept ran succeeded ⟨sound, holds⟩

theorem sound_start (backoff : Backoff) (handler : Handler) (files : Files) :
    (start backoff handler files).IsSound handler P where
  idle := ⟨WorkQueue.isSound_withBackoff backoff, rfl, rfl⟩
  running := rfl
  serves := ⟨rfl, rfl, Store.all_empty _⟩
  told := by simp [start]
  buried := by
    intro key gone held
    simp [start] at held
  stored := Store.all_empty P
  known := Announcer.all_empty P
  follows := Announcer.follows_empty
  toldOf := by simp [start]
  kept := by
    intro key gone held
    simp [start] at held
  created := by simp [start]

section Rest

variable {pipeline : Pipeline} (steady : pipeline.IsSteady handler)
  (observed : pipeline.channel = []) (worked : pipeline.dispatcher.queue.line = [])
include steady worked

theorem IsSteady.dirty_eq_nil : pipeline.dispatcher.queue.dirty = [] := by
  rw [List.eq_nil_iff_forall_not_mem]
  intro key present
  have waiting := (steady.idle.sound.mem_line_iff key).2 ⟨present, by simp [steady.idle.processing]⟩
  rw [worked] at waiting
  contradiction

include observed

/-- When all events are observed and all keys worked off, nothing is to come. -/
theorem IsSteady.not_isPending (address : Address) : ¬ pipeline.IsPending address := by
  rintro (announced | queued)
  · rw [observed] at announced
    contradiction
  · rw [steady.dirty_eq_nil worked] at queued
    contradiction

theorem IsSteady.not_isDoomed (address : Address) : ¬ pipeline.IsDoomed address := by
  rintro (⟨gone, -, announced⟩ | ⟨-, queued⟩)
  · rw [observed] at announced
    contradiction
  · rw [steady.dirty_eq_nil worked] at queued
    contradiction

end Rest

end ZoneKeeper.Pipeline
