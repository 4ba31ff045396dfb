import ZoneKeeper.Proofs.Dispatcher.Branches
import ZoneKeeper.Proofs.Queue.Restriction

/-!
# Dispatchers that hold the same of the zones

Two dispatchers may hold the same of the zones, and the second one nothing of the records.  A pass
for a zone then comes to the same in both of them.  A pass for a record that only the first one runs
changes nothing that both of them hold.
-/

namespace ZoneKeeper.Dispatcher

/-- The second dispatcher holds of the zones what the first one holds, and has made the same calls
for them. -/
structure Reflects {σ τ : Type} (state shadow : Dispatcher (σ × τ)) : Prop where
  queue : state.queue.Restricts ResourceKey.isOfZone shadow.queue
  world : shadow.world.1 = state.world.1
  calls : shadow.calls = state.calls.filter HandlerCall.isOfZone
  buried : ∀ key : ResourceKey, key.kind = .zone →
    shadow.tombstones.get? key = state.tombstones.get? key

/-- What has been done with two dispatchers came to the same, as far as zones are concerned. -/
structure Alike {σ τ α : Type} (outcome outcomeToo : α × Dispatcher (σ × τ)) : Prop where
  result : outcomeToo.1 = outcome.1
  reflects : Reflects outcome.2 outcomeToo.2

theorem Alike.exists_eq {σ τ α : Type} {outcome outcomeToo : α × Dispatcher (σ × τ)}
    (alike : Alike outcome outcomeToo) :
    ∃ answer after afterToo, outcome = (answer, after) ∧ outcomeToo = (answer, afterToo) ∧
      Reflects after afterToo := by
  obtain ⟨answer, after⟩ := outcome
  obtain ⟨answerToo, afterToo⟩ := outcomeToo
  obtain ⟨result, reflects⟩ := alike
  obtain rfl : answerToo = answer := result
  exact ⟨_, after, afterToo, rfl, rfl, reflects⟩

namespace Reflects

variable {σ τ : Type} (zones : Branch .zone σ) (records : Branch .record τ)
  {state shadow : Dispatcher (σ × τ)} {key : ResourceKey}

theorem note (reflects : Reflects state shadow) (notice : Notice) :
    Reflects (state.note notice) (shadow.note notice) :=
  ⟨reflects.queue, reflects.world, reflects.calls, reflects.buried⟩

theorem forget (reflects : Reflects state shadow) (key : ResourceKey) :
    Reflects (state.forget key) (shadow.forget key) :=
  ⟨reflects.queue.forget key, reflects.world, reflects.calls, reflects.buried⟩

theorem enqueue (reflects : Reflects state shadow) (ofZone : key.kind = .zone) :
    Reflects (state.enqueue key) (shadow.enqueue key) :=
  ⟨reflects.queue.add (ResourceKey.isOfZone_of_zone ofZone), reflects.world, reflects.calls,
    reflects.buried⟩

theorem dropTombstone (reflects : Reflects state shadow) (key : ResourceKey) :
    Reflects (state.dropTombstone key) (shadow.dropTombstone key) where
  queue := reflects.queue
  world := reflects.world
  calls := reflects.calls
  buried := by
    intro other ofZone
    simp only [Dispatcher.dropTombstone, Table.get?_erase, reflects.buried other ofZone]

theorem lookup (reflects : Reflects state shadow) (ofZone : key.kind = .zone) :
    Alike (state.lookup (zones.beside records) key)
      (shadow.lookup (zones.beside records) key) := by
  simp only [Dispatcher.lookup, Branch.beside, ofZone, reflects.world]
  exact ⟨rfl, reflects.queue, rfl, reflects.calls, reflects.buried⟩

theorem list (reflects : Reflects state shadow) (space : String) :
    Alike (state.list (zones.beside records) .zone space)
      (shadow.list (zones.beside records) .zone space) := by
  simp only [Dispatcher.list, Branch.beside, reflects.world]
  exact ⟨rfl, reflects.queue, rfl, reflects.calls, reflects.buried⟩

theorem call (reflects : Reflects state shadow) (operation : Operation) {resource : Resource}
    (ofZone : resource.kind = .zone) :
    Alike (state.call (zones.beside records) operation resource)
      (shadow.call (zones.beside records) operation resource) := by
  simp only [Dispatcher.call, Branch.beside, ofZone, reflects.world]
  refine ⟨rfl, reflects.queue, rfl, ?_, reflects.buried⟩
  dsimp only
  rw [List.filter_append, ← reflects.calls]
  simp [HandlerCall.isOfZone, ofZone]

theorem failHandler (reflects : Reflects state shadow) (key : ResourceKey) (operation : Operation)
    (error : HandlerError) :
    Alike (state.failHandler key operation error) (shadow.failHandler key operation error) :=
  ⟨rfl, reflects.queue.forget key, reflects.world, reflects.calls, reflects.buried⟩

theorem failLookup (reflects : Reflects state shadow) (ofZone : key.kind = .zone)
    (source : CacheError) :
    Alike (state.failLookup key source) (shadow.failLookup key source) := by
  have isOwn := ResourceKey.isOfZone_of_zone ofZone
  unfold Dispatcher.failLookup
  rw [reflects.queue.requeues key isOwn, reflects.queue.canDelay_eq isOwn]
  dsimp only
  split
  · refine ⟨rfl, ?_⟩
    dsimp only
    split
    · exact ⟨reflects.queue.addRateLimited isOwn, reflects.world, reflects.calls, reflects.buried⟩
    · exact ⟨reflects.queue, reflects.world, reflects.calls, reflects.buried⟩
  · exact ⟨rfl, reflects.forget key⟩

theorem handOverAll (reflects : Reflects state shadow) {others : List Resource}
    (listed : ∀ zone ∈ others, zone.kind = .zone) :
    Reflects (others.foldl handOverTo state) (others.foldl handOverTo shadow) := by
  induction others generalizing state shadow with
  | nil => exact reflects
  | cons zone others ih =>
      obtain ⟨ofZone, listedRest⟩ := List.forall_mem_cons.1 listed
      refine ih ?_ listedRest
      unfold handOverTo
      cases keyed : zone.key with
      | error fault => exact reflects.note _
      | ok key => exact (reflects.note _).enqueue ((Resource.key_kind keyed).trans ofZone)

theorem handOver (reflects : Reflects state shadow) (gone : Resource) :
    Reflects (state.handOver (zones.beside records) gone)
      (shadow.handOver (zones.beside records) gone) := by
  unfold Dispatcher.handOver
  cases gone.space? with
  | none => exact reflects
  | some space =>
      have kinds : ∀ others, (state.list (zones.beside records) .zone space).1 = .ok others → _ :=
        fun others => kind_of_listed zones records
      obtain ⟨answer, after, afterToo, told, toldToo, reflectsToo⟩ :=
        (reflects.list zones records space).exists_eq
      rw [told] at kinds
      dsimp only
      rw [told, toldToo]
      cases answer with
      | error fault => exact reflectsToo.note _
      | ok others =>
          exact reflectsToo.handOverAll fun zone rival =>
            kinds others rfl zone (List.mem_filter.1 rival).1

theorem handOver_if (reflects : Reflects state shadow) (condition : Prop) [Decidable condition]
    (gone : Resource) :
    Reflects (if condition then state.handOver (zones.beside records) gone else state)
      (if condition then shadow.handOver (zones.beside records) gone else shadow) := by
  split
  · exact reflects.handOver zones records gone
  · exact reflects

theorem handleDeletion (reflects : Reflects state shadow) (ofZone : key.kind = .zone)
    (buried : ∀ gone, state.tombstones.get? key = some gone → gone.kind = .zone) :
    Alike (state.handleDeletion (zones.beside records) key)
      (shadow.handleDeletion (zones.beside records) key) := by
  unfold Dispatcher.handleDeletion
  rw [reflects.buried key ofZone]
  cases kept : state.tombstones.get? key with
  | none => exact ⟨rfl, reflects.forget key⟩
  | some gone =>
      have called :=
        (reflects.note .deletionDetected).call zones records .deleted (buried gone kept)
      obtain ⟨answer, after, afterToo, told, toldToo, reflectsToo⟩ := called.exists_eq
      dsimp only
      rw [told, toldToo]
      have handed := ((reflectsToo.dropTombstone key).forget key).handOver_if zones records
        (gone.kind = .zone) gone
      cases answer with
      | ok => exact ⟨rfl, handed⟩
      | error error => exact ⟨rfl, (handed.failHandler key .deleted error).reflects⟩

theorem settleRecreated (reflects : Reflects state shadow) (ofZone : key.kind = .zone)
    (buried : ∀ gone, state.tombstones.get? key = some gone → gone.kind = .zone)
    (zoneName : String) :
    Alike (state.settleRecreated (zones.beside records) key zoneName)
      (shadow.settleRecreated (zones.beside records) key zoneName) := by
  unfold Dispatcher.settleRecreated
  rw [reflects.buried key ofZone]
  cases kept : state.tombstones.get? key with
  | none => exact ⟨rfl, reflects⟩
  | some gone =>
      have called := ((reflects.dropTombstone key).note .recreated).call zones records .deleted
        (buried gone kept)
      obtain ⟨answer, after, afterToo, told, toldToo, reflectsToo⟩ := called.exists_eq
      dsimp only
      rw [told, toldToo]
      have handed := reflectsToo.handOver_if zones records
        ((gone.kind = .zone && gone.zoneName ≠ zoneName) = true) gone
      cases answer with
      | ok => exact ⟨rfl, handed⟩
      | error error => exact ⟨rfl, (handed.failHandler key .deleted error).reflects⟩

theorem retire (reflects : Reflects state shadow) {losers : List Resource}
    (ofZones : ∀ loser ∈ losers, loser.kind = .zone) :
    Alike (state.retire (zones.beside records) losers)
      (shadow.retire (zones.beside records) losers) := by
  induction losers generalizing state shadow with
  | nil => exact ⟨rfl, reflects⟩
  | cons loser losers ih =>
      obtain ⟨ofZone, others⟩ := List.forall_mem_cons.1 ofZones
      obtain ⟨answer, after, afterToo, told, toldToo, reflectsToo⟩ :=
        (reflects.call zones records .deleted ofZone).exists_eq
      rw [Dispatcher.retire, Dispatcher.retire, told, toldToo]
      cases answer with
      | error error => exact ⟨rfl, reflectsToo⟩
      | ok => exact ih reflectsToo others

theorem settleZone (reflects : Reflects state shadow) (key : ResourceKey) {zone : Resource}
    {others : List Resource} (ofZone : zone.kind = .zone)
    (listed : ∀ other ∈ others, other.kind = .zone) :
    Alike (state.settleZone (zones.beside records) key zone others)
      (shadow.settleZone (zones.beside records) key zone others) := by
  have owned : (canonical zone others).kind = .zone := kind_canonical ofZone listed
  have noted : Reflects
      (if (canonical zone others).nameAny ≠ zone.nameAny then
        state.note (.claimedByOlderZone zone.zoneName (canonical zone others).nameAny) else state)
      (if (canonical zone others).nameAny ≠ zone.nameAny then
        shadow.note (.claimedByOlderZone zone.zoneName (canonical zone others).nameAny)
        else shadow) := by
    split
    · exact reflects.note _
    · exact reflects
  obtain ⟨answer, middle, middleToo, told, toldToo, reflectsToo⟩ :=
    (noted.call zones records .created owned).exists_eq
  unfold Dispatcher.settleZone
  dsimp only
  rw [told, toldToo]
  cases answer with
  | error error => exact ⟨rfl, (reflectsToo.failHandler key .created error).reflects⟩
  | ok =>
      have ofZones : ∀ loser ∈ superseded zone (canonical zone others) others,
          loser.kind = .zone := kind_of_mem_superseded ofZone listed
      obtain ⟨answer, after, afterToo, told, toldToo, reflectsLast⟩ :=
        (reflectsToo.retire zones records ofZones).exists_eq
      dsimp only
      rw [told, toldToo]
      cases answer with
      | error error => exact ⟨rfl, (reflectsLast.failHandler key .deleted error).reflects⟩
      | ok => exact ⟨rfl, reflectsLast.forget key⟩

theorem settle (reflects : Reflects state shadow) (ofZone : key.kind = .zone) (address : Address)
    {zone : Resource} (here : zone.kind = .zone) :
    Alike (state.settle (zones.beside records) key address zone)
      (shadow.settle (zones.beside records) key address zone) := by
  have kinds : ∀ others, (state.list (zones.beside records) .zone address.space).1 = .ok others →
    _ := fun others => kind_of_listed zones records
  obtain ⟨answer, after, afterToo, told, toldToo, reflectsToo⟩ :=
    (reflects.list zones records address.space).exists_eq
  rw [told] at kinds
  unfold Dispatcher.settle
  rw [ofZone, told, toldToo]
  cases answer with
  | error source => exact ⟨rfl, reflectsToo.forget key⟩
  | ok others => exact reflectsToo.settleZone zones records key here (kinds others rfl)

theorem reconcile (reflects : Reflects state shadow) (ofZone : key.kind = .zone)
    (buried : ∀ gone, state.tombstones.get? key = some gone → gone.kind = .zone) :
    Alike (state.reconcile (zones.beside records) key)
      (shadow.reconcile (zones.beside records) key) := by
  unfold Dispatcher.reconcile
  cases key.address with
  | error fault => exact ⟨rfl, reflects.forget key⟩
  | ok address =>
      have kinds : ∀ zone, (state.lookup (zones.beside records) key).1 = .ok (some zone) → _ :=
        fun zone => kind_of_found zones records
      have sameTombstones : (state.lookup (zones.beside records) key).2.tombstones =
        state.tombstones := rfl
      obtain ⟨answer, asked, askedToo, told, toldToo, reflectsToo⟩ :=
        (reflects.lookup zones records ofZone).exists_eq
      rw [told] at kinds sameTombstones
      rw [← sameTombstones] at buried
      dsimp only
      rw [told, toldToo]
      cases answer with
      | error source =>
          obtain ⟨result, failed⟩ := reflectsToo.failLookup ofZone source
          exact ⟨congrArg Except.error result, failed⟩
      | ok found =>
          cases found with
          | none => exact reflectsToo.handleDeletion zones records ofZone buried
          | some zone =>
              obtain ⟨answer, after, afterToo, told, toldToo, reflectsLast⟩ :=
                (reflectsToo.settleRecreated zones records ofZone buried zone.zoneName).exists_eq
              dsimp only
              rw [told, toldToo]
              cases answer with
              | error failure => exact ⟨rfl, reflectsLast⟩
              | ok =>
                  exact reflectsLast.settle zones records ofZone address
                    ((kinds zone rfl).trans ofZone)

end Reflects

section Passes

variable {σ τ : Type} (zones : Branch .zone σ) (records : Branch .record τ)
  {state shadow : Dispatcher (σ × τ)} {key : ResourceKey}

theorem Reflects.isBroken_reconcile (reflects : Reflects state shadow) (ofZone : key.kind = .zone)
    (unbroken : state.isBroken = false) (unbrokenToo : shadow.isBroken = false) :
    (shadow.reconcile (zones.beside records) key).2.isBroken =
      (state.reconcile (zones.beside records) key).2.isBroken := by
  have same := (reflects.lookup zones records ofZone).result
  rcases answers_or_unanswered (zones.beside records) key state with
    answers | ⟨address, source, addressed, unanswered⟩
  · have answersToo := answers
    rw [← same] at answersToo
    rw [isBroken_of_acts (acts_reconcile answers), isBroken_of_acts (acts_reconcile answersToo),
      unbroken, unbrokenToo]
  · have isOwn := ResourceKey.isOfZone_of_zone ofZone
    rw [reconcile_of_unanswered addressed unanswered,
      reconcile_of_unanswered addressed (same.trans unanswered)]
    dsimp only
    rw [isBroken_failLookup, isBroken_failLookup, queue_lookup, queue_lookup,
      reflects.queue.requeues key isOwn, reflects.queue.canDelay_eq isOwn]
    exact congrArg (· || _) (unbrokenToo.trans unbroken.symm)

theorem Reflects.process (reflects : Reflects state shadow) (ofZone : key.kind = .zone)
    (buried : ∀ gone, state.tombstones.get? key = some gone → gone.kind = .zone)
    (unbroken : state.isBroken = false) (unbrokenToo : shadow.isBroken = false) :
    Alike (state.process (zones.beside records) key)
      (shadow.process (zones.beside records) key) := by
  have alike := reflects.reconcile zones records ofZone buried
  have sameEnd := reflects.isBroken_reconcile zones records ofZone unbroken unbrokenToo
  refine ⟨by rw [process_result, process_result, alike.result], ?_, ?_, ?_, fun other isZone => ?_⟩
  · rw [process_queue, process_queue, sameEnd]
    split
    · exact alike.reflects.queue
    · exact alike.reflects.queue.done (ResourceKey.isOfZone_of_zone ofZone)
  · rw [process_world, process_world]
    exact alike.reflects.world
  · rw [process_calls, process_calls]
    exact alike.reflects.calls
  · rw [process_tombstones, process_tombstones]
    exact alike.reflects.buried other isZone

theorem Reflects.process_of_record (reflects : Reflects state shadow)
    (ofRecord : key.kind = .record)
    (buried : ∀ gone, state.tombstones.get? key = some gone → gone.kind = .record) :
    Reflects (state.process (zones.beside records) key).2 shadow := by
  have foreign := ResourceKey.isOfZone_of_record ofRecord
  have worked : (state.reconcile (zones.beside records) key).2.queue.Restricts
      ResourceKey.isOfZone shadow.queue := by
    rcases answers_or_unanswered (zones.beside records) key state with
      answers | ⟨address, source, addressed, unanswered⟩
    · rw [queue_reconcile answers, handedOver_of_record zones records buried]
      exact reflects.queue.forget_of_foreign foreign
    · rw [queue_reconcile_of_unanswered addressed unanswered]
      split
      · split
        · exact reflects.queue.addRateLimited_of_foreign foreign
        · exact reflects.queue
      · exact reflects.queue.forget_of_foreign foreign
  refine ⟨?_, ?_, ?_, fun other ofZone => ?_⟩
  · rw [process_queue]
    split
    · exact worked
    · exact worked.done_of_foreign foreign
  · rw [zoneWorld_process zones records ofRecord buried]
    exact reflects.world
  · rw [← ofRecord] at buried
    obtain ⟨calls, called, suit⟩ := suited_process zones records buried
    have none_ofZone : calls.filter HandlerCall.isOfZone = [] := by
      apply List.filter_eq_nil_iff.2
      intro call present
      simp [HandlerCall.isOfZone, (suit call present).kind_eq, ofRecord]
    rw [called, List.filter_append, none_ofZone, List.append_nil]
    exact reflects.calls
  · have apart : other ≠ key := by
      rintro rfl
      rw [ofRecord] at ofZone
      contradiction
    rw [process_tombstones, (kept_reconcile (zones.beside records) key state).others other apart]
    exact reflects.buried other ofZone

end Passes

end ZoneKeeper.Dispatcher
