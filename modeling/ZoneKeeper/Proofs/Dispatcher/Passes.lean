import ZoneKeeper.Proofs.Dispatcher.Calls
import ZoneKeeper.Proofs.Dispatcher.Directory
import ZoneKeeper.Proofs.Store.Contents

/-!
# Passes over the caches

Over caches that answer and a handler that does not fail, there are three kinds of pass: a pass with
nothing to do, the deletion of a zone that is gone, which queues all zones that could take over its
name, and the settling of a zone that is there, among all zones of its namespace that declare the
same name.  The zones of a namespace are listed in any order.
-/

namespace ZoneKeeper

/-- Every object that is kept stands under its own key and has a property. -/
def Tombstones.All (P : Resource → Prop) (tombstones : Tombstones) : Prop :=
  ∀ key gone, tombstones.get? key = some gone → gone.key = .ok key ∧ P gone

/-- What is kept under the key of an address was last seen at this address. -/
theorem Tombstones.All.isAt {P : Resource → Prop} {tombstones : Tombstones}
    (buried : tombstones.All P) {key : ResourceKey} {address : Address}
    (addressed : key.address = .ok address) {gone : Resource}
    (kept : tombstones.get? key = some gone) : gone.IsAt address ∧ gone.kind = key.kind := by
  obtain ⟨here, kindEq, -⟩ :=
    Resource.isAt_of_key_of_address (buried key gone kept).1 addressed
  exact ⟨here, kindEq⟩

/-- The caches hold zones and answer, and there is a handler. -/
structure World.Serves (world : World) (handler : Handler) : Prop where
  handled : world.handler = some handler
  faultless : world.faults = {}
  zones : world.zones.store.All Resource.IsZone

theorem World.Serves.alike {before after : World} {handler : Handler}
    (serves : before.Serves handler) (alike : before.Alike after) : after.Serves handler where
  handled := alike.handler.trans serves.handled
  faultless := alike.faults.trans serves.faultless
  zones := by
    rw [alike.zones]
    exact serves.zones

namespace Dispatcher

/-- What a pass for a key comes upon in the store and among the tombstones, the calls it makes, and
what it leaves to be done. -/
inductive Pass (store : Store) (tombstones : Tombstones) (key : ResourceKey)
    (dirty : List ResourceKey) : List HandlerCall → Prop
  | nothing (records : List Resource)
      (unknown : ∀ address : Address, address.IsProper → key = address.zoneKey →
        store.find? address = none ∧ tombstones.get? key = none)
      (ofRecords : ∀ record ∈ records, record.kind = .record) :
      Pass store tombstones key dirty (records.map deleting)
  | deletion (address : Address) (gone : Resource) (keyEq : key = address.zoneKey)
      (absent : store.find? address = none) (buried : tombstones.get? key = some gone)
      (here : gone.IsZoneAt address)
      (handedOver : ∀ zone ∈ store.list address.space, gone.rivals zone = true →
        ∀ other, zone.key = .ok other → other ∈ dirty) :
      Pass store tombstones key dirty [deleting gone]
  | settling (address : Address) (zone : Resource) (zones : List Resource)
      (keyEq : key = address.zoneKey) (found : store.find? address = some zone)
      (listed : zones.Perm (store.list address.space)) :
      Pass store tombstones key dirty
        ((tombstones.get? key).toList.map deleting ++ settlement zone zones)

variable {key : ResourceKey} {state : Dispatcher World}

theorem list_zones_eq (faultless : state.world.faults = {}) (space : String) :
    state.list World.backend .zone space =
      (.ok (state.world.shuffle.arrange (state.world.zones.store.list space)), state) := by
  simp [Dispatcher.list, World.backend, World.list, World.cache, faultless]

theorem lookup_eq {address : Address} (faultless : state.world.faults = {})
    (addressed : key.address = .ok address) :
    state.lookup World.backend key =
      (.ok ((state.world.cache key.kind).store.find? address), state) := by
  have parsed : Address.parse key.path = .ok address := addressed
  simp [Dispatcher.lookup, World.backend, World.lookup, Store.lookup, faultless, parsed]

/-- Exactly the zones that declare the name of a zone that is gone get queued, whatever the handler
has done before. -/
theorem mem_dirty_handOver_iff {asked : Dispatcher World} {gone : Resource} {space : String}
    {other : ResourceKey} (alike : state.world.Alike asked.world)
    (agrees : asked.queue.Agrees state.queue) (faultless : state.world.faults = {})
    (running : state.queue.shuttingDown = false) (spaced : gone.space? = some space) :
    other ∈ (asked.handOver World.backend gone).queue.dirty ↔
      other ∈ state.queue.dirty ∨ ∃ zone ∈ state.world.zones.store.list space,
        gone.rivals zone = true ∧ zone.key = .ok other := by
  unfold handOver
  rw [spaced]
  dsimp only
  rw [list_zones_eq (alike.faults.trans faultless), alike.zones, ← agrees.dirty]
  simp only [mem_dirty_handOverAll_iff (agrees.shuttingDown.trans running), List.mem_filter,
    Shuffle.mem_arrange, and_assoc]

theorem mem_dirty_handleDeletion_iff {gone : Resource} {space : String} {other : ResourceKey}
    (buried : state.tombstones.get? key = some gone) (ofZone : gone.kind = .zone)
    (faultless : state.world.faults = {}) (running : state.queue.shuttingDown = false)
    (spaced : gone.space? = some space) :
    other ∈ (state.handleDeletion World.backend key).2.queue.dirty ↔
      other ∈ state.queue.dirty ∨ ∃ zone ∈ state.world.zones.store.list space,
        gone.rivals zone = true ∧ zone.key = .ok other := by
  unfold handleDeletion
  rw [buried]
  dsimp only
  rw [if_pos ofZone]
  generalize deleted : (((state.note .deletionDetected).call World.backend .deleted
    gone).2.dropTombstone key).forget key = asked
  obtain ⟨alike, agrees⟩ : state.world.Alike asked.world ∧ asked.queue.Agrees state.queue := by
    rw [← deleted]
    exact ⟨World.alike_handle state.world .deleted gone, rfl, rfl, rfl, rfl⟩
  have handed : other ∈ (asked.handOver World.backend gone).queue.dirty ↔ _ :=
    mem_dirty_handOver_iff alike agrees faultless running spaced
  split
  · exact handed
  · exact handed

/-- Whatever is deleted in a pass for a record, it is no zone. -/
theorem pass_of_record {P : Resource → Prop} {store : Store} {tombstones : Tombstones}
    {dirty : List ResourceKey} {address : Address} (buried : tombstones.All P)
    (addressed : key.address = .ok address) (kindEq : key.kind = .record) :
    Pass store tombstones key dirty ((tombstones.get? key).toList.map deleting) := by
  apply Pass.nothing
  · rintro other - rfl
    simp [Address.zoneKey] at kindEq
  · intro gone kept
    rw [Option.mem_toList] at kept
    exact (buried.isAt addressed kept).2.trans kindEq

variable {handler : Handler}

theorem pass_handleDeletion {address : Address} (serves : state.world.Serves handler)
    (buried : state.tombstones.All Resource.IsPlain) (running : state.queue.shuttingDown = false)
    (addressed : key.address = .ok address)
    (absent : key.kind = .zone → state.world.zones.store.find? address = none) :
    Pass state.world.zones.store state.tombstones key
      (state.handleDeletion World.backend key).2.queue.dirty
      ((state.tombstones.get? key).toList.map deleting) := by
  cases kindEq : key.kind with
  | record => exact pass_of_record buried addressed kindEq
  | zone =>
      have keyEq := ResourceKey.eq_zoneKey addressed kindEq
      cases kept : state.tombstones.get? key with
      | none =>
          refine Pass.nothing [] (fun other proper sameKey => ⟨?_, kept⟩) (by simp)
          rw [← Address.eq_of_zoneKey proper.toIsWellFormed keyEq sameKey]
          exact absent kindEq
      | some gone =>
          obtain ⟨here, goneKind⟩ := buried.isAt addressed kept
          have formed := (Address.parse_eq_ok_iff.1 addressed).2
          have proper := here.isProper formed (buried key gone kept).2
          refine Pass.deletion address gone keyEq (absent kindEq) kept
            ⟨here, goneKind.trans kindEq, proper⟩ fun zone present rivals other keyed => ?_
          exact (mem_dirty_handleDeletion_iff kept (goneKind.trans kindEq) serves.faultless running
            here.space?).2 (Or.inr ⟨zone, present, rivals, keyed⟩)

theorem calls_settle {address : Address} {zone : Resource}
    (faultless : state.world.faults = {}) (ofZone : key.kind = .zone)
    (succeeded : SucceedFrom state.calls
      (state.settle World.backend key address zone).2.calls) :
    (state.settle World.backend key address zone).2.calls = state.calls ++
      settlement zone (state.world.shuffle.arrange
        (state.world.zones.store.list address.space)) := by
  unfold settle at succeeded ⊢
  rw [ofZone, list_zones_eq faultless] at succeeded ⊢
  exact calls_settleZone succeeded

theorem calls_settle_record {address : Address} {record : Resource}
    (ofRecord : key.kind = .record) :
    (state.settle World.backend key address record).2.calls = state.calls := by
  unfold settle
  split
  · rename_i answered
    exact congrArg (fun result => result.2.calls) answered.symm
  · rename_i answered
    simp only [ofRecord]
    exact congrArg (fun result => result.2.calls) answered.symm

/-- A pass for an object that is there first deals with its earlier deletion; then a zone is
settled. -/
theorem calls_of_found {address : Address} {resource : Resource}
    (faultless : state.world.faults = {}) (addressed : key.address = .ok address)
    (found : (state.world.cache key.kind).store.find? address = some resource)
    (succeeded : SucceedFrom state.calls (state.reconcile World.backend key).2.calls) :
    ∃ zones, zones.Perm (state.world.zones.store.list address.space) ∧
      (state.reconcile World.backend key).2.calls = state.calls ++
        ((state.tombstones.get? key).toList.map deleting ++
          if key.kind = .zone then settlement resource zones else []) := by
  simp only [reconcile, addressed, lookup_eq faultless addressed, found] at succeeded ⊢
  have recreating : Acts World.backend key state
      (state.settleRecreated World.backend key resource.zoneName).2 :=
    acts_settleRecreated resource.zoneName
  have first : SucceedFrom state.calls
      (state.settleRecreated World.backend key resource.zoneName).2.calls → _ :=
    calls_settleRecreated
  cases answered : state.settleRecreated World.backend key resource.zoneName with
  | mk result middle =>
      rw [answered] at recreating first succeeded
      cases result with
      | error fault =>
          obtain ⟨impossible, -⟩ := first succeeded
          contradiction
      | ok =>
          have settling : Acts World.backend key middle
              (middle.settle World.backend key address resource).2 :=
            acts_settle address resource
          obtain ⟨early, late⟩ := succeeded.of_prefix (kept_of_acts recreating).calls
            (kept_of_acts settling).calls
          obtain ⟨-, calls⟩ := first early
          have alike := alike_of_acts recreating
          cases kindEq : key.kind with
          | zone =>
              have settled := calls_settle (alike.faults.trans faultless) kindEq late
              rw [alike.zones, calls, List.append_assoc] at settled
              exact ⟨_, middle.world.shuffle.perm _, settled⟩
          | record =>
              refine ⟨_, .refl _, ?_⟩
              simpa using (calls_settle_record kindEq).trans calls

/-- A whole pass in which no call fails. -/
theorem pass_reconcile (serves : state.world.Serves handler)
    (buried : state.tombstones.All Resource.IsPlain) (running : state.queue.shuttingDown = false)
    (succeeded : SucceedFrom state.calls (state.reconcile World.backend key).2.calls) :
    ∃ fresh, (state.reconcile World.backend key).2.calls = state.calls ++ fresh ∧
      Pass state.world.zones.store state.tombstones key
        (state.reconcile World.backend key).2.queue.dirty fresh := by
  cases addressed : key.address with
  | error fault =>
      rw [reconcile_of_malformed addressed]
      refine ⟨[], by simp [forget], Pass.nothing [] (fun address proper keyEq => ?_) (by simp)⟩
      rw [keyEq, Address.address_zoneKey proper.toIsWellFormed] at addressed
      contradiction
  | ok address =>
      cases found : (state.world.cache key.kind).store.find? address with
      | none =>
          have absent := lookup_eq serves.faultless addressed
          rw [found] at absent
          rw [reconcile_of_absent addressed absent] at succeeded ⊢
          refine ⟨_, calls_handleDeletion succeeded,
            pass_handleDeletion serves buried running addressed fun ofZone => ?_⟩
          rw [ofZone] at found
          exact found
      | some resource =>
          obtain ⟨zones, listed, called⟩ :=
            calls_of_found serves.faultless addressed found succeeded
          refine ⟨_, called, ?_⟩
          cases kindEq : key.kind with
          | zone =>
              rw [kindEq] at found
              exact Pass.settling address resource zones (ResourceKey.eq_zoneKey addressed kindEq)
                found listed
          | record => simpa using pass_of_record buried addressed kindEq

end Dispatcher

end ZoneKeeper
