import ZoneKeeper.Proofs.Canonical.Stability
import ZoneKeeper.Proofs.Dispatcher.Passes

/-!
# What a pass settles

A pass for a zone settles the whole group of zones that declare its name in its namespace: the
owner is materialized and nothing is held of any other.  No pass changes what is held of a zone
outside the group that it settles.
-/

namespace ZoneKeeper

theorem Resource.IsZoneAt.isPlain {resource : Resource} {address : Address}
    (here : resource.IsZoneAt address) : resource.IsPlain := by
  intro space spaced
  rw [here.toIsAt.space?] at spaced
  obtain rfl := Option.some.inj spaced
  exact here.proper.underscore_not_mem_space

/-- Whether a call materializes a zone for a zone name of a namespace. -/
def HandlerCall.Materializes (call : HandlerCall) (space zoneName : String) : Prop :=
  call.operation = .created ∧ call.resource.space? = some space ∧ call.resource.zoneName = zoneName

instance (call : HandlerCall) (space zoneName : String) :
    Decidable (call.Materializes space zoneName) :=
  inferInstanceAs (Decidable (_ ∧ _ ∧ _))

/-- The zone that was last materialized for a zone name of a namespace. -/
def incumbent (calls : List HandlerCall) (space zoneName : String) : Option Resource :=
  ((calls.filter fun call => call.Materializes space zoneName).getLast?).map HandlerCall.resource

namespace Dispatcher

theorem incumbent_append_deletions (calls : List HandlerCall) (zones : List Resource)
    (space zoneName : String) :
    incumbent (calls ++ zones.map deleting) space zoneName = incumbent calls space zoneName := by
  have none : (zones.map deleting).filter (fun call => call.Materializes space zoneName) = [] := by
    simp [List.filter_eq_nil_iff, HandlerCall.Materializes, deleting]
  unfold incumbent
  rw [List.filter_append, none, List.append_nil]

theorem incumbent_concat (calls : List HandlerCall) (owner : Resource) (space zoneName : String) :
    incumbent (calls ++ [⟨.created, owner, .ok ()⟩]) space zoneName =
      if owner.space? = some space ∧ owner.zoneName = zoneName then some owner
      else incumbent calls space zoneName := by
  unfold incumbent
  rw [List.filter_append]
  by_cases claims : owner.space? = some space ∧ owner.zoneName = zoneName
  · simp [HandlerCall.Materializes, claims]
  · simp [HandlerCall.Materializes, claims]

theorem mem_superseded_iff {zone owner other : Resource} {zones : List Resource}
    (present : zone ∈ zones) : other ∈ superseded zone owner zones ↔
      other ∈ zones ∧ other.zoneName = zone.zoneName ∧ other.nameAny ≠ owner.nameAny := by
  have losers : other ∈ zones.filter (fun other =>
      other.zoneName = zone.zoneName && other.nameAny ≠ owner.nameAny) ↔
        other ∈ zones ∧ other.zoneName = zone.zoneName ∧ other.nameAny ≠ owner.nameAny := by
    simp
  rw [← losers]
  unfold superseded
  dsimp only
  split
  · rename_i missing
    -- The zone is itself among the losers, so it is not added to them once more.
    simp only [Bool.and_eq_true, decide_eq_true_eq, Bool.not_eq_true', List.any_eq_false,
      List.mem_filter] at missing
    obtain ⟨apart, lost⟩ := missing
    exact absurd rfl (lost zone ⟨present, rfl, apart⟩)
  · rfl

variable {handler : Handler} {store : Store} {tombstones : Tombstones} {key : ResourceKey}
  {dirty : List ResourceKey} {calls : List HandlerCall} {listing : List Resource}

/-- In whatever order the zones are listed, the owner of the name is the same. -/
theorem settlement_eq (zones : store.All Resource.IsZone) {space : String}
    (listed : listing.Perm (store.list space)) (zone : Resource) :
    settlement zone listing = ⟨.created, canonical zone (store.list space), .ok ()⟩ ::
      (superseded zone (canonical zone (store.list space)) listing).map deleting := by
  rw [settlement, canonical_of_perm (Store.namesApart_list zones space) listed]

theorem mem_superseded_listing_iff {space : String} {zone owner other : Resource}
    (listed : listing.Perm (store.list space)) (present : zone ∈ store.list space) :
    other ∈ superseded zone owner listing ↔ other ∈ store.list space ∧
      other.zoneName = zone.zoneName ∧ other.nameAny ≠ owner.nameAny := by
  rw [mem_superseded_iff (listed.mem_iff.2 present), listed.mem_iff]

theorem foldl_heldAfter_deletions_none (address : Address) (zones : List Resource) :
    (zones.map deleting).foldl (handler.heldAfter address) none = none := by
  induction zones with
  | nil => rfl
  | cons head zones ih =>
      have still : handler.heldAfter address none (deleting head) = none := by
        unfold Handler.heldAfter
        split <;> rfl
      rw [List.map_cons, List.foldl_cons, still]
      exact ih

/-- Nothing is held of a zone that was deleted. -/
theorem foldl_heldAfter_deletions {address : Address} {zones : List Resource} {zone : Resource}
    (present : zone ∈ zones) (here : zone.IsZoneAt address) (held : Option Node) :
    (zones.map deleting).foldl (handler.heldAfter address) held = none := by
  induction zones generalizing held with
  | nil => simp at present
  | cons head zones ih =>
      rw [List.map_cons, List.foldl_cons]
      rcases List.mem_cons.1 present with rfl | later
      · have concerned : (deleting zone).IsFor address := ⟨here.kind_eq, here.toIsAt⟩
        have gone : handler.heldAfter address held (deleting zone) = none := by
          rw [Handler.heldAfter, if_pos concerned]
          rfl
        rw [gone]
        exact foldl_heldAfter_deletions_none address zones
      · exact ih later _

/-- A call that settles the name of a zone is for a zone of the same namespace that declares it. -/
theorem declares_of_mem_settlement (zones : store.All Resource.IsZone) {address other : Address}
    {zone : Resource} (listed : listing.Perm (store.list address.space))
    (found : store.find? address = some zone) {call : HandlerCall}
    (present : call ∈ settlement zone listing) (concerned : call.IsFor other) :
    other.space = address.space ∧ store.find? other = some call.resource ∧
      call.resource.zoneName = zone.zoneName := by
  have declares : call.resource ∈ store.list address.space ∧
      call.resource.zoneName = zone.zoneName := by
    have member := Store.mem_list_of_find? zones found
    rw [settlement_eq zones listed] at present
    rcases List.mem_cons.1 present with rfl | retired
    · have owns := isOwner_canonical (Store.namesApart_list zones address.space) member
      exact ⟨owns.mem, owns.zoneName_eq⟩
    · obtain ⟨loser, lost, rfl⟩ := List.mem_map.1 retired
      obtain ⟨there, sameName, -⟩ := (mem_superseded_listing_iff listed member).1 lost
      exact ⟨there, sameName⟩
  obtain ⟨home, spaceEq, foundThere⟩ := (Store.mem_list_iff zones).1 declares.1
  have here := Store.isZoneAt_of_find? zones foundThere
  rw [← here.toIsAt.unique concerned.2]
  exact ⟨spaceEq, foundThere, declares.2⟩

/-- Of the zones that declare a name the owner alone is held once the name is settled. -/
theorem foldl_heldAfter_settlement (zones : store.All Resource.IsZone) {address other : Address}
    {zone claimant : Resource} (listed : listing.Perm (store.list address.space))
    (found : store.find? address = some zone)
    (foundToo : store.find? other = some claimant) (spaceEq : other.space = address.space)
    (nameEq : claimant.zoneName = zone.zoneName) (held : Option Node) :
    (settlement zone listing).foldl (handler.heldAfter other) held =
      if claimant = canonical zone (store.list address.space) then handler.material claimant
      else none := by
  have member := Store.mem_list_of_find? zones found
  have apart := Store.namesApart_list zones address.space
  have owns := isOwner_canonical apart member
  have here := Store.isZoneAt_of_find? zones foundToo
  have claims : claimant ∈ store.list address.space :=
    (Store.mem_list_iff zones).2 ⟨other, spaceEq, foundToo⟩
  rw [settlement_eq zones listed]
  generalize canonical zone (store.list address.space) = owner at owns ⊢
  rw [List.foldl_cons]
  by_cases isOwner : claimant = owner
  · subst isOwner
    have concerned : (HandlerCall.mk .created claimant (.ok ())).IsFor other :=
      ⟨here.kind_eq, here.toIsAt⟩
    have written : handler.heldAfter other held ⟨.created, claimant, .ok ()⟩ =
        handler.material claimant := by
      rw [Handler.heldAfter, if_pos concerned]
    rw [if_pos rfl, written]
    apply Handler.foldl_heldAfter_of_forall_not_isFor
    intro call retired lostToo
    obtain ⟨loser, lost, rfl⟩ := List.mem_map.1 retired
    obtain ⟨-, -, notOwner⟩ := (mem_superseded_listing_iff listed member).1 lost
    exact notOwner (lostToo.2.nameAny.trans here.toIsAt.nameAny.symm)
  · rw [if_neg isOwner]
    have notOwner : claimant.nameAny ≠ owner.nameAny :=
      fun same => isOwner (apart claimant claims owner owns.mem same)
    have lost := (mem_superseded_listing_iff listed member).2 ⟨claims, nameEq, notOwner⟩
    exact foldl_heldAfter_deletions lost here _

theorem incumbent_settlement (zones : store.All Resource.IsZone) {address : Address}
    {zone : Resource} (listed : listing.Perm (store.list address.space))
    (found : store.find? address = some zone) (base : List HandlerCall) (early : List Resource)
    (space zoneName : String) :
    incumbent (base ++ (early.map deleting ++ settlement zone listing)) space zoneName =
      if address.space = space ∧ zone.zoneName = zoneName then
        some (canonical zone (store.list address.space))
      else incumbent base space zoneName := by
  have owns := isOwner_canonical (Store.namesApart_list zones address.space)
    (Store.mem_list_of_find? zones found)
  obtain ⟨home, homeSpace, foundHome⟩ := Store.find?_canonical zones found
  have here := Store.isZoneAt_of_find? zones foundHome
  rw [settlement_eq zones listed]
  generalize canonical zone (store.list address.space) = owner at owns here ⊢
  rw [← List.append_assoc, List.append_cons, incumbent_append_deletions, incumbent_concat,
    incumbent_append_deletions, here.toIsAt.space?, owns.zoneName_eq, homeSpace]
  simp only [Option.some.injEq]

/-- The calls of a pass are for the zone whose deletion is due, or for zones of the group that the
pass settles. -/
theorem Pass.concerned {P : Resource → Prop} (pass : Pass store tombstones key dirty calls)
    (zones : store.All Resource.IsZone) (buried : tombstones.All P) {call : HandlerCall}
    (present : call ∈ calls) {other : Address} (concerned : call.IsFor other) :
    (key = other.zoneKey ∧ ∃ gone, tombstones.get? key = some gone) ∨
      ∃ address zone, key = Address.zoneKey address ∧ store.find? address = some zone ∧
        other.space = address.space ∧ store.find? other = some call.resource ∧
          call.resource.zoneName = zone.zoneName := by
  cases pass with
  | nothing records _ ofRecords =>
      obtain ⟨record, among, rfl⟩ := List.mem_map.1 present
      have ofZone : record.kind = .zone := concerned.1
      rw [ofRecords record among] at ofZone
      contradiction
  | deletion address gone keyEq _ kept here =>
      rw [List.mem_singleton] at present
      subst present
      obtain rfl : other = address := concerned.2.unique here.toIsAt
      exact Or.inl ⟨keyEq, gone, kept⟩
  | settling address zone listing keyEq found listed =>
      rcases List.mem_append.1 present with early | settled
      · obtain ⟨gone, kept, rfl⟩ := List.mem_map.1 early
        rw [Option.mem_toList] at kept
        have proper := (Store.isZoneAt_of_find? zones found).proper
        have addressed : key.address = .ok address :=
          keyEq ▸ Address.address_zoneKey proper.toIsWellFormed
        obtain rfl : other = address := concerned.2.unique (buried.isAt addressed kept).1
        exact Or.inl ⟨keyEq, gone, kept⟩
      · obtain ⟨spaceEq, foundCall, nameEq⟩ :=
          declares_of_mem_settlement zones listed found settled concerned
        exact Or.inr ⟨address, zone, keyEq, found, spaceEq, foundCall, nameEq⟩

/-- The zone that a pass settles decides what is held of every zone of its group. -/
theorem Pass.settles (handler : Handler) (pass : Pass store tombstones key dirty calls)
    (zones : store.All Resource.IsZone) {address other : Address} {zone claimant : Resource}
    (keyEq : key = address.zoneKey) (found : store.find? address = some zone)
    (foundToo : store.find? other = some claimant) (spaceEq : other.space = address.space)
    (nameEq : claimant.zoneName = zone.zoneName) (held : Option Node) (base : List HandlerCall) :
    calls.foldl (handler.heldAfter other) held =
        (if claimant = canonical zone (store.list address.space) then handler.material claimant
        else none) ∧
      incumbent (base ++ calls) other.space claimant.zoneName =
        some (canonical zone (store.list address.space)) ∧
      ⟨.created, canonical zone (store.list address.space), .ok ()⟩ ∈ calls := by
  have proper := (Store.isZoneAt_of_find? zones found).proper
  cases pass with
  | nothing records unknown =>
      obtain ⟨absent, -⟩ := unknown address proper keyEq
      rw [absent] at found
      contradiction
  | deletion there gone keyEqThere absent =>
      rw [← Address.eq_of_zoneKey proper.toIsWellFormed keyEqThere keyEq, absent]
        at found
      contradiction
  | settling there resource listing keyEqThere foundThere listed =>
      obtain rfl := Address.eq_of_zoneKey proper.toIsWellFormed keyEqThere keyEq
      obtain rfl := Option.some.inj (foundThere.symm.trans found)
      refine ⟨?_, ?_, List.mem_append_right _ ?_⟩
      · rw [List.foldl_append]
        exact foldl_heldAfter_settlement zones listed found foundToo spaceEq nameEq _
      · rw [incumbent_settlement zones listed found, if_pos ⟨spaceEq.symm, nameEq.symm⟩]
      · rw [settlement_eq zones listed]
        exact List.mem_cons_self

/-- A pass leaves alone what is held of a zone that is stored and not of the group that it settles,
and who was last materialized for the name of the zone. -/
theorem Pass.leaves {P : Resource → Prop} (handler : Handler)
    (pass : Pass store tombstones key dirty calls)
    (zones : store.All Resource.IsZone) (buried : tombstones.All P) {other : Address}
    {claimant : Resource} (foundToo : store.find? other = some claimant)
    (elsewhere : ∀ address zone, key = Address.zoneKey address → store.find? address = some zone →
      other.space = address.space → claimant.zoneName ≠ zone.zoneName)
    (held : Option Node) (base : List HandlerCall) :
    calls.foldl (handler.heldAfter other) held = held ∧
      incumbent (base ++ calls) other.space claimant.zoneName =
        incumbent base other.space claimant.zoneName := by
  have untouched : ∀ call ∈ calls, ¬ call.IsFor other := by
    intro call present concerned
    rcases pass.concerned zones buried present concerned with
      ⟨keyEq, -⟩ | ⟨address, zone, keyEq, found, spaceEq, foundCall, nameEq⟩
    · exact elsewhere other claimant keyEq foundToo rfl rfl
    · rw [← Option.some.inj (foundToo.symm.trans foundCall)] at nameEq
      exact elsewhere address zone keyEq found spaceEq nameEq
  refine ⟨Handler.foldl_heldAfter_of_forall_not_isFor untouched held, ?_⟩
  cases pass with
  | nothing records => exact incumbent_append_deletions base records _ _
  | deletion _ gone => exact incumbent_append_deletions base [gone] _ _
  | settling address zone listing keyEq found listed =>
      rw [incumbent_settlement zones listed found, if_neg]
      rintro ⟨spaceEq, nameEq⟩
      exact elsewhere address zone keyEq found spaceEq.symm nameEq.symm

/-- After a pass nothing is held of a zone that is not stored, unless it was held before and no
deletion of the zone was due. -/
theorem Pass.held_of_held {P : Resource → Prop} (pass : Pass store tombstones key dirty calls)
    (zones : store.All Resource.IsZone) (buried : tombstones.All P) {other : Address}
    (proper : other.IsProper) (absent : store.find? other = none) {held : Option Node}
    (remains : calls.foldl (handler.heldAfter other) held ≠ none) :
    held ≠ none ∧ ∀ gone, key = other.zoneKey → tombstones.get? key ≠ some gone := by
  by_cases due : key = other.zoneKey ∧ ∃ gone, tombstones.get? key = some gone
  · obtain ⟨keyEq, gone, kept⟩ := due
    have sameAddress {address : Address} (keyEqToo : key = address.zoneKey) : address = other :=
      Address.eq_of_zoneKey proper.toIsWellFormed keyEqToo keyEq
    cases pass with
    | nothing _ unknown =>
        rw [(unknown other proper keyEq).2] at kept
        contradiction
    | deletion address last keyEqToo _ _ here =>
        obtain rfl := sameAddress keyEqToo
        exact absurd (foldl_heldAfter_deletions (List.mem_singleton.2 rfl) here held) remains
    | settling address zone _ keyEqToo found =>
        rw [sameAddress keyEqToo, absent] at found
        contradiction
  · rw [Handler.foldl_heldAfter_of_forall_not_isFor] at remains
    · exact ⟨remains, fun gone keyEq kept => due ⟨keyEq, gone, kept⟩⟩
    · intro call present concerned
      rcases pass.concerned zones buried present concerned with own | ⟨_, _, _, _, _, foundCall, _⟩
      · exact due own
      · rw [absent] at foundCall
        contradiction

/-- A pass for a zone that is gone queues all zones that could take over its name. -/
theorem Pass.handsOver (pass : Pass store tombstones key dirty calls) {home : Address}
    (proper : home.IsProper) (keyEq : key = home.zoneKey) (absent : store.find? home = none)
    {gone : Resource} (kept : tombstones.get? key = some gone) {zone : Resource}
    (present : zone ∈ store.list home.space) (rivals : gone.rivals zone = true)
    {other : ResourceKey} (keyed : zone.key = .ok other) : other ∈ dirty := by
  have sameHome {address : Address} (keyEqToo : key = address.zoneKey) : address = home :=
    Address.eq_of_zoneKey proper.toIsWellFormed keyEqToo keyEq
  cases pass with
  | nothing records unknown =>
      rw [(unknown home proper keyEq).2] at kept
      contradiction
  | deletion address buried keyEqToo _ keptToo _ handedOver =>
      obtain rfl := sameHome keyEqToo
      obtain rfl := Option.some.inj (keptToo.symm.trans kept)
      exact handedOver zone present rivals other keyed
  | settling address stored _ keyEqToo found =>
      rw [sameHome keyEqToo, absent] at found
      contradiction

/-- A pass materializes nothing but what is stored. -/
theorem Pass.created {P : Resource → Prop} (pass : Pass store tombstones key dirty calls)
    (zones : store.All Resource.IsZone) (stored : store.All P) :
    ∀ call ∈ calls, call.operation = .created → P call.resource := by
  intro call present creating
  cases pass with
  | nothing records =>
      obtain ⟨record, -, rfl⟩ := List.mem_map.1 present
      contradiction
  | deletion address gone =>
      rw [List.mem_singleton] at present
      subst present
      contradiction
  | settling address zone listing keyEq found listed =>
      rcases List.mem_append.1 present with early | settled
      · obtain ⟨gone, -, rfl⟩ := List.mem_map.1 early
        contradiction
      · rw [settlement_eq zones listed] at settled
        rcases List.mem_cons.1 settled with rfl | retired
        · obtain ⟨home, -, foundHome⟩ := Store.find?_canonical zones found
          rw [Store.find?_eq_get? zones] at foundHome
          exact (stored _ _ (Or.inl foundHome)).2
        · obtain ⟨loser, -, rfl⟩ := List.mem_map.1 retired
          contradiction

theorem Pass.isPlain (pass : Pass store tombstones key dirty calls)
    (zones : store.All Resource.IsZone) (buried : tombstones.All Resource.IsPlain) :
    ∀ call ∈ calls, call.resource.kind = .zone → call.resource.IsPlain := by
  intro call present ofZone
  cases pass with
  | nothing records unknown ofRecords =>
      obtain ⟨record, among, rfl⟩ := List.mem_map.1 present
      have ofRecord : (deleting record).resource.kind = .record := ofRecords record among
      rw [ofRecord] at ofZone
      contradiction
  | deletion address gone _ _ _ here =>
      rw [List.mem_singleton] at present
      subst present
      exact here.isPlain
  | settling address zone listing keyEq found listed =>
      rcases List.mem_append.1 present with early | settled
      · obtain ⟨gone, kept, rfl⟩ := List.mem_map.1 early
        rw [Option.mem_toList] at kept
        exact (buried key gone kept).2
      · have member := Store.mem_list_of_find? zones found
        have stored : call.resource ∈ store.list address.space := by
          rw [settlement_eq zones listed] at settled
          rcases List.mem_cons.1 settled with rfl | retired
          · exact (isOwner_canonical (Store.namesApart_list zones address.space) member).mem
          · obtain ⟨loser, lost, rfl⟩ := List.mem_map.1 retired
            exact ((mem_superseded_listing_iff listed member).1 lost).1
        obtain ⟨home, -, foundThere⟩ := (Store.mem_list_iff zones).1 stored
        exact (Store.isZoneAt_of_find? zones foundThere).isPlain

/-- What a step does in which no call fails. -/
structure Worked (handler : Handler) (key : ResourceKey) (fresh : List HandlerCall)
    (before after : Dispatcher World) : Prop extends Stepped key before after where
  alike : before.world.Alike after.world
  callsEq : after.calls = before.calls ++ fresh
  performed : handler.Performed fresh before.world.files after.world.files
  pass : Pass before.world.zones.store before.tombstones key after.queue.dirty fresh

theorem worked_of_step {before after : Dispatcher World} {result : Except ReconcileError Outcome}
    (idle : before.IsIdle) (serves : before.world.Serves handler)
    (buried : before.tombstones.All Resource.IsPlain)
    (running : before.queue.shuttingDown = false)
    (stepped : before.step World.backend = some (key, result, after))
    (succeeded : SucceedFrom before.calls after.calls) :
    ∃ fresh, Worked handler key fresh before after := by
  obtain ⟨rest, passed, taken, passedEq, queue, tombstones, world, calls, broken⟩ :=
    step_eq_some stepped
  obtain ⟨begun, begunEq⟩ : ∃ begun : Dispatcher World, begun = { before with queue := rest } :=
    ⟨_, rfl⟩
  have worldEq : begun.world = before.world := by rw [begunEq]
  have tombstonesEq : begun.tombstones = before.tombstones := by rw [begunEq]
  have callsBegun : begun.calls = before.calls := by rw [begunEq]
  have runningBegun : begun.queue.shuttingDown = false := by
    obtain ⟨line, -, rfl⟩ := WorkQueue.take?_eq_some_iff.1 taken
    rw [begunEq]
    exact running
  rw [← begunEq] at passedEq
  rw [← worldEq] at serves
  rw [← tombstonesEq] at buried
  have acts : Acts World.backend key begun passed := by
    rw [passedEq]
    apply acts_reconcile
    intro address source addressed
    rw [lookup_eq serves.faultless addressed]
    simp
  have unbroken : passed.isBroken = false := by
    rw [isBroken_of_acts acts, begunEq]
    exact idle.unbroken
  rw [← callsBegun, calls, passedEq] at succeeded
  obtain ⟨fresh, callsEq, pass⟩ := pass_reconcile serves buried runningBegun succeeded
  rw [← passedEq] at callsEq pass succeeded
  have dirty : after.queue.dirty = passed.queue.dirty := by
    rw [queue, unbroken]
    rfl
  refine ⟨fresh, { stepped_of_step idle stepped (broken.trans unbroken) with
    alike := ?_, callsEq := ?_, performed := ?_, pass := ?_ }⟩
  · rw [world, ← worldEq]
    exact alike_of_acts acts
  · rw [calls, callsEq, callsBegun]
  · rw [world, ← worldEq]
    obtain ⟨others, sameCalls, ok⟩ := succeeded
    obtain rfl : others = fresh := List.append_cancel_left (sameCalls.symm.trans callsEq)
    exact performed_of_acts acts serves.handled callsEq ok (pass.isPlain serves.zones buried)
  · rw [dirty, ← worldEq, ← tombstonesEq]
    exact pass

end Dispatcher

end ZoneKeeper
