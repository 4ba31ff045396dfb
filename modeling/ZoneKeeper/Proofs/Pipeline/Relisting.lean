import ZoneKeeper.Proofs.Dispatcher.Reachable
import ZoneKeeper.Proofs.Pipeline.Incumbents

/-!
# Listing anew

A complete listing queues every zone that it lists.  So however wrong the directory may be before,
every listed zone is settled by some pass after the listing, and no other pass unsettles it: the
deletions that are still due of zones that are listed again come before the settling in the same
pass.
-/

namespace ZoneKeeper.Pipeline

variable {before after : Pipeline} {handler : Handler} {shuffle : Shuffle Resource}

/-- The reports of a complete listing, where what has vanished comes in some order. -/
def relist (listed : List Resource) (shuffle : Shuffle Resource) : List Move :=
  .report .listingStarted shuffle :: listed.map (fun zone => .report (.listed zone) shuffle) ++
    [.report .listingDone shuffle]

theorem run?_append (first second : List Move) (pipeline : Pipeline) :
    pipeline.run? (first ++ second) =
      (pipeline.run? first).bind fun middle => middle.run? second := by
  induction first generalizing pipeline with
  | nil => rfl
  | cons move first ih =>
      rw [List.cons_append, run?, run?]
      cases pipeline.perform? move with
      | none => rfl
      | some next => exact ih next

/-- Apart from the store and the announcer the pipeline is as it was. -/
structure Keeps (before after : Pipeline) : Prop where
  queue : after.dispatcher.queue = before.dispatcher.queue
  tombstones : after.dispatcher.tombstones = before.dispatcher.tombstones
  calls : after.dispatcher.calls = before.dispatcher.calls
  isBroken : after.dispatcher.isBroken = before.dispatcher.isBroken
  handler : after.dispatcher.world.handler = before.dispatcher.world.handler
  faults : after.dispatcher.world.faults = before.dispatcher.world.faults

theorem Keeps.trans {first second third : Pipeline} (left : Keeps first second)
    (right : Keeps second third) : Keeps first third :=
  ⟨right.queue.trans left.queue, right.tombstones.trans left.tombstones,
    right.calls.trans left.calls, right.isBroken.trans left.isBroken,
    right.handler.trans left.handler, right.faults.trans left.faults⟩

theorem keeps_of_report {change : Change}
    (performed : before.perform? (.report change shuffle) = some after) : Keeps before after := by
  obtain ⟨store, -, rfl⟩ := report_eq_some performed
  exact ⟨rfl, rfl, rfl, rfl, rfl, rfl⟩

/-- In the middle of a listing: what has been listed is collected, and nothing is told yet. -/
structure IsListing (before : Pipeline) (listed : List Resource) (pipeline : Pipeline) : Prop where
  keeps : Keeps before pipeline
  channel : pipeline.channel = before.channel
  known : pipeline.announcer.known = before.announcer.known
  collected : ∀ ref zone, pipeline.store.listing.get? ref = some zone →
    zone ∈ listed ∧ zone.ref? = some ref
  complete : ∀ zone ∈ listed, ∃ ref, zone.ref? = some ref ∧
    pipeline.store.listing.get? ref = some zone
  announced : ∀ zone ∈ listed, ∃ path, zone.path = .ok path ∧
    (path, zone) ∈ pipeline.announcer.listing

theorem isListing_of_started
    (performed : before.perform? (.report .listingStarted shuffle) = some after) :
    IsListing before [] after := by
  have keeps := keeps_of_report performed
  obtain ⟨store, accepted, rfl⟩ := report_eq_some performed
  obtain rfl := Option.some.inj accepted
  exact
    { keeps
      channel := List.append_nil _
      known := rfl
      collected := fun ref zone held => by simp [Pipeline.store] at held
      complete := by simp
      announced := by simp }

theorem IsListing.listed {listed : List Resource} {zone : Resource} {middle : Pipeline}
    (listing : IsListing before listed middle) (isZone : zone.IsZone)
    (zones : ∀ other ∈ listed, other.IsZone) (fresh : zone.key ∉ listed.map Resource.key)
    (performed : middle.perform? (.report (.listed zone) shuffle) = some after) :
    IsListing before (listed ++ [zone]) after := by
  have keeps := keeps_of_report performed
  obtain ⟨address, here⟩ := isZone
  obtain ⟨store, accepted, rfl⟩ := report_eq_some performed
  rw [Store.accept?, here.toIsAt.ref?] at accepted
  obtain rfl := Option.some.inj accepted
  rw [Announcer.announce_listed here] at keeps ⊢
  refine
    { keeps := listing.keeps.trans keeps
      channel := (List.append_nil _).trans listing.channel
      known := listing.known
      collected := fun ref other held => ?_
      complete := fun other present => ?_
      announced := fun other present => ?_ }
  · change (middle.store.listing.insert address.ref zone).get? ref = some other at held
    rw [Table.get?_insert] at held
    split at held
    · rename_i same
      obtain rfl := Option.some.inj held
      exact ⟨by simp, same ▸ here.toIsAt.ref?⟩
    · obtain ⟨present, referred⟩ := listing.collected ref other held
      exact ⟨List.mem_append_left _ present, referred⟩
  · change ∃ ref, other.ref? = some ref ∧
      (middle.store.listing.insert address.ref zone).get? ref = some other
    rcases List.mem_append.1 present with earlier | last
    · obtain ⟨place, there⟩ := zones other earlier
      obtain ⟨ref, referred, held⟩ := listing.complete other earlier
      obtain rfl : place.ref = ref := Option.some.inj (there.toIsAt.ref?.symm.trans referred)
      have apart : address.ref ≠ place.ref := by
        intro same
        obtain rfl := Address.ref_inj.1 same
        exact fresh (List.mem_map.2 ⟨other, earlier, there.zoneKey.trans here.zoneKey.symm⟩)
      refine ⟨place.ref, referred, ?_⟩
      rw [Table.get?_insert, if_neg apart]
      exact held
    · obtain rfl := List.mem_singleton.1 last
      exact ⟨address.ref, here.toIsAt.ref?, Table.get?_insert_self _ _ _⟩
  · rcases List.mem_append.1 present with earlier | last
    · obtain ⟨path, pathEq, held⟩ := listing.announced other earlier
      exact ⟨path, pathEq, List.mem_append_left _ held⟩
    · obtain rfl := List.mem_singleton.1 last
      exact ⟨address.text, here.toIsAt.path, by simp⟩

theorem IsListing.run {listed rest : List Resource} {middle : Pipeline}
    (listing : IsListing before listed middle) (zones : ∀ zone ∈ listed ++ rest, zone.IsZone)
    (distinct : ((listed ++ rest).map Resource.key).Nodup)
    (ran : middle.run? (rest.map fun zone => .report (.listed zone) shuffle) = some after) :
    IsListing before (listed ++ rest) after := by
  induction rest generalizing listed middle with
  | nil =>
      obtain rfl := Option.some.inj ran
      rw [List.append_nil]
      exact listing
  | cons zone rest ih =>
      obtain ⟨next, performed, later⟩ := Option.bind_eq_some_iff.1 ran
      have fresh : zone.key ∉ listed.map Resource.key := by
        rw [List.map_append, List.nodup_append] at distinct
        exact fun present => distinct.2.2 _ present _ List.mem_cons_self rfl
      have step := listing.listed (zones zone (by simp))
        (fun other present => zones other (List.mem_append_left _ present)) fresh performed
      rw [List.append_cons] at zones distinct ⊢
      exact ih step zones distinct later

/-- What a complete listing makes of the pipeline. -/
structure Relisted (listed : List Resource) (before after : Pipeline) : Prop where
  keeps : Keeps before after
  told : ∀ gone, .deleted gone ∈ after.channel → .deleted gone ∈ before.channel ∨
    ∃ path, before.announcer.known.get? path = some gone
  zones : after.store.All Resource.IsZone
  found_iff : ∀ address zone, after.store.find? address = some zone ↔
    zone ∈ listed ∧ zone.IsAt address
  pending : ∀ address zone, after.store.find? address = some zone → after.IsPending address

section Complete

variable {listed : List Resource} {middle : Pipeline} (listing : IsListing before listed middle)
  (zones : ∀ zone ∈ listed, zone.IsZone)
include listing zones

theorem IsListing.all_isZone : Store.All Resource.IsZone ⟨middle.store.listing, {}⟩ := by
  rintro ref zone (held | held)
  · obtain ⟨present, referred⟩ := listing.collected ref zone held
    exact ⟨referred, zones zone present⟩
  · simp at held

/-- The store that the listing makes has the listed zones at their addresses. -/
theorem IsListing.find?_eq_some_iff {address : Address} {zone : Resource} :
    Store.find? ⟨middle.store.listing, {}⟩ address = some zone ↔
      zone ∈ listed ∧ zone.IsAt address := by
  rw [Store.find?_eq_get? (listing.all_isZone zones)]
  constructor
  · intro held
    obtain ⟨present, referred⟩ := listing.collected _ zone held
    exact ⟨present, Resource.isAt_of_ref? referred⟩
  · rintro ⟨present, here⟩
    obtain ⟨ref, referred, held⟩ := listing.complete zone present
    rw [here.ref?] at referred
    obtain rfl := Option.some.inj referred
    exact held

theorem IsListing.done (performed : middle.perform? (.report .listingDone shuffle) = some after) :
    Relisted listed before after := by
  have keeps := listing.keeps.trans (keeps_of_report performed)
  obtain ⟨store, accepted, rfl⟩ := report_eq_some performed
  obtain rfl := Option.some.inj accepted
  refine
    { keeps
      told := fun gone present => ?_
      zones := listing.all_isZone zones
      found_iff := fun _ _ => listing.find?_eq_some_iff zones
      pending := fun address zone found => ?_ }
  · rcases List.mem_append.1 present with earlier | fresh
    · rw [listing.channel] at earlier
      exact Or.inl earlier
    · rcases List.mem_append.1 fresh with vanishing | applying
      · obtain ⟨other, lost, same⟩ := List.mem_map.1 vanishing
        obtain rfl : other = gone := WatchEvent.deleted.inj same
        obtain ⟨path, held, -⟩ := Announcer.mem_vanished_iff.1 (Shuffle.mem_arrange.1 lost)
        rw [listing.known] at held
        exact Or.inr ⟨path, held⟩
      · obtain ⟨entry, -, same⟩ := List.mem_map.1 applying
        contradiction
  · obtain ⟨present, here⟩ := (listing.find?_eq_some_iff zones).1 found
    obtain ⟨path, pathEq, held⟩ := listing.announced zone present
    obtain rfl : address.text = path := Except.ok.inj (here.path.symm.trans pathEq)
    refine Or.inl (List.mem_append_right _ (List.mem_append_right _ (List.mem_map.2 ?_)))
    exact ⟨(address.text, zone), held, rfl⟩

end Complete

theorem relisted_of_run {listed : List Resource} (zones : ∀ zone ∈ listed, zone.IsZone)
    (distinct : (listed.map Resource.key).Nodup)
    (ran : before.run? (relist listed shuffle) = some after) :
    Relisted listed before after := by
  rw [relist, run?_append] at ran
  obtain ⟨full, begun, ended⟩ := Option.bind_eq_some_iff.1 ran
  obtain ⟨empty, started, filled⟩ := Option.bind_eq_some_iff.1 begun
  obtain ⟨last, performed, same⟩ := Option.bind_eq_some_iff.1 ended
  obtain rfl := Option.some.inj same
  have listing := (isListing_of_started started).run zones distinct filled
  exact listing.done zones performed

/-- Whether a zone is held is settled. -/
structure IsSettled (handler : Handler) (pipeline : Pipeline) (address : Address)
    (zone : Resource) : Prop where
  ready : handler.IsReady pipeline.files
  rendered : ∃ text, handler.template.render zone.zoneName = .ok text
  holding : handler.holding pipeline.files address =
    if canonical zone (pipeline.store.list address.space) = zone then handler.material zone
    else none

/-- Every stored zone is settled, or a pass for it is to come. -/
structure IsHealing (handler : Handler) (store : Store) (pipeline : Pipeline) : Prop extends
    pipeline.IsSteady handler where
  store_eq : pipeline.store = store
  healed : ∀ address zone, store.find? address = some zone →
    pipeline.IsPending address ∨ pipeline.IsSettled handler address zone

variable {store : Store}

theorem Relisted.isHealing {listed : List Resource} (relisted : Relisted listed before after)
    (reachable : before.dispatcher.Reachable)
    (running : before.dispatcher.queue.shuttingDown = false)
    (handled : before.dispatcher.world.handler = some handler)
    (faultless : before.dispatcher.world.faults = {})
    (known : ∀ path gone, before.announcer.known.get? path = some gone → gone.IsPlain)
    (told : ∀ gone, .deleted gone ∈ before.channel → gone.IsPlain) :
    after.IsHealing handler after.store := by
  obtain ⟨idle, buried⟩ := reachable.isIdle
  have keeps := relisted.keeps
  refine
    { idle := ⟨?_, ?_, keeps.isBroken.trans idle.unbroken⟩
      running := ?_
      serves := ⟨keeps.handler.trans handled, keeps.faults.trans faultless, relisted.zones⟩
      told := fun gone present => ?_
      buried := ?_
      store_eq := rfl
      healed := fun address zone found => Or.inl (relisted.pending address zone found) }
  · rw [keeps.queue]
    exact idle.sound
  · rw [keeps.queue]
    exact idle.processing
  · rw [keeps.queue]
    exact running
  · rcases relisted.told gone present with earlier | ⟨path, held⟩
    · exact told gone earlier
    · exact known path gone held
  · rw [keeps.tombstones]
    exact buried

theorem IsHealing.bided (healing : before.IsHealing handler store)
    (steady : after.IsSteady handler) (bided : Bided before after) :
    after.IsHealing handler store := by
  refine { steady with
    store_eq := bided.store.trans healing.store_eq
    healed := fun address zone found => ?_ }
  rcases healing.healed address zone found with pending | settled
  · exact Or.inl (bided.pending address pending)
  · refine Or.inr ⟨bided.files ▸ settled.ready, settled.rendered, ?_⟩
    rw [bided.files, bided.store]
    exact settled.holding

/-- A pass settles the zones of one group, and unsettles none. -/
theorem IsHealing.passed {key : ResourceKey} {fresh : List HandlerCall}
    (healing : before.IsHealing handler store) (passed : Passed handler key fresh before after) :
    after.IsHealing handler store := by
  refine { passed.steady healing.toIsSteady with
    store_eq := passed.store.trans healing.store_eq
    healed := fun address zone found => ?_ }
  have same := passed.worked.performed.same
  have foundBefore : before.store.find? address = some zone := healing.store_eq ▸ found
  by_cases settles : Settles key before.store address zone
  · obtain ⟨ready, rendered, holding, -⟩ := passed.settled healing.zones foundBefore settles
    refine Or.inr ⟨(Handler.isReady_iff same).2 ready, rendered, ?_⟩
    rw [passed.store]
    exact holding
  · rcases healing.healed address zone found with pending | settled
    · refine Or.inl (passed.pending pending fun itself => settles ?_)
      exact ⟨address, zone, itself, foundBefore, rfl, rfl⟩
    · obtain ⟨holding, -⟩ :=
        passed.leaves healing.toIsSteady settled.ready foundBefore settles
      refine Or.inr ⟨(Handler.isReady_iff same).2 settled.ready, settled.rendered, ?_⟩
      rw [passed.store]
      exact holding.trans settled.holding

/-- As long as nothing is reported and no call fails, the listed zones are settled or to be
settled. -/
theorem IsHealing.run {moves : List Move} (healing : before.IsHealing handler store)
    (quiet : ∀ change shuffle, .report change shuffle ∉ moves)
    (ran : before.run? moves = some after)
    (succeeded : SucceedFrom before.dispatcher.calls after.dispatcher.calls) :
    after.IsHealing handler store := by
  refine run_keeps (fun move present before after performed succeeded healing => ?_) ran succeeded
    healing
  cases move with
  | report change shuffle => exact absurd present (quiet change shuffle)
  | deliver =>
      exact healing.bided (healing.toIsSteady.deliver performed)
        (bided_of_deliver healing.running performed)
  | work shuffle =>
      obtain ⟨key, fresh, passed⟩ := passed_of_work healing.toIsSteady performed succeeded
      exact healing.passed passed
  | wait instant =>
      exact healing.bided (healing.toIsSteady.wait performed) (bided_of_wait performed)

/-- Among the listed zones of a namespace the same zone is canonical as among the stored ones. -/
theorem Relisted.canonical_eq {listed : List Resource} (relisted : Relisted listed before after)
    (zones : ∀ zone ∈ listed, zone.IsZone) {address : Address} {zone : Resource}
    (found : after.store.find? address = some zone) :
    canonical zone (listed.filter fun other => other.space? = zone.space?) =
      canonical zone (after.store.list address.space) := by
  have here := (Store.isZoneAt_of_find? relisted.zones found).toIsAt
  have same (other : Resource) : other ∈ listed.filter (fun other => other.space? = zone.space?) ↔
      other ∈ after.store.list address.space := by
    rw [Store.mem_list_iff relisted.zones, List.mem_filter, decide_eq_true_eq, here.space?]
    constructor
    · rintro ⟨present, spaceEq⟩
      obtain ⟨place, there⟩ := zones other present
      rw [there.toIsAt.space?, Option.some.injEq] at spaceEq
      exact ⟨place, spaceEq, (relisted.found_iff place other).2 ⟨present, there.toIsAt⟩⟩
    · rintro ⟨place, spaceEq, foundOther⟩
      obtain ⟨present, there⟩ := (relisted.found_iff place other).1 foundOther
      exact ⟨present, by rw [there.space?, spaceEq]⟩
  have present := Store.mem_list_of_find? relisted.zones found
  have apart := Store.namesApart_list relisted.zones address.space
  have apartListed : NamesApart (listed.filter fun other => other.space? = zone.space?) :=
    fun one onePresent other otherPresent nameEq =>
      apart one ((same one).1 onePresent) other ((same other).1 otherPresent) nameEq
  have owns := isOwner_canonical apart present
  rw [canonical_eq_iff apartListed ((same zone).2 present)]
  exact ⟨(same _).2 owns.mem, owns.zoneName_eq,
    fun other otherPresent => owns.claim_le other ((same other).1 otherPresent)⟩

/-- Whatever state the dispatcher and the directory are in: after a complete listing, once there is
nothing more to do, the listed zones that own their names are materialized, and no others of them.
The deletions of the vanished zones may come in any order, and so may the zones in the listings of
the passes. -/
theorem relist_heals {listed : List Resource} {moves : List Move}
    (reachable : before.dispatcher.Reachable)
    (running : before.dispatcher.queue.shuttingDown = false)
    (handled : before.dispatcher.world.handler = some handler)
    (faultless : before.dispatcher.world.faults = {})
    (known : ∀ path gone, before.announcer.known.get? path = some gone → gone.IsPlain)
    (told : ∀ gone, .deleted gone ∈ before.channel → gone.IsPlain)
    (zones : ∀ zone ∈ listed, zone.IsZone) (distinct : (listed.map Resource.key).Nodup)
    (ran : before.run? (relist listed shuffle ++ moves) = some after)
    (quiet : ∀ change shuffle, .report change shuffle ∉ moves)
    (succeeded : SucceedFrom before.dispatcher.calls after.dispatcher.calls)
    (observed : after.channel = []) (worked : after.dispatcher.queue.line = [])
    {zone : Resource} (present : zone ∈ listed) :
    (handler.fileOf after.files zone ≠ none ↔
        canonical zone (listed.filter fun other => other.space? = zone.space?) = zone) ∧
      (handler.fileOf after.files zone ≠ none → handler.Shows after.files zone) := by
  rw [run?_append] at ran
  obtain ⟨middle, begun, rest⟩ := Option.bind_eq_some_iff.1 ran
  have relisted := relisted_of_run zones distinct begun
  have healing := relisted.isHealing reachable running handled faultless known told
  rw [← relisted.keeps.calls] at succeeded
  have healed := healing.run quiet rest succeeded
  obtain ⟨address, here⟩ := zones zone present
  have found := (relisted.found_iff address zone).2 ⟨present, here.toIsAt⟩
  have settled := (healed.healed address zone found).resolve_left
    (healed.toIsSteady.not_isPending observed worked address)
  have holding := settled.holding
  rw [healed.store_eq, ← relisted.canonical_eq zones found] at holding
  obtain ⟨text, rendered⟩ := settled.rendered
  rw [Handler.material, rendered] at holding
  rw [Handler.shows_iff here, Handler.fileOf_eq here, holding]
  split
  · rename_i owner
    exact ⟨⟨fun _ => owner, fun _ => Option.some_ne_none _⟩, fun _ => ⟨text, rendered, rfl⟩⟩
  · rename_i loser
    exact ⟨⟨fun held => absurd rfl held, fun owner => absurd owner loser⟩,
      fun held => absurd rfl held⟩

/-- Of two zones that declare one name, the elder is about to be deleted, and an earlier process has
left a file of the younger. -/
def neglected : Pipeline where
  dispatcher := Dispatcher.observe (.deleted (Sample.zone "a" 1 "x"))
    { queue := .withBackoff .standard
      world :=
        { handler := some Sample.handler
          files :=
            { nodes := Table.ofList
                [(["zones"], .directory), (["zones", "team_b.zone"], .file "old".toUTF8)] } } }

def bothListed : List Resource :=
  [Sample.zone "a" 1 "x", Sample.zone "b" 2 "x"]

def healing : List Move :=
  [.work .asGiven, .deliver, .deliver, .work .reversed, .work .reversed]

theorem isSome_healing :
    (neglected.run? (relist bothListed .reversed ++ healing)).isSome = true := by
  decide +kernel

def healed : Pipeline :=
  (neglected.run? (relist bothListed .reversed ++ healing)).get isSome_healing

/-- The listing has both of them, and so the elder is materialized and the younger is not. -/
theorem relist_heals_neglected :
    neglected.run? (relist bothListed .reversed ++ healing) = some healed ∧
      healed.channel = [] ∧ healed.dispatcher.queue.line = [] ∧
      Sample.handler.Shows healed.files (Sample.zone "a" 1 "x") ∧
      Sample.handler.fileOf healed.files (Sample.zone "b" 2 "x") = none := by
  have ran : neglected.run? (relist bothListed .reversed ++ healing) = some healed :=
    (Option.some_get isSome_healing).symm
  have plain (gone : Resource) (same : WatchEvent.deleted (Sample.zone "a" 1 "x") = .deleted gone) :
      gone.IsPlain := by
    obtain rfl := WatchEvent.deleted.inj same
    exact (Sample.isZoneAt_zone (by decide) (by decide) _ _).isPlain
  have reachable : neglected.dispatcher.Reachable := .observe (.start _ _) _ plain
  have zones : ∀ zone ∈ bothListed, zone.IsZone := by
    simp only [bothListed, List.mem_cons, List.not_mem_nil, or_false]
    rintro zone (rfl | rfl)
    · exact Sample.isZone_zone (by decide) (by decide) _ _
    · exact Sample.isZone_zone (by decide) (by decide) _ _
  have observed : healed.channel = [] := by decide +kernel
  have worked : healed.dispatcher.queue.line = [] := by decide +kernel
  have succeeded : SucceedFrom neglected.dispatcher.calls healed.dispatcher.calls :=
    .of_forall (HandlerCall.all_succeeded (by decide +kernel))
  have heals {zone : Resource} (present : zone ∈ bothListed) :=
    relist_heals reachable (by decide +kernel) rfl rfl (by simp [neglected]) (by simp [neglected])
      zones (by decide +kernel) ran (by simp [healing]) succeeded observed worked present
  have elderListed : Sample.zone "a" 1 "x" ∈ bothListed := List.mem_cons_self
  have youngerListed : Sample.zone "b" 2 "x" ∈ bothListed :=
    List.mem_cons_of_mem _ (List.mem_singleton.2 rfl)
  have elder := heals elderListed
  have younger := heals youngerListed
  refine ⟨ran, observed, worked, elder.2 (elder.1.2 (by decide +kernel)), ?_⟩
  by_contra held
  exact absurd (younger.1.1 held) (by decide +kernel)

end ZoneKeeper.Pipeline
