import ZoneKeeper.Proofs.Pipeline.Runs

/-!
# Who is materialized

Of the zones that declare one name in one namespace, the incumbent is the one that was materialized
last.  Whatever was reported and in whatever order: a stored zone that no pass is to come for is
held exactly if it is the incumbent of its name, and otherwise the incumbent has the older claim.
-/

namespace ZoneKeeper

/-- The file of a zone, as the handler names it. -/
def Handler.fileOf (handler : Handler) (files : Files) (zone : Resource) : Option Node :=
  (Handler.fileName zone).toOption.bind fun name => files.node? (handler.place files ++ [name])

/-- The file of a zone is there and holds the text that the template makes of its zone name. -/
def Handler.Shows (handler : Handler) (files : Files) (zone : Resource) : Prop :=
  ∃ text, handler.template.render zone.zoneName = .ok text ∧
    handler.fileOf files zone = some (.file text.toUTF8)

theorem Handler.fileOf_eq {handler : Handler} {files : Files} {zone : Resource} {address : Address}
    (here : zone.IsZoneAt address) : handler.fileOf files zone = handler.holding files address := by
  unfold Handler.fileOf
  rw [Handler.fileName_of_isAt here.toIsAt here.proper.toIsWellFormed]
  rfl

theorem Handler.shows_iff {handler : Handler} {files : Files} {zone : Resource} {address : Address}
    (here : zone.IsZoneAt address) : handler.Shows files zone ↔
      ∃ text, handler.template.render zone.zoneName = .ok text ∧
        handler.holding files address = some (.file text.toUTF8) := by
  unfold Handler.Shows
  rw [Handler.fileOf_eq here]

namespace Pipeline

variable {before after : Pipeline} {handler : Handler} {P : Resource → Prop}

/-- The incumbent stands for the name of the zone at an address. -/
structure StandsFor (handler : Handler) (pipeline : Pipeline) (address : Address)
    (zone last : Resource) (home : Address) : Prop where
  last_eq : incumbent pipeline.dispatcher.calls address.space zone.zoneName = some last
  here : last.IsZoneAt home
  space_eq : home.space = address.space
  rendered : ∃ text, handler.template.render zone.zoneName = .ok text
  holding : handler.holding pipeline.files address =
    if home = address then handler.material zone else none
  itself : home = address → last = zone
  older : home ≠ address → last.claim < zone.claim

/-- Every stored zone that no pass is to come for has an incumbent of its name. -/
structure IsRepresented (handler : Handler) (pipeline : Pipeline) : Prop where
  ready : handler.IsReady pipeline.files
  represented : ∀ address zone, pipeline.store.find? address = some zone →
    pipeline.IsPending address ∨ ∃ last home, StandsFor handler pipeline address zone last home

theorem StandsFor.of_eq {address : Address} {zone last : Resource} {home : Address}
    (stands : StandsFor handler before address zone last home) (files : after.files = before.files)
    (calls : after.dispatcher.calls = before.dispatcher.calls) :
    StandsFor handler after address zone last home :=
  { stands with
    last_eq := calls ▸ stands.last_eq
    holding := files ▸ stands.holding }

theorem IsRepresented.bided (represented : before.IsRepresented handler)
    (bided : Bided before after) : after.IsRepresented handler := by
  refine ⟨bided.files ▸ represented.ready, fun address zone found => ?_⟩
  rw [bided.store] at found
  rcases represented.represented address zone found with pending | ⟨last, home, stands⟩
  · exact Or.inl (bided.pending address pending)
  · exact Or.inr ⟨last, home, stands.of_eq bided.files bided.calls⟩

theorem IsRepresented.reported (represented : before.IsRepresented handler)
    (zonesAfter : after.store.All Resource.IsZone) (reported : Reported before after) :
    after.IsRepresented handler := by
  refine ⟨reported.files ▸ represented.ready, fun address zone found => ?_⟩
  have proper := (Store.isZoneAt_of_find? zonesAfter found).proper
  rcases reported.told address proper with unchanged | ⟨-, pending⟩ | ⟨absent, -⟩
  · rw [unchanged] at found
    rcases represented.represented address zone found with pending | ⟨last, home, stands⟩
    · exact Or.inl (reported.pending address pending)
    · exact Or.inr ⟨last, home, stands.of_eq reported.files reported.calls⟩
  · exact Or.inl pending
  · rw [absent] at found
    contradiction

/-- A pass is for a zone of the group of another zone. -/
def Settles (key : ResourceKey) (store : Store) (address : Address) (zone : Resource) : Prop :=
  ∃ (other : Address) (settled : Resource), key = other.zoneKey ∧
    store.find? other = some settled ∧ address.space = other.space ∧
      zone.zoneName = settled.zoneName

variable {key : ResourceKey} {fresh : List HandlerCall}

/-- A pass for a zone of its group settles whether a zone is held. -/
theorem Passed.settled (passed : Passed handler key fresh before after)
    (zones : before.store.All Resource.IsZone) {address : Address} {zone : Resource}
    (found : before.store.find? address = some zone)
    (settles : Settles key before.store address zone) :
    handler.IsReady before.files ∧ (∃ text, handler.template.render zone.zoneName = .ok text) ∧
      handler.holding after.files address =
        (if canonical zone (before.store.list address.space) = zone then handler.material zone
        else none) ∧
      incumbent after.dispatcher.calls address.space zone.zoneName =
        some (canonical zone (before.store.list address.space)) := by
  obtain ⟨other, settled, keyEq, foundSettled, spaceEq, nameEq⟩ := settles
  obtain ⟨held, last, created⟩ := passed.pass.settles handler zones keyEq foundSettled found spaceEq
    nameEq (handler.holding before.files address) before.dispatcher.calls
  have member := Store.mem_list_of_find? zones found
  have sameOwner := canonical_congr (Store.namesApart_list zones address.space) member
    ((Store.mem_list_iff zones).2 ⟨other, spaceEq.symm, foundSettled⟩) nameEq
  rw [← spaceEq, ← sameOwner] at held last created
  have owns := isOwner_canonical (Store.namesApart_list zones address.space) member
  obtain ⟨home, -, foundHome⟩ := Store.find?_canonical zones found
  have ofZone := (Store.isZoneAt_of_find? zones foundHome).kind_eq
  have ready := passed.worked.performed.ready _ created rfl ofZone
  have here := Store.isZoneAt_of_find? zones found
  refine ⟨ready, ?_, ?_, passed.worked.callsEq ▸ last⟩
  · rw [← owns.zoneName_eq]
    exact passed.worked.performed.rendered _ created rfl ofZone
  · have holding := passed.worked.performed.holding ready address here.proper
    change handler.holding after.files address = _ at holding
    rw [holding]
    exact held.trans (by simp only [@eq_comm _ zone])

/-- After a pass for a zone of its group a zone is represented by the owner of its name. -/
theorem Passed.standsFor (passed : Passed handler key fresh before after)
    (zones : before.store.All Resource.IsZone) {address : Address} {zone : Resource}
    (found : before.store.find? address = some zone)
    (settles : Settles key before.store address zone) :
    ∃ last home, before.store.find? home = some last ∧
      StandsFor handler after address zone last home := by
  obtain ⟨-, rendered, holding, lastEq⟩ := passed.settled zones found settles
  have member := Store.mem_list_of_find? zones found
  have owns := isOwner_canonical (Store.namesApart_list zones address.space) member
  obtain ⟨home, spaceEq, foundHome⟩ := Store.find?_canonical zones found
  generalize canonical zone (before.store.list address.space) = owner at *
  have here := Store.isZoneAt_of_find? zones found
  have hereHome := Store.isZoneAt_of_find? zones foundHome
  have same_iff : owner = zone ↔ home = address := by
    constructor
    · rintro rfl
      exact hereHome.toIsAt.unique here.toIsAt
    · rintro rfl
      exact Option.some.inj (foundHome.symm.trans found)
  refine ⟨owner, home, foundHome, ?_⟩
  refine
    { last_eq := lastEq
      here := hereHome
      space_eq := spaceEq
      rendered := rendered
      holding := ?_
      itself := same_iff.2
      older := fun apart => ?_ }
  · rw [holding]
    simp only [same_iff]
  · refine lt_of_le_of_ne (owns.claim_le zone member rfl) fun same => apart ?_
    exact hereHome.toIsAt.eq_of_nameAny_eq here.toIsAt spaceEq
      (Resource.nameAny_eq_of_claim_eq same)

/-- A pass for no zone of its group leaves a zone as it is. -/
theorem Passed.leaves (passed : Passed handler key fresh before after)
    (sound : before.IsSteady handler) (ready : handler.IsReady before.files)
    {address : Address} {zone : Resource} (found : before.store.find? address = some zone)
    (elsewhere : ¬ Settles key before.store address zone) :
    handler.holding after.files address = handler.holding before.files address ∧
      incumbent after.dispatcher.calls address.space zone.zoneName =
        incumbent before.dispatcher.calls address.space zone.zoneName := by
  have here := Store.isZoneAt_of_find? sound.zones found
  have holding := passed.worked.performed.holding ready address here.proper
  obtain ⟨held, last⟩ := passed.pass.leaves handler sound.zones sound.buried found
    (fun other settled keyEq foundSettled spaceEq nameEq =>
      elsewhere ⟨other, settled, keyEq, foundSettled, spaceEq, nameEq⟩)
    (handler.holding before.files address) before.dispatcher.calls
  rw [← passed.worked.callsEq] at last
  exact ⟨holding.trans held, last⟩

theorem IsRepresented.passed (represented : before.IsRepresented handler)
    (steady : before.IsSteady handler) (passed : Passed handler key fresh before after) :
    after.IsRepresented handler := by
  refine ⟨(Handler.isReady_iff passed.worked.performed.same).2 represented.ready,
    fun address zone found => ?_⟩
  rw [passed.store] at found
  by_cases settles : Settles key before.store address zone
  · obtain ⟨last, home, -, stands⟩ :=
      passed.standsFor steady.zones found settles
    exact Or.inr ⟨last, home, stands⟩
  · rcases represented.represented address zone found with pending | ⟨last, home, stands⟩
    · refine Or.inl (passed.pending pending fun itself => settles ?_)
      exact ⟨address, zone, itself, found, rfl, rfl⟩
    · obtain ⟨holding, lastEq⟩ := passed.leaves steady represented.ready found settles
      exact Or.inr ⟨last, home, { stands with
        last_eq := lastEq.trans stands.last_eq
        holding := holding.trans stands.holding }⟩

theorem isRepresented_start {backoff : Backoff} {files : Files} (ready : handler.IsReady files) :
    (start backoff handler files).IsRepresented handler := by
  refine ⟨ready, fun address zone found => ?_⟩
  simp [start, Pipeline.store, Store.find?] at found

/-- In every run in which no call fails every stored zone is represented, or a pass for it is to
come. -/
theorem isRepresented_of_run {backoff : Backoff} {files : Files} {moves : List Move}
    (zones : ∀ resource, P resource → resource.IsZone) (ready : handler.IsReady files)
    (ran : (start backoff handler files).run? moves = some after) (only : OnlyReports P moves)
    (succeeded : ∀ call ∈ after.dispatcher.calls, call.result = .ok ()) :
    after.IsSound handler P ∧ after.IsRepresented handler := by
  apply run_induction zones _ _ _ ran only (SucceedFrom.of_forall succeeded)
    (sound_start backoff handler files) (isRepresented_start ready)
  · intro before after _ bided represented
    exact represented.bided bided
  · intro before after _ sound reported represented
    exact represented.reported (sound.stored.mono zones) reported
  · intro before after key fresh sound passed represented
    exact represented.passed sound.toIsSteady passed

variable {pipeline : Pipeline}

/-- The zone that was materialized last for a zone name of a namespace still declares the name. -/
def KeepsName (pipeline : Pipeline) (space zoneName : String) : Prop :=
  ∃ last, incumbent pipeline.dispatcher.calls space zoneName = some last ∧
    ∃ zone ∈ pipeline.store.list space, zone.zoneName = zoneName ∧ zone.nameAny = last.nameAny

section Rest

variable (represented : pipeline.IsRepresented handler)
  (steady : pipeline.IsSteady handler) (observed : pipeline.channel = [])
  (worked : pipeline.dispatcher.queue.line = [])
include represented steady observed worked

theorem IsRepresented.standsFor {address : Address} {zone : Resource}
    (found : pipeline.store.find? address = some zone) :
    ∃ last home, StandsFor handler pipeline address zone last home :=
  (represented.represented address zone found).resolve_left
    (steady.not_isPending observed worked address)

/-- The incumbent of a name that it has not released is the owner of the name. -/
theorem IsRepresented.canonical_eq {address : Address} {zone : Resource}
    (found : pipeline.store.find? address = some zone)
    (keeps : pipeline.KeepsName address.space zone.zoneName) :
    incumbent pipeline.dispatcher.calls address.space zone.zoneName =
      some (canonical zone (pipeline.store.list address.space)) := by
  have zones := steady.zones
  obtain ⟨last, lastEq, current, present, currentName, nameEq⟩ := keeps
  obtain ⟨place, placeSpace, foundCurrent⟩ := (Store.mem_list_iff zones).1 present
  have here := Store.isZoneAt_of_find? zones foundCurrent
  obtain ⟨lastHere, home, stands⟩ := represented.standsFor steady observed worked foundCurrent
  obtain rfl : last = lastHere := by
    have again := stands.last_eq
    rw [placeSpace, currentName, lastEq] at again
    exact Option.some.inj again
  have homeEq : home = place :=
    stands.here.toIsAt.eq_of_nameAny_eq here.toIsAt stands.space_eq nameEq.symm
  obtain rfl := stands.itself homeEq
  have owns := isOwner_canonical (Store.namesApart_list zones address.space)
    (Store.mem_list_of_find? zones found)
  obtain ⟨seat, seatSpace, foundOwner⟩ := Store.find?_canonical zones found
  obtain ⟨lastToo, homeToo, standsOwner⟩ :=
    represented.standsFor steady observed worked foundOwner
  rw [lastEq]
  obtain rfl : last = lastToo := by
    have again := standsOwner.last_eq
    rw [seatSpace, owns.zoneName_eq, lastEq] at again
    exact Option.some.inj again
  -- The owner has no younger claim than the incumbent, which is among the claimants.
  by_cases same : homeToo = seat
  · rw [standsOwner.itself same]
  · have younger := standsOwner.older same
    exact absurd younger (not_lt.2 (owns.claim_le last present currentName))

/-- Of the zones that declare a name that is not released the owner alone is held. -/
theorem IsRepresented.holding_eq {address : Address} {zone : Resource}
    (found : pipeline.store.find? address = some zone)
    (keeps : pipeline.KeepsName address.space zone.zoneName) :
    (∃ text, handler.template.render zone.zoneName = .ok text) ∧
      handler.holding pipeline.files address =
        if canonical zone (pipeline.store.list address.space) = zone then handler.material zone
        else none := by
  obtain ⟨last, home, stands⟩ := represented.standsFor steady observed worked found
  have lastEq := represented.canonical_eq steady observed worked found keeps
  rw [stands.last_eq, Option.some.injEq] at lastEq
  have here := Store.isZoneAt_of_find? steady.zones found
  have same_iff : home = address ↔ canonical zone (pipeline.store.list address.space) = zone := by
    rw [← lastEq]
    refine ⟨stands.itself, fun itself => ?_⟩
    exact stands.here.toIsAt.unique (itself.symm ▸ here.toIsAt)
  refine ⟨stands.rendered, ?_⟩
  rw [stands.holding]
  simp only [same_iff]

end Rest

end Pipeline

end ZoneKeeper
