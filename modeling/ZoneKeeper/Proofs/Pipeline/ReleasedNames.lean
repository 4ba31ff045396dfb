import ZoneKeeper.Proofs.Pipeline.Incumbents

/-!
# Names that are released

When a zone is edited and declares another name, nobody else is told: the pass for it looks at the
name that it declares now, and the zones that declare the name that it has released are queued only
when a zone is deleted, or deleted and made again.  So a name is materialized, once there is nothing
more to do, exactly if the zone that was materialized for it last has not released it.
-/

namespace ZoneKeeper.Pipeline

variable {handler : Handler}

section Rest

variable {pipeline : Pipeline} (represented : pipeline.IsRepresented handler)
  (steady : pipeline.IsSteady handler) (observed : pipeline.channel = [])
  (worked : pipeline.dispatcher.queue.line = []) {address : Address} {zone : Resource}
  (found : pipeline.store.find? address = some zone)
include represented steady observed worked found

/-- The owner of a name is materialized exactly if the name is not released. -/
theorem IsRepresented.shows_owner_iff :
    handler.Shows pipeline.files (canonical zone (pipeline.store.list address.space)) ↔
      pipeline.KeepsName address.space zone.zoneName := by
  have keepsOwner := represented.canonical_eq steady observed worked found
  have owns := isOwner_canonical (Store.namesApart_list steady.zones address.space)
    (Store.mem_list_of_find? steady.zones found)
  obtain ⟨seat, seatSpace, foundOwner⟩ := Store.find?_canonical steady.zones found
  generalize canonical zone (pipeline.store.list address.space) = owner at *
  have here := Store.isZoneAt_of_find? steady.zones foundOwner
  obtain ⟨last, home, stands⟩ := represented.standsFor steady observed worked foundOwner
  have lastEq := stands.last_eq
  rw [seatSpace, owns.zoneName_eq] at lastEq
  rw [Handler.shows_iff here, stands.holding]
  constructor
  · rintro ⟨text, -, shown⟩
    have same : home = seat := by
      by_contra apart
      rw [if_neg apart] at shown
      contradiction
    exact ⟨last, lastEq, owner, owns.mem, owns.zoneName_eq, by rw [stands.itself same]⟩
  · intro keeps
    obtain rfl : last = owner := Option.some.inj (lastEq.symm.trans (keepsOwner keeps))
    obtain ⟨text, rendered⟩ := stands.rendered
    refine ⟨text, rendered, ?_⟩
    rw [if_pos (stands.here.toIsAt.unique here.toIsAt), Handler.material, rendered]
    rfl

/-- Released or not: of the zones that declare a name nobody but the owner is materialized. -/
theorem IsRepresented.fileOf_eq_none {other : Resource}
    (present : other ∈ pipeline.store.list address.space) (nameEq : other.zoneName = zone.zoneName)
    (apart : other ≠ canonical zone (pipeline.store.list address.space)) :
    handler.fileOf pipeline.files other = none := by
  obtain ⟨place, placeSpace, foundOther⟩ := (Store.mem_list_iff steady.zones).1 present
  have there := Store.isZoneAt_of_find? steady.zones foundOther
  obtain ⟨last, home, stands⟩ := represented.standsFor steady observed worked foundOther
  have lastEq := stands.last_eq
  rw [placeSpace, nameEq] at lastEq
  have elsewhere : home ≠ place := by
    intro same
    obtain rfl := stands.itself same
    have keeps : pipeline.KeepsName address.space zone.zoneName :=
      ⟨last, lastEq, last, present, nameEq, rfl⟩
    have owner := represented.canonical_eq steady observed worked found keeps
    exact apart (Option.some.inj (lastEq.symm.trans owner))
  rw [Handler.fileOf_eq there, stands.holding, if_neg elsewhere]

end Rest

/-- Once there is nothing more to do, the owner of a name is materialized exactly if the zone that
was materialized last for the name has not released it, and no other zone that declares the name
is; whatever the orders in which zones were listed and vanished ones told of. -/
theorem shows_canonical_iff {backoff : Backoff} {files : Files} {moves : List Move}
    {after : Pipeline} (ready : handler.IsReady files)
    (ran : (start backoff handler files).run? moves = some after)
    (only : OnlyReports Resource.IsZone moves)
    (succeeded : ∀ call ∈ after.dispatcher.calls, call.result = .ok ())
    (observed : after.channel = []) (worked : after.dispatcher.queue.line = [])
    {address : Address} {zone : Resource} (found : after.store.find? address = some zone) :
    (handler.Shows after.files (canonical zone (after.store.list address.space)) ↔
      after.KeepsName address.space zone.zoneName) ∧
    ∀ other ∈ after.store.list address.space, other.zoneName = zone.zoneName →
      other ≠ canonical zone (after.store.list address.space) →
        handler.fileOf after.files other = none := by
  obtain ⟨sound, represented⟩ :=
    isRepresented_of_run (fun _ isZone => isZone) ready ran only succeeded
  have steady := sound.toIsSteady
  exact ⟨represented.shows_owner_iff steady observed worked found,
    fun _ => represented.fileOf_eq_none steady observed worked found⟩

/-- Two zones declare one name; once both are settled the elder is edited and declares another. -/
def releasing : List Move :=
  [ .report (.applied (Sample.zone "a" 1 "x")) .asGiven,
    .report (.applied (Sample.zone "b" 2 "x")) .asGiven, .deliver, .deliver, .work .asGiven,
    .work .reversed, .report (.applied (Sample.zone "a" 1 "y")) .asGiven, .deliver,
    .work .reversed ]

theorem isSome_releasing :
    ((start .standard Sample.handler Sample.files).run? releasing).isSome = true := by
  decide +kernel

def released : Pipeline :=
  ((start .standard Sample.handler Sample.files).run? releasing).get isSome_releasing

/-- The younger zone now owns the name that the elder has released, and is not materialized. -/
theorem not_shows_released :
    (start .standard Sample.handler Sample.files).run? releasing = some released ∧
      released.channel = [] ∧ released.dispatcher.queue.line = [] ∧
      (∀ call ∈ released.dispatcher.calls, call.result = .ok ()) ∧
      released.store.find? ⟨"team", "b"⟩ = some (Sample.zone "b" 2 "x") ∧
      ¬ Sample.handler.Shows released.files
        (canonical (Sample.zone "b" 2 "x") (released.store.list "team")) := by
  have ran : (start .standard Sample.handler Sample.files).run? releasing = some released :=
    (Option.some_get isSome_releasing).symm
  have only : OnlyReports Resource.IsZone releasing := by
    intro change shuffle present resource reported
    simp only [releasing, List.mem_cons, Move.report.injEq, reduceCtorEq, List.not_mem_nil,
      false_or, or_false] at present
    rcases present with ⟨rfl, -⟩ | ⟨rfl, -⟩ | ⟨rfl, -⟩
    all_goals
      obtain rfl := Option.some.inj reported
      exact Sample.isZone_zone (by decide) (by decide) _ _
  have observed : released.channel = [] := by decide +kernel
  have worked : released.dispatcher.queue.line = [] := by decide +kernel
  have succeeded : ∀ call ∈ released.dispatcher.calls, call.result = .ok () :=
    HandlerCall.all_succeeded (by decide +kernel)
  have found : released.store.find? ⟨"team", "b"⟩ = some (Sample.zone "b" 2 "x") := by
    decide +kernel
  have listed : released.store.list "team" = [Sample.zone "a" 1 "y", Sample.zone "b" 2 "x"] := by
    decide +kernel
  have lastEq : incumbent released.dispatcher.calls "team" "x" = some (Sample.zone "a" 1 "x") := by
    decide +kernel
  have shows_iff := (shows_canonical_iff Sample.isReady_files ran only succeeded observed worked
    found).1
  refine ⟨ran, observed, worked, succeeded, found, fun shown => ?_⟩
  obtain ⟨last, isLast, current, present, declares, sameName⟩ := shows_iff.1 shown
  obtain rfl : last = Sample.zone "a" 1 "x" := Option.some.inj (isLast.symm.trans lastEq)
  rw [listed] at present
  rcases List.mem_cons.1 present with rfl | later
  · exact absurd declares (by decide)
  · rw [List.mem_singleton] at later
    subst later
    exact absurd sameName (by decide)

end ZoneKeeper.Pipeline
