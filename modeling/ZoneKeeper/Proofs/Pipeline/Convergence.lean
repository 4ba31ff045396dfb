import ZoneKeeper.Proofs.Pipeline.Incumbents

/-!
# Convergence of the directory

If all versions of a zone declare the same zone name, then a name changes hands only when zones come
and go.  Whoever is materialized for a name is either still stored, or a pass is to come that finds
out what became of it; and whatever is held in the directory belongs to a zone that is stored or
whose deletion is to come.  So when there is nothing more to do, the directory holds one file for
every name that is declared, the file of the owner of the name.
-/

namespace ZoneKeeper

/-- The resource is a zone, and declares the zone name that all versions of it declare. -/
def Resource.IsZoneOf (declared : Address → String) (resource : Resource) : Prop :=
  ∃ address, resource.IsZoneAt address ∧ resource.zoneName = declared address

theorem Resource.IsZoneOf.isZone {declared : Address → String} (resource : Resource)
    (isZone : resource.IsZoneOf declared) : resource.IsZone := by
  obtain ⟨address, here, -⟩ := isZone
  exact ⟨address, here⟩

theorem Resource.IsZoneOf.zoneName_eq {declared : Address → String} {resource : Resource}
    {address : Address} (isZone : resource.IsZoneOf declared) (here : resource.IsAt address) :
    resource.zoneName = declared address := by
  obtain ⟨other, there, declares⟩ := isZone
  rw [here.unique there.toIsAt]
  exact declares

theorem mem_of_incumbent {calls : List HandlerCall} {space zoneName : String} {last : Resource}
    (lastEq : incumbent calls space zoneName = some last) :
    ∃ call ∈ calls, call.Materializes space zoneName ∧ call.resource = last := by
  obtain ⟨call, found, rfl⟩ := Option.map_eq_some_iff.1 lastEq
  have present := List.mem_of_getLast? found
  rw [List.mem_filter, decide_eq_true_eq] at present
  exact ⟨call, present.1, present.2, rfl⟩

/-- Two stored zones with the same file are the same. -/
theorem Store.eq_of_fileName_eq {store : Store} (zones : store.All Resource.IsZone)
    {space otherSpace name : String} {zone other : Resource} (present : zone ∈ store.list space)
    (otherPresent : other ∈ store.list otherSpace) (named : Handler.fileName zone = .ok name)
    (otherNamed : Handler.fileName other = .ok name) : other = zone ∧ otherSpace = space := by
  obtain ⟨address, rfl, found⟩ := (Store.mem_list_iff zones).1 present
  obtain ⟨otherAddress, rfl, otherFound⟩ := (Store.mem_list_iff zones).1 otherPresent
  have here := Store.isZoneAt_of_find? zones found
  have there := Store.isZoneAt_of_find? zones otherFound
  rw [Handler.fileName_of_isAt here.toIsAt here.proper.toIsWellFormed, Except.ok.injEq] at named
  rw [Handler.fileName_of_isAt there.toIsAt there.proper.toIsWellFormed, Except.ok.injEq]
    at otherNamed
  obtain rfl := (Address.fileName_inj there.proper here.proper).1 (otherNamed.trans named.symm)
  exact ⟨Option.some.inj (otherFound.symm.trans found), rfl⟩

namespace Pipeline

variable {before after : Pipeline} {handler : Handler} {declared : Address → String}

/-- A zone that was materialized is still stored as it was, or a pass is to come that finds out what
became of it. -/
def Vouches (pipeline : Pipeline) (home : Address) (last : Resource) : Prop :=
  pipeline.store.find? home = some last ∨
    (∃ other, pipeline.store.find? home = some other) ∧ pipeline.IsPending home ∨
      pipeline.IsDoomed home

/-- All that is materialized is accounted for. -/
structure IsAccounted (handler : Handler) (pipeline : Pipeline) : Prop where
  vouched : ∀ (address : Address) (zone last : Resource) (home : Address),
    pipeline.store.find? address = some zone → ¬ pipeline.IsPending address →
      incumbent pipeline.dispatcher.calls address.space zone.zoneName = some last →
        last.IsZoneAt home → home.space = address.space → pipeline.Vouches home last
  held : ∀ address : Address, address.IsProper → handler.holding pipeline.files address ≠ none →
    (∃ zone, pipeline.store.find? address = some zone) ∨ pipeline.IsDoomed address
  others : ∀ rest node, rest ≠ [] →
    (∀ address : Address, address.IsProper → rest ≠ [address.fileName]) →
      pipeline.files.node? (handler.place pipeline.files ++ rest) ≠ some node

theorem isAccounted_start {backoff : Backoff} {files : Files}
    (empty : files.below (handler.place files) = []) :
    (start backoff handler files).IsAccounted handler := by
  have nothing : ∀ rest node, rest ≠ [] →
      files.node? (handler.place files ++ rest) ≠ some node := by
    intro rest node nonempty held
    have present := Files.mem_below_iff.2 ⟨nonempty, held⟩
    rw [empty] at present
    contradiction
  refine ⟨fun address zone last home found => ?_, fun address proper held => ?_,
    fun rest node nonempty _ => nothing rest node nonempty⟩
  · simp [start, Pipeline.store, Store.find?] at found
  · obtain ⟨node, heldEq⟩ := Option.ne_none_iff_exists'.1 held
    exact absurd heldEq (nothing _ node (by simp))

theorem IsAccounted.bided (accounted : before.IsAccounted handler) (bided : Bided before after) :
    after.IsAccounted handler := by
  refine ⟨fun address zone last home found settled lastEq here spaceEq => ?_, ?_, ?_⟩
  · rw [bided.store] at found
    rw [bided.calls] at lastEq
    unfold Vouches
    rw [bided.store]
    rcases accounted.vouched address zone last home found
      (fun pending => settled (bided.pending address pending)) lastEq here spaceEq
      with stored | ⟨stored, pending⟩ | doomed
    · exact Or.inl stored
    · exact Or.inr (Or.inl ⟨stored, bided.pending home pending⟩)
    · exact Or.inr (Or.inr (bided.doomed home doomed))
  · intro address proper held
    rw [bided.files] at held
    rw [bided.store]
    rcases accounted.held address proper held with stored | doomed
    · exact Or.inl stored
    · exact Or.inr (bided.doomed address doomed)
  · rw [bided.files]
    exact accounted.others

/-- What is stored before a report is stored after it, and told of if it has changed, or doomed. -/
theorem Reported.stored_or_doomed (reported : Reported before after) {address : Address}
    (proper : address.IsProper) {zone : Resource} (found : before.store.find? address = some zone) :
    after.store.find? address = some zone ∨
      (∃ other, after.store.find? address = some other) ∧ after.IsPending address ∨
        after.IsDoomed address := by
  rcases reported.told address proper with unchanged | ⟨stored, pending⟩ | ⟨-, doomed⟩
  · exact Or.inl (unchanged.trans found)
  · exact Or.inr (Or.inl ⟨stored, pending⟩)
  · exact Or.inr (Or.inr doomed)

theorem IsAccounted.reported (accounted : before.IsAccounted handler)
    (reported : Reported before after) (zonesAfter : after.store.All Resource.IsZone) :
    after.IsAccounted handler := by
  refine ⟨fun address zone last home found settled lastEq here spaceEq => ?_, ?_, ?_⟩
  · have proper := (Store.isZoneAt_of_find? zonesAfter found).proper
    rcases reported.told address proper with unchanged | ⟨-, pending⟩ | ⟨absent, -⟩
    · rw [unchanged] at found
      rw [reported.calls] at lastEq
      rcases accounted.vouched address zone last home found
        (fun pending => settled (reported.pending address pending)) lastEq here spaceEq
        with stored | ⟨⟨other, stored⟩, pending⟩ | doomed
      · exact reported.stored_or_doomed here.proper stored
      · have pendingAfter := reported.pending home pending
        rcases reported.stored_or_doomed here.proper stored with same | ⟨stored, -⟩ | doomed
        · exact Or.inr (Or.inl ⟨⟨other, same⟩, pendingAfter⟩)
        · exact Or.inr (Or.inl ⟨stored, pendingAfter⟩)
        · exact Or.inr (Or.inr doomed)
      · exact Or.inr (Or.inr (reported.doomed home doomed))
    · exact absurd pending settled
    · rw [absent] at found
      contradiction
  · intro address proper held
    rw [reported.files] at held
    rcases accounted.held address proper held with ⟨zone, stored⟩ | doomed
    · rcases reported.stored_or_doomed proper stored with same | ⟨stored, -⟩ | doomed
      · exact Or.inl ⟨zone, same⟩
      · exact Or.inl stored
      · exact Or.inr doomed
    · exact Or.inr (reported.doomed address doomed)
  · rw [reported.files]
    exact accounted.others

section Pass

variable {key : ResourceKey} {fresh : List HandlerCall}
  (sound : before.IsSound handler (Resource.IsZoneOf declared))
  (passing : Passed handler key fresh before after)
include sound passing

/-- A pass for the zone that was materialized last settles the whole group, or, if the zone is gone,
queues the whole group. -/
theorem IsAccounted.vouched_passed (accounted : before.IsAccounted handler) {address home : Address}
    {zone last : Resource} (found : before.store.find? address = some zone)
    (elsewhere : ¬ Settles key before.store address zone)
    (settled : ¬ after.IsPending address)
    (lastEq : incumbent before.dispatcher.calls address.space zone.zoneName = some last)
    (here : last.IsZoneAt home) (spaceEq : home.space = address.space) :
    after.Vouches home last := by
  have settledBefore : ¬ before.IsPending address := fun pending =>
    settled (passing.pending pending fun itself =>
      elsewhere ⟨address, zone, itself, found, rfl, rfl⟩)
  have nameEq : zone.zoneName = declared home := by
    obtain ⟨call, present, materializes, rfl⟩ := mem_of_incumbent lastEq
    have isZone := sound.created call present materializes.1
    rw [← isZone.zoneName_eq here.toIsAt, materializes.2.2]
  -- A zone that is stored where the incumbent was declares the same name.
  have elsewhereHome {other : Resource} (stored : before.store.find? home = some other) :
      key ≠ home.zoneKey := by
    intro itself
    have there := Store.isZoneAt_of_find? sound.zones stored
    rw [Store.find?_eq_get? sound.zones] at stored
    have isZone := (sound.stored _ other (Or.inl stored)).2
    rw [← Store.find?_eq_get? sound.zones] at stored
    refine elsewhere ⟨home, other, itself, stored, spaceEq.symm, ?_⟩
    rw [nameEq, isZone.zoneName_eq there.toIsAt]
  unfold Vouches
  rw [passing.store]
  rcases accounted.vouched address zone last home found settledBefore lastEq here spaceEq
    with stored | ⟨⟨other, stored⟩, pending⟩ | doomed
  · exact Or.inl stored
  · exact Or.inr (Or.inl ⟨⟨other, stored⟩, passing.pending pending (elsewhereHome stored)⟩)
  · rcases passing.doomed doomed with still | ⟨itself, gone, kept⟩
    · exact Or.inr (Or.inr still)
    · cases stored : before.store.find? home with
      | some other => exact absurd itself (elsewhereHome stored)
      | none =>
          have keptToo := sound.kept key gone kept
          have goneHere := (sound.kept.isAt (itself ▸ Address.address_zoneKey
            here.proper.toIsWellFormed) kept).1
          have there := Store.isZoneAt_of_find? sound.zones found
          have rivals : gone.rivals zone = true := by
            rw [Resource.rivals_iff, keptToo.2.zoneName_eq goneHere]
            refine ⟨nameEq, fun same => ?_⟩
            have addressEq := there.toIsAt.eq_of_nameAny_eq goneHere spaceEq.symm same
            rw [addressEq, stored] at found
            contradiction
          have queued := passing.pass.handsOver here.proper itself stored kept
            ((Store.mem_list_iff sound.zones).2 ⟨address, spaceEq.symm, found⟩) rivals there.zoneKey
          exact absurd (Or.inr queued) settled

theorem IsAccounted.passed (accounted : before.IsAccounted handler)
    (ready : handler.IsReady before.files) : after.IsAccounted handler := by
  have placeEq : handler.place after.files = handler.place before.files :=
    Handler.place_eq passing.worked.performed.same
  refine ⟨fun address zone last home found settled lastEq here spaceEq => ?_, ?_, ?_⟩
  · rw [passing.store] at found
    by_cases settles : Settles key before.store address zone
    · obtain ⟨owner, seat, stored, stands⟩ := passing.standsFor sound.zones found settles
      obtain rfl : owner = last := Option.some.inj (stands.last_eq.symm.trans lastEq)
      rw [stands.here.toIsAt.unique here.toIsAt] at stored
      refine Or.inl ?_
      rw [passing.store]
      exact stored
    · rw [(passing.leaves sound.toIsSteady ready found settles).2] at lastEq
      exact accounted.vouched_passed sound passing found settles settled lastEq here spaceEq
  · intro address proper held
    rw [passing.store]
    cases stored : before.store.find? address with
    | some zone => exact Or.inl ⟨zone, rfl⟩
    | none =>
        have holding := passing.worked.performed.holding ready address proper
        change handler.holding after.files address = _ at holding
        rw [holding] at held
        obtain ⟨heldBefore, undue⟩ :=
          passing.pass.held_of_held sound.zones sound.buried proper stored held
        rcases accounted.held address proper heldBefore with ⟨zone, found⟩ | doomed
        · rw [stored] at found
          contradiction
        · rcases passing.doomed doomed with still | ⟨itself, gone, kept⟩
          · exact Or.inr still
          · exact absurd kept (undue gone itself)
  · intro rest node nonempty elsewhere held
    rw [placeEq] at held
    refine accounted.others rest node nonempty elsewhere ?_
    apply passing.worked.performed.others _ node _ held
    intro address proper same
    exact elsewhere address proper (List.append_cancel_left same)

end Pass

section Rest

variable {pipeline : Pipeline} (represented : pipeline.IsRepresented handler)
  (accounted : pipeline.IsAccounted handler) (steady : pipeline.IsSteady handler)
  (observed : pipeline.channel = []) (worked : pipeline.dispatcher.queue.line = [])
include represented accounted steady observed worked

/-- Nobody has released a name. -/
theorem IsAccounted.keepsName {address : Address} {zone : Resource}
    (found : pipeline.store.find? address = some zone) :
    pipeline.KeepsName address.space zone.zoneName := by
  obtain ⟨last, home, stands⟩ := represented.standsFor steady observed worked found
  have vouched := accounted.vouched address zone last home found
    (steady.not_isPending observed worked address) stands.last_eq stands.here stands.space_eq
  rcases vouched with stored | ⟨-, pending⟩ | doomed
  · obtain ⟨call, -, materializes, rfl⟩ := mem_of_incumbent stands.last_eq
    exact ⟨call.resource, stands.last_eq, call.resource,
      (Store.mem_list_iff steady.zones).2 ⟨home, stands.space_eq, stored⟩, materializes.2.2, rfl⟩
  · exact absurd pending (steady.not_isPending observed worked home)
  · exact absurd doomed (steady.not_isDoomed observed worked home)

theorem IsAccounted.mem_below_iff {rest : Place} {node : Node} :
    (rest, node) ∈ pipeline.files.below (handler.place pipeline.files) ↔
      ∃ space, ∃ zone ∈ pipeline.store.list space, ∃ name text,
        canonical zone (pipeline.store.list space) = zone ∧ Handler.fileName zone = .ok name ∧
          handler.template.render zone.zoneName = .ok text ∧ rest = [name] ∧
            node = .file text.toUTF8 := by
  rw [Files.mem_below_iff]
  constructor
  · rintro ⟨nonempty, held⟩
    obtain ⟨address, proper, rfl⟩ :
        ∃ address : Address, address.IsProper ∧ rest = [address.fileName] := by
      by_contra elsewhere
      push Not at elsewhere
      exact accounted.others rest node nonempty elsewhere held
    have holding : handler.holding pipeline.files address = some node := held
    have known := accounted.held address proper (by simp [holding])
    obtain ⟨zone, found⟩ := known.resolve_right (steady.not_isDoomed observed worked address)
    have here := Store.isZoneAt_of_find? steady.zones found
    obtain ⟨⟨text, rendered⟩, holdingEq⟩ := represented.holding_eq steady observed worked found
      (accounted.keepsName represented steady observed worked found)
    rw [holding] at holdingEq
    split at holdingEq
    · rename_i owns
      rw [Handler.material, rendered] at holdingEq
      have present := Store.mem_list_of_find? steady.zones found
      have named := Handler.fileName_of_isAt here.toIsAt proper.toIsWellFormed
      exact ⟨address.space, zone, present, address.fileName, text, owns, named, rendered, rfl,
        Option.some.inj holdingEq⟩
    · contradiction
  · rintro ⟨space, zone, present, name, text, owns, named, rendered, rfl, rfl⟩
    refine ⟨by simp, ?_⟩
    obtain ⟨address, rfl, found⟩ := (Store.mem_list_iff steady.zones).1 present
    have here := Store.isZoneAt_of_find? steady.zones found
    obtain ⟨-, holdingEq⟩ := represented.holding_eq steady observed worked found
      (accounted.keepsName represented steady observed worked found)
    rw [Handler.fileName_of_isAt here.toIsAt here.proper.toIsWellFormed, Except.ok.injEq] at named
    rw [if_pos owns, Handler.material, rendered, Handler.holding, named] at holdingEq
    exact holdingEq

/-- For every name that is declared there is one file, the file of the owner of the name. -/
theorem IsAccounted.existsUnique_below {space : String} {zone : Resource}
    (present : zone ∈ pipeline.store.list space) :
    ∃! entry, entry ∈ pipeline.files.below (handler.place pipeline.files) ∧
      ∃ owner ∈ pipeline.store.list space, owner.zoneName = zone.zoneName ∧
        ∃ name, Handler.fileName owner = .ok name ∧ entry.1 = [name] := by
  have apart := Store.namesApart_list steady.zones space
  have owns := isOwner_canonical apart present
  generalize canonical zone (pipeline.store.list space) = owner at owns
  obtain ⟨home, rfl, found⟩ := (Store.mem_list_iff steady.zones).1 owns.mem
  have here := Store.isZoneAt_of_find? steady.zones found
  have named := Handler.fileName_of_isAt here.toIsAt here.proper.toIsWellFormed
  obtain ⟨⟨text, rendered⟩, -⟩ := represented.holding_eq steady observed worked found
    (accounted.keepsName represented steady observed worked found)
  have canonicalOwner : canonical owner (pipeline.store.list home.space) = owner := by
    rw [canonical_eq_iff apart owns.mem, owns.zoneName_eq]
    exact owns
  refine ⟨([home.fileName], .file text.toUTF8), ⟨?_, ?_⟩, ?_⟩
  · rw [accounted.mem_below_iff represented steady observed worked]
    exact ⟨home.space, owner, owns.mem, home.fileName, text, canonicalOwner, named, rendered, rfl,
      rfl⟩
  · exact ⟨owner, owns.mem, owns.zoneName_eq, home.fileName, named, rfl⟩
  · rintro ⟨rest, node⟩ ⟨below, other, otherPresent, otherName, name, otherNamed, rfl⟩
    rw [accounted.mem_below_iff represented steady observed worked] at below
    obtain ⟨otherSpace, held, heldPresent, heldName, heldText, heldOwns, heldNamed, heldRendered,
      sameName, rfl⟩ := below
    -- The other file is the file of a claimant that owns the name, and so of the owner.
    obtain rfl : name = heldName := (List.cons.inj sameName).1
    obtain ⟨rfl, rfl⟩ := Store.eq_of_fileName_eq steady.zones otherPresent heldPresent otherNamed
      heldNamed
    have ownsToo := (canonical_eq_iff apart otherPresent).1 heldOwns
    rw [otherName] at ownsToo
    obtain rfl := ownsToo.unique apart owns
    rw [named, Except.ok.injEq] at heldNamed
    rw [rendered, Except.ok.injEq] at heldRendered
    rw [heldNamed, heldRendered]

end Rest

/-- Once there is nothing more to do, the directory holds exactly the files of the owners of the
names that are declared, each with the text made of the name, and one file for every name of a
namespace.  It does not matter in what order zones were listed, or vanished ones told of, on the
way. -/
theorem directory_converges {backoff : Backoff} {files : Files} {moves : List Move}
    {after : Pipeline} (ready : handler.IsReady files)
    (empty : files.below (handler.place files) = [])
    (ran : (start backoff handler files).run? moves = some after)
    (only : OnlyReports (Resource.IsZoneOf declared) moves)
    (succeeded : ∀ call ∈ after.dispatcher.calls, call.result = .ok ())
    (observed : after.channel = []) (worked : after.dispatcher.queue.line = []) :
    (∀ rest node, (rest, node) ∈ after.files.below (handler.place after.files) ↔
      ∃ space, ∃ zone ∈ after.store.list space, ∃ name text,
        canonical zone (after.store.list space) = zone ∧ Handler.fileName zone = .ok name ∧
          handler.template.render zone.zoneName = .ok text ∧ rest = [name] ∧
            node = .file text.toUTF8) ∧
    ∀ space, ∀ zone ∈ after.store.list space,
      ∃! entry, entry ∈ after.files.below (handler.place after.files) ∧
        ∃ owner ∈ after.store.list space, owner.zoneName = zone.zoneName ∧
          ∃ name, Handler.fileName owner = .ok name ∧ entry.1 = [name] := by
  have all : after.IsSound handler (Resource.IsZoneOf declared) ∧
      after.IsRepresented handler ∧ after.IsAccounted handler := by
    apply run_induction Resource.IsZoneOf.isZone _ _ _ ran only (SucceedFrom.of_forall succeeded)
      (sound_start backoff handler files)
      ⟨isRepresented_start ready, isAccounted_start empty⟩
    · rintro before after - bided ⟨represented, accounted⟩
      exact ⟨represented.bided bided, accounted.bided bided⟩
    · rintro before after - sound reported ⟨represented, accounted⟩
      exact ⟨represented.reported sound.zones reported, accounted.reported reported sound.zones⟩
    · rintro before after key fresh sound passed ⟨represented, accounted⟩
      exact ⟨represented.passed sound.toIsSteady passed,
        accounted.passed sound passed represented.ready⟩
  obtain ⟨sound, represented, accounted⟩ := all
  have steady := sound.toIsSteady
  exact ⟨fun rest node => accounted.mem_below_iff represented steady observed worked,
    fun space zone present =>
      accounted.existsUnique_below represented steady observed worked present⟩

/-- Two zones declare one name; once both are settled the elder is deleted. -/
def handingOver : List Move :=
  [ .report (.applied (Sample.zone "a" 1 "x")) .asGiven,
    .report (.applied (Sample.zone "b" 2 "x")) .asGiven, .deliver, .deliver, .work .reversed,
    .work .asGiven, .report (.deleted (Sample.zone "a" 1 "x")) .asGiven, .deliver, .work .reversed,
    .work .reversed ]

theorem isSome_handingOver :
    ((start .standard Sample.handler Sample.files).run? handingOver).isSome = true := by
  decide +kernel

def handedOver : Pipeline :=
  ((start .standard Sample.handler Sample.files).run? handingOver).get isSome_handingOver

/-- The directory then holds the file of the younger zone, and no other file for the name. -/
theorem directory_handedOver :
    (start .standard Sample.handler Sample.files).run? handingOver = some handedOver ∧
      handedOver.channel = [] ∧ handedOver.dispatcher.queue.line = [] ∧
      (∀ call ∈ handedOver.dispatcher.calls, call.result = .ok ()) ∧
      (["team_b.zone"], .file "x".toUTF8) ∈
        handedOver.files.below (Sample.handler.place handedOver.files) ∧
      ∃! entry, entry ∈ handedOver.files.below (Sample.handler.place handedOver.files) ∧
        ∃ owner ∈ handedOver.store.list "team", owner.zoneName = "x" ∧
          ∃ name, Handler.fileName owner = .ok name ∧ entry.1 = [name] := by
  have ran : (start .standard Sample.handler Sample.files).run? handingOver = some handedOver :=
    (Option.some_get isSome_handingOver).symm
  have empty : Sample.files.below (Sample.handler.place Sample.files) = [] := by decide +kernel
  have only : OnlyReports (Resource.IsZoneOf fun _ => "x") handingOver := by
    intro change shuffle present resource reported
    simp only [handingOver, List.mem_cons, Move.report.injEq, reduceCtorEq, List.not_mem_nil,
      false_or, or_false] at present
    rcases present with ⟨rfl, -⟩ | ⟨rfl, -⟩ | ⟨rfl, -⟩
    all_goals
      obtain rfl := Option.some.inj reported
      exact ⟨_, Sample.isZoneAt_zone (by decide) (by decide) _ _, rfl⟩
  have observed : handedOver.channel = [] := by decide +kernel
  have worked : handedOver.dispatcher.queue.line = [] := by decide +kernel
  have succeeded : ∀ call ∈ handedOver.dispatcher.calls, call.result = .ok () :=
    HandlerCall.all_succeeded (by decide +kernel)
  obtain ⟨below_iff, unique⟩ := directory_converges Sample.isReady_files empty ran only succeeded
    observed worked
  have listed : handedOver.store.list "team" = [Sample.zone "b" 2 "x"] := by decide +kernel
  have present : Sample.zone "b" 2 "x" ∈ handedOver.store.list "team" := by
    rw [listed]
    exact List.mem_singleton.2 rfl
  refine ⟨ran, observed, worked, succeeded, ?_, unique "team" _ present⟩
  rw [below_iff]
  exact ⟨"team", Sample.zone "b" 2 "x", present, "team_b.zone", "x", by decide +kernel, rfl, rfl,
    rfl, rfl⟩

end Pipeline

end ZoneKeeper
