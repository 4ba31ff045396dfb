import ZoneKeeper.Proofs.Dispatcher.Losers
import ZoneKeeper.Proofs.Dispatcher.Results
import ZoneKeeper.Proofs.Handler.Deletions
import ZoneKeeper.Proofs.Pipeline.Runs

/-!
# One owner for each name

A pass that settles a zone leaves one file for its zone name, that of the owner among the zone and
those that are listed, whatever the caches have told before and after.  The files of all other
claimants are gone, and apart from these files and the temporary one of the owner nothing has
changed.  In which order the zones are listed does not matter.
-/

namespace ZoneKeeper

theorem namesApart_of_nodup {zones : List Resource}
    (distinct : (zones.map Resource.nameAny).Nodup) : NamesApart zones :=
  fun _ found _ foundToo sameName => List.inj_on_of_nodup_map distinct found foundToo sameName

namespace Dispatcher

/-- A zone that a key stands for, and other zones of its namespace, no two of one name.  The zone
may be missing among them, or be there in another state. -/
structure IsGroup (address : Address) (zone : Resource) (others : List Resource) : Prop where
  nameAny_eq : zone.nameAny = address.name
  isZoneIn : zone.IsZoneIn address.space
  isZoneIn_of_mem : ∀ other ∈ others, other.IsZoneIn address.space
  distinct : (others.map Resource.nameAny).Nodup

/-- The owner of a zone name has a file with the text for the name, no other claimant has a file,
and all else is as it was, except for the temporary file of the owner. -/
structure IsSettled (handler : Handler) (space : String) (zone : Resource)
    (others : List Resource) (before after : Files) : Prop where
  written : ∃ text, handler.template.render zone.zoneName = .ok text ∧
    after.node? (handler.fileAt before space (canonical zone others).nameAny) =
      some (.file text.toUTF8)
  cleared : ∀ other, IsClaimant zone others other →
    other.nameAny ≠ (canonical zone others).nameAny →
      after.node? (handler.fileAt before space other.nameAny) = none
  untouched : ∀ goal,
    (∀ other, IsClaimant zone others other →
      goal ≠ handler.fileAt before space other.nameAny) →
    goal ≠ handler.place before ++
      [Handler.temporary (Address.fileName ⟨space, (canonical zone others).nameAny⟩)] →
    after.node? goal = before.node? goal

section Settling

variable {handler : Handler} {address : Address} {zone gone : Resource} {others : List Resource}
  {buried : Option Resource} {before after : Files}

theorem IsGroup.isZoneIn_of_isClaimant {other : Resource} (group : IsGroup address zone others)
    (claims : IsClaimant zone others other) : other.IsZoneIn address.space := by
  rcases claims with rfl | listed
  · exact group.isZoneIn
  · exact group.isZoneIn_of_mem other (mem_claimants.1 listed).1

/-- The calls that settle a zone name: what is kept of an earlier zone is deleted, the owner is
created, and the other claimants are deleted. -/
def settlingCalls (buried : Option Resource) (zone : Resource) (others : List Resource) :
    List HandlerCall :=
  buried.toList.map deleting ++ settlement zone others

theorem map_granted_requests (buried : Option Resource) (zone : Resource)
    (others : List Resource) :
    (passRequests .zone buried (some zone) others).map HandlerCall.granted =
      settlingCalls buried zone others := by
  rw [passRequests, List.map_append, map_granted_deletions, requestsFor, settlingRequests,
    List.map_cons, map_granted_deletions]
  rfl

/-- The three stages of settling: the deletion of an earlier zone, the creation of the owner, and
the deletions of the other claimants. -/
theorem performs_settlingCalls_iff :
    Performs handler.handle (settlingCalls buried zone others) before after ↔
      ∃ middle, Performs handler.handle (buried.toList.map deleting) before middle ∧
        (handler.created (canonical zone others) middle).1.result = .ok () ∧
          Performs handler.handle
            ((superseded zone (canonical zone others) others).map deleting)
            (handler.created (canonical zone others) middle).2 after := by
  unfold settlingCalls
  rw [performs_append_iff]
  simp only [settlement, Performs, Handler.handle, eq_comm]

theorem IsGroup.isZoneIn_of_mem_superseded {other : Resource}
    (group : IsGroup address zone others)
    (lost : other ∈ superseded zone (canonical zone others) others) :
    other.IsZoneIn address.space :=
  group.isZoneIn_of_isClaimant (isClaimant_of_mem_superseded lost).1

theorem isSettled_of_performs (group : IsGroup address zone others)
    (earlier : ∀ gone ∈ buried, gone.IsZoneIn address.space ∧ gone.nameAny = zone.nameAny)
    (performs : Performs handler.handle (settlingCalls buried zone others) before after) :
    IsSettled handler address.space zone others before after := by
  obtain ⟨middle, early, created, late⟩ := performs_settlingCalls_iff.1 performs
  have owner := isClaimant_canonical zone others
  obtain ⟨text, rendered, wrote⟩ :=
    Handler.wrote_of_created (group.isZoneIn_of_isClaimant owner) created
  have earlyWithin : ∀ gone ∈ buried.toList, gone.IsZoneIn address.space :=
    fun gone kept => (earlier gone (Option.mem_toList.1 kept)).1
  have sameEarly := Handler.sameDirectories_of_performs earlyWithin early
  have clearedEarly := Handler.cleared_of_performs ((Handler.isReady_iff sameEarly).1 wrote.ready)
    earlyWithin early
  have clearedLate := Handler.cleared_of_performs ((Handler.isReady_iff wrote.same).2 wrote.ready)
    (fun other lost => group.isZoneIn_of_mem_superseded lost) late
  have sameLate := sameEarly.trans wrote.same
  rw [canonical_zoneName] at rendered
  refine ⟨⟨text, rendered, ?_⟩, ?_, ?_⟩
  · -- The file of the owner is written, and it is not retired afterwards.
    rw [clearedLate.others]
    · rw [← Handler.fileAt_eq sameEarly]
      exact wrote.target
    · intro name lost
      rw [Handler.fileAt_eq sameLate, ne_eq, Handler.fileAt_inj]
      rintro rfl
      obtain ⟨loser, among, sameName⟩ := List.mem_map.1 lost
      exact (isClaimant_of_mem_superseded among).2 sameName
  · intro other claims lost
    rw [← Handler.fileAt_eq sameLate]
    exact clearedLate.absent other.nameAny (nameAny_mem_superseded claims lost)
  · intro goal elsewhere notTemporary
    rw [clearedLate.others, wrote.others, clearedEarly.others]
    · intro name kept
      obtain ⟨gone, among, rfl⟩ := List.mem_map.1 kept
      rw [(earlier gone (Option.mem_toList.1 among)).2]
      exact elsewhere zone (Or.inl rfl)
    · rw [Handler.place_eq sameEarly]
      exact elsewhere _ owner
    · rw [Handler.place_eq sameEarly]
      exact notTemporary
    · intro name lost
      obtain ⟨loser, among, rfl⟩ := List.mem_map.1 lost
      rw [Handler.fileAt_eq sameLate]
      exact elsewhere loser (isClaimant_of_mem_superseded among).1

/-- What settling comes to does not depend on the order in which the zones are listed. -/
theorem exists_performs_of_perm {reordered : List Resource} (group : IsGroup address zone others)
    (same : reordered.Perm others)
    (performs : Performs handler.handle (settlingCalls buried zone others) before after) :
    ∃ final, Performs handler.handle (settlingCalls buried zone reordered) before final ∧
      ∀ goal, final.node? goal = after.node? goal := by
  obtain ⟨middle, early, created, late⟩ := performs_settlingCalls_iff.1 performs
  obtain ⟨_, -, wrote⟩ :=
    Handler.wrote_of_created (group.isZoneIn_of_isClaimant (isClaimant_canonical zone others))
      created
  have ready := (Handler.isReady_iff wrote.same).2 wrote.ready
  have sameOwner : canonical zone reordered = canonical zone others :=
    canonical_of_perm (namesApart_of_nodup group.distinct) same
  have sameLosers : (superseded zone (canonical zone others) reordered).Perm
      (superseded zone (canonical zone others) others) := superseded_perm same
  have within : ∀ other ∈ superseded zone (canonical zone others) others,
      other.IsZoneIn address.space := fun other lost => group.isZoneIn_of_mem_superseded lost
  have withinToo : ∀ other ∈ superseded zone (canonical zone others) reordered,
      other.IsZoneIn address.space := fun other lost => within other (sameLosers.mem_iff.1 lost)
  have each := (Handler.exists_performs_deletions_iff ready within).1 ⟨after, late⟩
  obtain ⟨final, lateToo⟩ := (Handler.exists_performs_deletions_iff ready withinToo).2
    fun other lost => each other (sameLosers.mem_iff.1 lost)
  refine ⟨final, performs_settlingCalls_iff.2 ⟨middle, early, ?_⟩, fun goal => ?_⟩
  · rw [sameOwner]
    exact ⟨created, lateToo⟩
  · exact (Handler.cleared_of_performs ready within late).node?_eq
      (Handler.cleared_of_performs ready withinToo lateToo)
      (fun name => (sameLosers.map Resource.nameAny).symm.mem_iff) goal

end Settling

section Passes

variable {τ φ : Type} {caches : Caches τ} {handle : Handling φ} {key : ResourceKey}
  {address : Address}

/-- A pass to which the caches tell what they know moves the handlers by its calls. -/
theorem performs_process {found : Option Resource} {others : List Resource}
    {state : Dispatcher (τ × φ)}
    (told : Told (caches.beside handle) key address found others state) :
    ∃ calls, Concludes key
        (passRequests key.kind (state.tombstones.get? key) found others)
        (endingOf key (state.tombstones.get? key) found) state
        (state.process (caches.beside handle) key) calls ∧
      Performs handle calls state.world.2
        (state.process (caches.beside handle) key).2.world.2 := by
  obtain ⟨calls, called, attempts, result⟩ := concludes_reconcile told
  have answers : ∀ other source, key.address = .ok other →
      (state.lookup (caches.beside handle) key).1 ≠ .error source := by
    intro other source _ failed
    rw [told.answered] at failed
    contradiction
  obtain ⟨same, calledToo, performs⟩ := performs_of_acts (acts_reconcile answers)
  obtain rfl : same = calls := List.append_cancel_left (calledToo.symm.trans called)
  rw [process_world]
  exact ⟨same, ⟨by rw [process_calls, called], attempts, by rw [process_result, result]⟩, performs⟩

/-- If a pass for a zone succeeds, all its calls do. -/
theorem performs_of_synced {zone : Resource} {others : List Resource} {state : Dispatcher (τ × φ)}
    (told : Told (caches.beside handle) key address (some zone) others state)
    (ofZone : key.kind = .zone)
    (synced : (state.process (caches.beside handle) key).1 = .ok .synced) :
    (state.process (caches.beside handle) key).2.calls =
        state.calls ++ settlingCalls (state.tombstones.get? key) zone others ∧
      Performs handle (settlingCalls (state.tombstones.get? key) zone others) state.world.2
        (state.process (caches.beside handle) key).2.world.2 := by
  obtain ⟨calls, ⟨called, attempts, result⟩, performs⟩ := performs_process told
  obtain ⟨ok, -⟩ := forall_ok_of_concluded (result.symm.trans synced)
  rw [ofZone] at attempts
  obtain rfl := (attempts.eq_map_granted ok).trans (map_granted_requests _ zone others)
  exact ⟨called, performs⟩

/-- If all calls that settle a zone name would be granted, the pass succeeds. -/
theorem synced_of_performs {zone : Resource} {others : List Resource} {state : Dispatcher (τ × φ)}
    {final : φ} (told : Told (caches.beside handle) key address (some zone) others state)
    (ofZone : key.kind = .zone)
    (grants : Performs handle (settlingCalls (state.tombstones.get? key) zone others)
      state.world.2 final) :
    (state.process (caches.beside handle) key).1 = .ok .synced ∧
      (state.process (caches.beside handle) key).2.world.2 = final := by
  obtain ⟨calls, ⟨-, attempts, result⟩, performs⟩ := performs_process told
  rw [ofZone] at attempts
  rw [← map_granted_requests] at grants
  obtain rfl := attempts.eq_of_grants performs grants
  refine ⟨?_, performs.unique grants⟩
  rw [result]
  apply concluded_of_forall
  intro call present
  obtain ⟨request, -, rfl⟩ := List.mem_map.1 present
  rfl

/-- If a pass succeeds for a zone that its key stands for, the calls after those for an earlier zone
create the owner of the zone name and then delete every other claimant once.  That leaves one file
for the zone name, with what the template makes of it; and if the zones had been listed in another
order, the pass would have succeeded and left the same directory. -/
theorem settled_of_synced {handler : Handler} {zone : Resource} {others : List Resource}
    {state : Dispatcher (τ × Files)}
    (told : Told (caches.beside handler.handle) key address (some zone) others state)
    (ofZone : key.kind = .zone) (group : IsGroup address zone others)
    (buried : ∀ gone, state.tombstones.get? key = some gone → gone.key = .ok key)
    (synced : (state.process (caches.beside handler.handle) key).1 = .ok .synced) :
    let owner := canonical zone others
    let after := (state.process (caches.beside handler.handle) key).2
    (after.calls = state.calls ++ ((state.tombstones.get? key).toList.map deleting ++
        ⟨.created, owner, .ok ()⟩ :: (superseded zone owner others).map deleting) ∧
      ((superseded zone owner others).map Resource.nameAny).Nodup ∧
      ∀ loser ∈ superseded zone owner others,
        IsClaimant zone others loser ∧ loser.nameAny ≠ owner.nameAny) ∧
    IsSettled handler address.space zone others state.world.2 after.world.2 ∧
    ∀ {υ : Type} (elsewhere : Caches υ) (other : Dispatcher (υ × Files))
      (reordered : List Resource),
      reordered.Perm others →
      Told (elsewhere.beside handler.handle) key address (some zone) reordered other →
      other.tombstones.get? key = state.tombstones.get? key → other.world.2 = state.world.2 →
      (other.process (elsewhere.beside handler.handle) key).1 = .ok .synced ∧
        ∀ goal, (other.process (elsewhere.beside handler.handle) key).2.world.2.node? goal =
          after.world.2.node? goal := by
  intro owner after
  obtain ⟨called, performs⟩ := performs_of_synced told ofZone synced
  have earlier : ∀ gone ∈ state.tombstones.get? key,
      gone.IsZoneIn address.space ∧ gone.nameAny = zone.nameAny := by
    intro gone kept
    obtain ⟨here, kindEq, -⟩ :=
      Resource.isAt_of_key_of_address (buried gone kept) told.addressed
    have spaceEq : ∀ own, gone.space? = some own → own = address.space :=
      fun own spaced => Option.some.inj (spaced.symm.trans here.space?)
    exact ⟨⟨kindEq.trans ofZone, spaceEq⟩, here.nameAny.trans group.nameAny_eq.symm⟩
  refine ⟨⟨called, nodup_superseded group.distinct, fun loser lost =>
    isClaimant_of_mem_superseded lost⟩, isSettled_of_performs group earlier performs, ?_⟩
  intro υ elsewhere other reordered same toldToo sameBuried sameFiles
  obtain ⟨final, grants, nodes⟩ := exists_performs_of_perm group same performs
  rw [← sameBuried, ← sameFiles] at grants
  obtain ⟨syncedToo, outcome⟩ := synced_of_performs toldToo ofZone grants
  refine ⟨syncedToo, fun goal => ?_⟩
  rw [outcome]
  exact nodes goal

end Passes

end Dispatcher

namespace Sample

/-- Caches that always answer the same. -/
def caches (found : Resource) (others : List Resource) : Caches Unit where
  lookup _ _ world := (.ok (some found), world)
  list _ _ world := (.ok others, world)
  hasSynced _ _ := true

/-- An older zone of the zone name "x", and an earlier state of the zone that asks. -/
def contestants : List Resource :=
  [zone "b" 0 "y", zone "a" 1 "x"]

abbrev contested : Backend (Unit × Files) :=
  (caches (zone "b" 2 "x") contestants).beside handler.handle

/-- A zone was deleted and made again, and its file is still there. -/
def recreated : Dispatcher (Unit × Files) where
  queue := .withBackoff .standard
  tombstones := Table.ofList [(⟨"team/b", .zone⟩, zone "b" 1 "w")]
  world := ((), files.set ["zones", "team_b.zone"] (.file "w".toUTF8))

theorem isZoneIn_zone (name : String) (created : Int) (zoneName : String) :
    (zone name created zoneName).IsZoneIn "team" :=
  ⟨rfl, fun _ spaced => (Option.some.inj spaced).symm⟩

theorem isGroup_contestants : Dispatcher.IsGroup ⟨"team", "b"⟩ (zone "b" 2 "x") contestants := by
  refine ⟨by decide, isZoneIn_zone _ _ _, ?_, by decide⟩
  simp only [contestants, List.forall_mem_cons]
  exact ⟨isZoneIn_zone _ _ _, isZoneIn_zone _ _ _, by simp⟩

theorem get?_recreated :
    recreated.tombstones.get? ⟨"team/b", .zone⟩ = some (zone "b" 1 "w") := by
  decide +kernel

end Sample

namespace Dispatcher

theorem settled_of_synced_recreated :
    Told Sample.contested ⟨"team/b", .zone⟩ ⟨"team", "b"⟩ (some (Sample.zone "b" 2 "x"))
        Sample.contestants Sample.recreated ∧
      (Sample.recreated.process Sample.contested ⟨"team/b", .zone⟩).1 = .ok .synced ∧
      (Sample.recreated.process Sample.contested ⟨"team/b", .zone⟩).2.calls =
        [deleting (Sample.zone "b" 1 "w"), ⟨.created, Sample.zone "a" 1 "x", .ok ()⟩,
          deleting (Sample.zone "b" 2 "x")] ∧
      (Sample.recreated.process Sample.contested ⟨"team/b", .zone⟩).2.world.2.node?
        ["zones", "team_a.zone"] = some (.file "x".toUTF8) ∧
      (Sample.recreated.process Sample.contested ⟨"team/b", .zone⟩).2.world.2.node?
        ["zones", "team_b.zone"] = none := by
  have told : Told Sample.contested ⟨"team/b", .zone⟩ ⟨"team", "b"⟩
      (some (Sample.zone "b" 2 "x")) Sample.contestants Sample.recreated := by
    refine ⟨by decide +kernel, rfl, ?_⟩
    rintro resource -
    rfl
  have synced : (Sample.recreated.process Sample.contested ⟨"team/b", .zone⟩).1 =
      .ok .synced := by
    decide +kernel
  have buried : ∀ gone, Sample.recreated.tombstones.get? ⟨"team/b", .zone⟩ = some gone →
      gone.key = .ok ⟨"team/b", .zone⟩ := by
    intro gone found
    obtain rfl := Option.some.inj (Sample.get?_recreated.symm.trans found)
    decide +kernel
  have owner : canonical (Sample.zone "b" 2 "x") Sample.contestants = Sample.zone "a" 1 "x" := by
    decide +kernel
  have losers : superseded (Sample.zone "b" 2 "x") (Sample.zone "a" 1 "x") Sample.contestants =
      [Sample.zone "b" 2 "x"] := by
    decide +kernel
  have rendered : Sample.handler.template.render "x" = .ok "x" := by decide +kernel
  have elderPlace : Sample.handler.fileAt Sample.recreated.world.2 "team" "a" =
      ["zones", "team_a.zone"] := by
    decide +kernel
  have ownPlace : Sample.handler.fileAt Sample.recreated.world.2 "team" "b" =
      ["zones", "team_b.zone"] := by
    decide +kernel
  obtain ⟨⟨called, -⟩, settled, -⟩ :=
    settled_of_synced told rfl Sample.isGroup_contestants buried synced
  have fresh : Sample.recreated.calls = [] := rfl
  rw [fresh, Sample.get?_recreated, owner, losers] at called
  obtain ⟨text, renderedToo, written⟩ := settled.written
  have cleared := settled.cleared (Sample.zone "b" 2 "x") (Or.inl rfl) (by rw [owner]; decide)
  obtain rfl : "x" = text := Except.ok.inj (rendered.symm.trans renderedToo)
  rw [owner] at written
  generalize Sample.recreated.process Sample.contested ⟨"team/b", .zone⟩ = passed
    at called settled written cleared synced ⊢
  exact ⟨told, synced, called, elderPlace ▸ written, ownPlace ▸ cleared⟩

end Dispatcher

end ZoneKeeper
