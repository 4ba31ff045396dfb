import ZoneKeeper.Proofs.Dispatcher.Caches
import ZoneKeeper.Proofs.Dispatcher.Calls
import ZoneKeeper.Proofs.Handler.Outcomes

/-!
# Files of one namespace

Zones of one namespace have different files if they have different names, whatever the namespace is
called.  The deletion of several zones leaves nothing of their files and all else as it was, in
whatever order it is done: whether one of them can be deleted does not depend on the others.
-/

namespace ZoneKeeper

/-- A zone that has no other namespace than this one. -/
structure Resource.IsZoneIn (space : String) (zone : Resource) : Prop where
  kind_eq : zone.kind = .zone
  space_eq : ∀ own, zone.space? = some own → own = space

theorem Resource.IsZoneIn.address_eq {space : String} {zone : Resource} {address : Address}
    (within : zone.IsZoneIn space) (here : zone.IsAt address) : address = ⟨space, zone.nameAny⟩ :=
  Address.ext (within.space_eq address.space here.space?) here.nameAny.symm

namespace Handler

/-- The place of the file of a zone. -/
def fileAt (handler : Handler) (files : Files) (space name : String) : Place :=
  handler.place files ++ [Address.fileName ⟨space, name⟩]

def handle (handler : Handler) : Handling Files
  | .created, resource, files => handler.created resource files
  | .deleted, resource, files => handler.deleted resource files

variable {handler : Handler} {space : String} {zone : Resource} {before after other : Files}

theorem fileAt_inj {files : Files} {first second : String} :
    handler.fileAt files space first = handler.fileAt files space second ↔ first = second := by
  constructor
  · intro same
    have sameChars := congrArg String.toList (List.singleton_inj.1 (List.append_cancel_left same))
    rw [Address.toList_fileName, Address.toList_fileName] at sameChars
    have rest := (List.cons.inj (List.append_cancel_left sameChars)).2
    exact String.toList_inj.1 (List.append_cancel_right rest)
  · rintro rfl
    rfl

theorem fileAt_eq (same : before.SameDirectories after) (name : String) :
    handler.fileAt after space name = handler.fileAt before space name := by
  unfold fileAt
  rw [place_eq same]

theorem wrote_of_created (within : zone.IsZoneIn space)
    (succeeded : (handler.created zone before).1.result = .ok ()) :
    ∃ text, handler.template.render zone.zoneName = .ok text ∧
      handler.Wrote (Address.fileName ⟨space, zone.nameAny⟩) text.toUTF8 before
        (handler.created zone before).2 := by
  obtain ⟨address, text, here, -, rendered, wrote⟩ :=
    exists_wrote_of_created within.kind_eq succeeded
  rw [← within.address_eq here]
  exact ⟨text, rendered, wrote⟩

theorem removed_of_deleted (within : zone.IsZoneIn space)
    (succeeded : (handler.deleted zone before).1.result = .ok ()) :
    handler.Removed (Address.fileName ⟨space, zone.nameAny⟩) before
      (handler.deleted zone before).2 := by
  obtain ⟨address, here, -, removed⟩ := exists_removed_of_deleted within.kind_eq succeeded
  rw [← within.address_eq here]
  exact removed

/-- Whether a zone can be deleted depends on the directories alone. -/
theorem deleted_elsewhere (ready : handler.IsReady before) (same : before.SameDirectories other)
    (within : zone.IsZoneIn space)
    (succeeded : (handler.deleted zone before).1.result = .ok ()) :
    (handler.deleted zone other).1.result = .ok () := by
  unfold deleted at succeeded ⊢
  simp only [within.kind_eq] at succeeded ⊢
  obtain ⟨address, here, formed⟩ := isAt_of_deleteZone succeeded
  exact deleteZone_elsewhere ready same (fileName_of_isAt here formed) succeeded

/-- Nothing is left of some files of a namespace, and all else is as it was. -/
structure Cleared (handler : Handler) (space : String) (names : List String)
    (before after : Files) : Prop where
  same : before.SameDirectories after
  absent : ∀ name ∈ names, after.node? (handler.fileAt before space name) = none
  others : ∀ goal, (∀ name ∈ names, goal ≠ handler.fileAt before space name) →
    after.node? goal = before.node? goal

theorem Cleared.nil (handler : Handler) (space : String) (files : Files) :
    handler.Cleared space [] files files where
  same := .refl files
  absent := by simp
  others := fun _ _ => rfl

theorem Cleared.cons {name : String} {names : List String} {middle : Files}
    (ready : handler.IsReady before)
    (removed : handler.Removed (Address.fileName ⟨space, name⟩) before middle)
    (cleared : handler.Cleared space names middle after) :
    handler.Cleared space (name :: names) before after where
  same := removed.same.trans cleared.same
  absent := by
    intro other present
    rw [← fileAt_eq removed.same]
    by_cases again : other ∈ names
    · exact cleared.absent other again
    · obtain rfl : other = name := (List.mem_cons.1 present).resolve_right again
      have untouched : ∀ later ∈ names,
          handler.fileAt middle space other ≠ handler.fileAt middle space later := by
        intro later among same
        rw [fileAt_inj] at same
        exact again (same ▸ among)
      rw [cleared.others _ untouched, fileAt_eq removed.same]
      exact removed.target ready
  others := by
    intro goal elsewhere
    rw [cleared.others goal, removed.others goal]
    · exact elsewhere name List.mem_cons_self
    · intro other later
      rw [fileAt_eq removed.same]
      exact elsewhere other (List.mem_cons_of_mem name later)

/-- What is left does not depend on the order of the deletions. -/
theorem Cleared.node?_eq {names others : List String}
    (cleared : handler.Cleared space names before after)
    (clearedToo : handler.Cleared space others before other)
    (sameNames : ∀ name, name ∈ names ↔ name ∈ others) (goal : Place) :
    other.node? goal = after.node? goal := by
  by_cases hit : ∃ name ∈ names, goal = handler.fileAt before space name
  · obtain ⟨name, present, rfl⟩ := hit
    rw [cleared.absent name present, clearedToo.absent name ((sameNames name).1 present)]
  · push Not at hit
    rw [cleared.others goal hit]
    apply clearedToo.others
    intro name present
    exact hit name ((sameNames name).2 present)

theorem sameDirectories_of_performs {zones : List Resource}
    (within : ∀ zone ∈ zones, zone.IsZoneIn space)
    (performs : Performs handler.handle (zones.map Dispatcher.deleting) before after) :
    before.SameDirectories after := by
  induction zones generalizing before with
  | nil =>
      obtain rfl : after = before := performs
      exact .refl _
  | cons zone zones ih =>
      obtain ⟨deleted, rest⟩ := performs
      have removed := removed_of_deleted (within zone List.mem_cons_self) deleted.symm
      exact removed.same.trans
        (ih (fun other later => within other (List.mem_cons_of_mem zone later)) rest)

theorem cleared_of_performs {zones : List Resource} (ready : handler.IsReady before)
    (within : ∀ zone ∈ zones, zone.IsZoneIn space)
    (performs : Performs handler.handle (zones.map Dispatcher.deleting) before after) :
    handler.Cleared space (zones.map Resource.nameAny) before after := by
  induction zones generalizing before with
  | nil =>
      obtain rfl : after = before := performs
      exact .nil handler space _
  | cons zone zones ih =>
      obtain ⟨deleted, rest⟩ := performs
      have removed := removed_of_deleted (within zone List.mem_cons_self) deleted.symm
      have readyStill := (isReady_iff removed.same).2 ready
      exact .cons ready removed
        (ih readyStill (fun other later => within other (List.mem_cons_of_mem zone later)) rest)

/-- Several zones can be deleted one after the other if and only if each of them can be deleted. -/
theorem exists_performs_deletions_iff {zones : List Resource} (ready : handler.IsReady before)
    (within : ∀ zone ∈ zones, zone.IsZoneIn space) :
    (∃ after, Performs handler.handle (zones.map Dispatcher.deleting) before after) ↔
      ∀ zone ∈ zones, (handler.deleted zone before).1.result = .ok () := by
  induction zones generalizing before with
  | nil => exact ⟨by simp, fun _ => ⟨before, rfl⟩⟩
  | cons zone zones ih =>
      have withinLater := fun other later => within other (List.mem_cons_of_mem zone later)
      rw [List.forall_mem_cons]
      constructor
      · rintro ⟨after, deleted, rest⟩
        have removed := removed_of_deleted (within zone List.mem_cons_self) deleted.symm
        have readyStill := (isReady_iff removed.same).2 ready
        refine ⟨deleted.symm, fun other later => ?_⟩
        exact deleted_elsewhere readyStill removed.same.symm (withinLater other later)
          ((ih readyStill withinLater).1 ⟨after, rest⟩ other later)
      · rintro ⟨deleted, each⟩
        have removed := removed_of_deleted (within zone List.mem_cons_self) deleted
        have readyStill := (isReady_iff removed.same).2 ready
        obtain ⟨after, rest⟩ := (ih readyStill withinLater).2 fun other later =>
          deleted_elsewhere ready removed.same (withinLater other later) (each other later)
        exact ⟨after, deleted.symm, rest⟩

end Handler

end ZoneKeeper
