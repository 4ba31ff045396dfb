import ZoneKeeper.Proofs.Handler.FileNames

/-!
# What the handler does to the files

A call that succeeds settles what the directory of the handler holds under the name of one zone
file.  Apart from the file and the temporary file beside it nothing changes, and no directory is
made or unmade.
-/

namespace ZoneKeeper

namespace Handler

variable {handler : Handler} {files before after : Files} {name : String}

/-- The place of the directory for zone files. -/
def place (handler : Handler) (files : Files) : Place :=
  (files.startOf handler.directory).follow (Path.names handler.directory)

/-- The directory for zone files is there: its path leads through directories to a directory. -/
def IsReady (handler : Handler) (files : Files) : Prop :=
  ∃ place, files.walk (files.startOf handler.directory)
    (Path.names handler.directory ++ ["."]) = .ok place

theorem startOf_eq (same : before.SameDirectories after) (path : String) :
    after.startOf path = before.startOf path := by
  unfold Files.startOf
  rw [same.current]

theorem place_eq (same : before.SameDirectories after) :
    handler.place after = handler.place before := by
  unfold place
  rw [startOf_eq same]

theorem isReady_iff (same : before.SameDirectories after) :
    handler.IsReady after ↔ handler.IsReady before := by
  unfold IsReady
  rw [startOf_eq same]
  constructor
  · rintro ⟨place, walked⟩
    exact ⟨place, Files.walk_mono (fun other => (same.directory_iff other).1) walked⟩
  · rintro ⟨place, walked⟩
    exact ⟨place, Files.walk_mono (fun other => (same.directory_iff other).2) walked⟩

/-- The path of a file in the directory leads to its place in the directory, which is there. -/
theorem resolve_join {goal : Place} (component : Path.IsComponent name)
    (resolved : files.resolve (Path.join handler.directory name) = .ok goal) :
    goal = handler.place files ++ [name] ∧ handler.IsReady files := by
  have walked := Files.walk_of_resolve resolved
  have start : files.startOf (Path.join handler.directory name) =
      files.startOf handler.directory := by
    unfold Files.startOf
    rw [component.isAbsolute_join]
  rw [start, component.names_join] at walked
  refine ⟨?_, (files.startOf handler.directory).follow (Path.names handler.directory) ++ ["."], ?_⟩
  · rw [Files.walk_eq_follow walked, place, Place.follow, Place.follow, List.foldl_append]
    simp [component.ne_parent]
  · rw [Files.walk_concat walked (by decide)]
    exact if_neg (by decide)

/-- In a directory that is there no path of a file leads nowhere. -/
theorem resolve_join_ne_notFound (ready : handler.IsReady files)
    (component : Path.IsComponent name) :
    files.resolve (Path.join handler.directory name) ≠ .error .notFound := by
  obtain ⟨inner, walked⟩ := ready
  have nonempty : (Path.join handler.directory name).isEmpty = false := by
    rw [Bool.eq_false_iff]
    intro empty
    rw [String.isEmpty_iff] at empty
    have names := component.names_join handler.directory
    rw [empty] at names
    simp [Path.names, splitAt] at names
  have reached := Files.walk_concat walked component.ne_parent
  unfold Files.startOf at reached
  unfold Files.resolve
  rw [nonempty, component.isAbsolute_join, component.names_join, reached]
  split
  · simp
  · split
    · contradiction
    · split
      · simp
      · split <;> simp

/-- The directory holds a content under a name, and all else is as it was, except that a temporary
file beside it may be gone. -/
structure Wrote (handler : Handler) (name : String) (content : ByteArray)
    (before after : Files) : Prop where
  ready : handler.IsReady before
  same : before.SameDirectories after
  target : after.node? (handler.place before ++ [name]) = some (.file content)
  beside : after.node? (handler.place before ++ [temporary name]) = none ∨
    after.node? (handler.place before ++ [temporary name]) =
      before.node? (handler.place before ++ [temporary name])
  others : ∀ goal, goal ≠ handler.place before ++ [name] →
    goal ≠ handler.place before ++ [temporary name] → after.node? goal = before.node? goal

/-- The directory holds nothing under a name, and all else is as it was. -/
structure Removed (handler : Handler) (name : String) (before after : Files) : Prop where
  same : before.SameDirectories after
  target : handler.IsReady before → after.node? (handler.place before ++ [name]) = none
  others : ∀ goal, goal ≠ handler.place before ++ [name] → after.node? goal = before.node? goal

theorem name_ne_temporary (name : String) : name ≠ temporary name := by
  intro same
  have lengths := congrArg (fun text => text.toList.length) same
  simp [temporary] at lengths

/-- Writing a file beside another one and moving it there leaves no trace of the first. -/
theorem node?_replaced {target beside goal : Place} {content : ByteArray}
    (targetBelow : target ≠ []) (besideBelow : beside ≠ []) :
    (((before.set beside (.file content)).remove beside).set target (.file content)).node? goal =
      if target = goal then some (.file content)
      else if beside = goal then none else before.node? goal := by
  rw [Files.node?_set _ targetBelow, Files.node?_remove besideBelow, Files.node?_set _ besideBelow]
  split
  · rfl
  · split <;> rfl

theorem wrote_of_replace {content : ByteArray} (component : Path.IsComponent name)
    (componentBeside : Path.IsComponent (temporary name))
    (succeeded : replace (Path.join handler.directory name)
      (Path.join handler.directory (temporary name)) content before = (.ok (), after)) :
    handler.Wrote name content before after := by
  unfold replace at succeeded
  split at succeeded
  · simp at succeeded
  · rename_i written wrote
    split at succeeded
    · rename_i renamed moved
      obtain rfl : renamed = after := (Prod.mk.inj succeeded).2
      obtain ⟨beside, besideResolved, besideFree, rfl⟩ := Files.write_eq_ok wrote
      obtain ⟨rfl, ready⟩ := resolve_join componentBeside besideResolved
      have sameWritten : before.SameDirectories
          (before.set (handler.place before ++ [temporary name]) (.file content)) :=
        Files.sameDirectories_set besideFree
      obtain ⟨origin, goal, moving, originResolved, goalResolved, held, goalFree, rfl⟩ :=
        Files.rename_eq_ok moved
      obtain ⟨rfl, -⟩ := resolve_join componentBeside originResolved
      obtain ⟨rfl, -⟩ := resolve_join component goalResolved
      rw [place_eq sameWritten] at held goalFree ⊢
      rw [Files.node?_set _ (by simp), if_pos rfl, Option.some.injEq, Node.file.injEq] at held
      subst held
      have apart : handler.place before ++ [temporary name] ≠ handler.place before ++ [name] := by
        simpa using (name_ne_temporary name).symm
      have nodes (goal : Place) :
          (((before.set (handler.place before ++ [temporary name]) (.file content)).remove
            (handler.place before ++ [temporary name])).set
              (handler.place before ++ [name]) (.file content)).node? goal =
            if handler.place before ++ [name] = goal then some (.file content)
            else if handler.place before ++ [temporary name] = goal then none
            else before.node? goal :=
        node?_replaced (by simp) (by simp)
      refine ⟨ready, ⟨rfl, fun other => ?_⟩, ?_, Or.inl ?_, fun other notTarget notBeside => ?_⟩
      · rw [nodes]
        split
        · rename_i isTarget
          rw [← isTarget]
          rw [Files.node?_set _ (by simp), if_neg apart] at goalFree
          simp [goalFree]
        · split
          · rename_i isBeside
            rw [← isBeside]
            simp [besideFree]
          · rfl
      · rw [nodes, if_pos rfl]
      · rw [nodes, if_neg (Ne.symm apart), if_pos rfl]
      · rw [nodes, if_neg (Ne.symm notTarget), if_neg (Ne.symm notBeside)]
    · simp at succeeded

private theorem wrote_of_reply {content : ByteArray} {notice : Notice}
    {result : Except HandlerError Unit × Files} (component : Path.IsComponent name)
    (componentBeside : Path.IsComponent (temporary name))
    (replaced : replace (Path.join handler.directory name)
      (Path.join handler.directory (temporary name)) content before = result)
    (succeeded : (match result with
      | (.error error, files) => (Reply.failed error, files)
      | (.ok (), files) => (Reply.noting notice, files)).1.result = .ok ()) :
    handler.Wrote name content before (match result with
      | (.error error, files) => (Reply.failed error, files)
      | (.ok (), files) => (Reply.noting notice, files)).2 := by
  obtain ⟨outcome, after⟩ := result
  cases outcome with
  | error fault => simp [Reply.failed] at succeeded
  | ok => exact wrote_of_replace component componentBeside replaced

theorem wrote_of_createZone {zone : Resource} {address : Address} (here : zone.IsAt address)
    (formed : address.IsWellFormed)
    (succeeded : (handler.createZone zone before).1.result = .ok ()) :
    ∃ text, handler.template.render zone.zoneName = .ok text ∧
      handler.Wrote address.fileName text.toUTF8 before (handler.createZone zone before).2 := by
  unfold createZone at succeeded ⊢
  rw [fileName_of_isAt here formed] at succeeded ⊢
  cases rendered : handler.template.render zone.zoneName with
  | error fault => simp [rendered, Reply.failed] at succeeded
  | ok text =>
      refine ⟨text, rfl, ?_⟩
      simp only [rendered] at succeeded ⊢
      generalize replaced : replace (Path.join handler.directory address.fileName)
        (Path.join handler.directory (temporary address.fileName)) text.toUTF8 before = result
        at succeeded ⊢
      split at succeeded
      · rename_i content held
        split at succeeded
        · rename_i unchanged
          rw [if_pos unchanged]
          obtain ⟨goal, resolved, found⟩ := Files.read_eq_ok held
          obtain ⟨rfl, ready⟩ := resolve_join formed.isComponent resolved
          rw [ByteArray.ext unchanged] at found
          exact ⟨ready, .refl before, found, Or.inr rfl, fun _ _ _ => rfl⟩
        · rename_i changed
          rw [if_neg changed]
          exact wrote_of_reply formed.isComponent formed.isComponent_temporary replaced succeeded
      · exact wrote_of_reply formed.isComponent formed.isComponent_temporary replaced succeeded
      · simp [Reply.failed] at succeeded

theorem removed_of_deleteZone {zone : Resource} {address : Address} (here : zone.IsAt address)
    (formed : address.IsWellFormed)
    (succeeded : (handler.deleteZone zone before).1.result = .ok ()) :
    handler.Removed address.fileName before (handler.deleteZone zone before).2 := by
  unfold deleteZone pathOf at succeeded ⊢
  rw [fileName_of_isAt here formed] at succeeded ⊢
  simp only [Except.map] at succeeded ⊢
  split at succeeded
  · rename_i after gone
    obtain ⟨goal, content, resolved, held, rfl⟩ := Files.removeFile_eq_ok gone
    obtain ⟨rfl, ready⟩ := resolve_join formed.isComponent resolved
    refine ⟨Files.sameDirectories_remove (by simp [held]), fun _ => ?_, ?_⟩
    · rw [Files.node?_remove (by simp), if_pos rfl]
    · intro other apart
      rw [Files.node?_remove (by simp), if_neg (Ne.symm apart)]
  · rename_i missing
    refine ⟨.refl before, fun ready => ?_, fun _ _ => rfl⟩
    rcases Files.removeFile_eq_notFound missing with lost | ⟨goal, resolved, absent⟩
    · exact absurd lost (resolve_join_ne_notFound ready formed.isComponent)
    · obtain ⟨rfl, -⟩ := resolve_join formed.isComponent resolved
      exact absent
  · simp [Reply.failed] at succeeded

theorem isAt_of_createZone {zone : Resource}
    (succeeded : (handler.createZone zone before).1.result = .ok ()) :
    ∃ address, zone.IsAt address ∧ address.IsWellFormed := by
  unfold createZone at succeeded
  cases named : fileName zone with
  | error fault => simp [named, Reply.failed] at succeeded
  | ok name =>
      obtain ⟨address, here, formed, -⟩ := fileName_eq_ok_iff.1 named
      exact ⟨address, here, formed⟩

theorem isAt_of_deleteZone {zone : Resource}
    (succeeded : (handler.deleteZone zone before).1.result = .ok ()) :
    ∃ address, zone.IsAt address ∧ address.IsWellFormed := by
  unfold deleteZone pathOf at succeeded
  cases named : fileName zone with
  | error fault => simp [named, Except.map, Reply.failed] at succeeded
  | ok name =>
      obtain ⟨address, here, formed, -⟩ := fileName_eq_ok_iff.1 named
      exact ⟨address, here, formed⟩

/-- A zone that has been created has a well-formed address, and its file is written. -/
theorem exists_wrote_of_created {zone : Resource} (ofZone : zone.kind = .zone)
    (succeeded : (handler.created zone before).1.result = .ok ()) :
    ∃ address text, zone.IsAt address ∧ address.IsWellFormed ∧
      handler.template.render zone.zoneName = .ok text ∧
        handler.Wrote address.fileName text.toUTF8 before (handler.created zone before).2 := by
  simp only [created, ofZone] at succeeded ⊢
  obtain ⟨address, here, formed⟩ := isAt_of_createZone succeeded
  obtain ⟨text, rendered, wrote⟩ := wrote_of_createZone here formed succeeded
  exact ⟨address, text, here, formed, rendered, wrote⟩

/-- A zone that has been deleted has a well-formed address, and its file is gone. -/
theorem exists_removed_of_deleted {zone : Resource} (ofZone : zone.kind = .zone)
    (succeeded : (handler.deleted zone before).1.result = .ok ()) :
    ∃ address, zone.IsAt address ∧ address.IsWellFormed ∧
      handler.Removed address.fileName before (handler.deleted zone before).2 := by
  simp only [deleted, ofZone] at succeeded ⊢
  obtain ⟨address, here, formed⟩ := isAt_of_deleteZone succeeded
  exact ⟨address, here, formed, removed_of_deleteZone here formed succeeded⟩

end Handler

namespace Sample

/-- A template that makes the zone name itself of a zone name. -/
def template : Template :=
  ⟨[.output (.reference { text := "this" })]⟩

def handler : Handler :=
  ⟨"zones", template⟩

/-- The directory for zone files alone. -/
def files : Files :=
  { nodes := Table.ofList [(["zones"], .directory)] }

theorem isReady_files : handler.IsReady files :=
  ⟨["zones", "."], rfl⟩

end Sample

end ZoneKeeper
