import ZoneKeeper.Proofs.Handler.Replacement

/-!
# When calls of the handler succeed

Whether a zone file can be written or removed depends on the directories alone: its path must lead
to something that is no directory, and so must the path of the temporary file if the file is to be
written.  It need not be written if it holds the text of its zone already.  To write it all the same
makes no difference: either the same text is there in the end, or that fails and nothing is changed.
-/

namespace ZoneKeeper

namespace Files

variable {files before after : Files} {path target beside : String}

/-- The trees hold the same nodes and are seen from the same directory. -/
structure Alike (before after : Files) : Prop where
  current : after.current = before.current
  nodes : ∀ place, after.node? place = before.node? place

namespace Alike

theorem refl (files : Files) : files.Alike files :=
  ⟨rfl, fun _ => rfl⟩

theorem trans {first second third : Files} (left : first.Alike second)
    (right : second.Alike third) : first.Alike third :=
  ⟨right.current.trans left.current, fun place => (right.nodes place).trans (left.nodes place)⟩

theorem same (alike : before.Alike after) : before.SameDirectories after :=
  ⟨alike.current, fun place => by rw [alike.nodes]⟩

end Alike

/-- The path leads to something that is no directory. -/
def IsOpen (files : Files) (path : String) : Prop :=
  ∃ place, files.resolve path = .ok place ∧ files.node? place ≠ some .directory

theorem IsOpen.elsewhere (isOpen : before.IsOpen path) (same : before.SameDirectories after) :
    after.IsOpen path := by
  obtain ⟨place, resolved, noDirectory⟩ := isOpen
  refine ⟨place, same.resolve resolved, fun directory => ?_⟩
  exact noDirectory ((same.directory_iff place).1 directory)

theorem write_of_isOpen (isOpen : files.IsOpen path) (content : ByteArray) :
    ∃ place, files.resolve path = .ok place ∧ files.node? place ≠ some .directory ∧
      files.write path content = .ok (files.set place (.file content)) := by
  obtain ⟨place, resolved, noDirectory⟩ := isOpen
  refine ⟨place, resolved, noDirectory, ?_⟩
  simp [write, resolved, bind, Except.bind, isDirectory, noDirectory]

theorem isOpen_of_write {content : ByteArray} (written : files.write path content = .ok after) :
    files.IsOpen path ∧ files.SameDirectories after := by
  obtain ⟨place, resolved, noDirectory, rfl⟩ := write_eq_ok written
  exact ⟨⟨place, resolved, noDirectory⟩, sameDirectories_set noDirectory⟩

/-- To remove what was written where nothing was brings back what was there before. -/
theorem removeFile_of_write {content : ByteArray} (written : files.write path content = .ok after)
    (vacant : ∀ place, files.resolve path = .ok place → files.node? place = none) :
    ∃ restored, after.removeFile path = .ok restored ∧ files.Alike restored := by
  obtain ⟨place, resolved, noDirectory, rfl⟩ := write_eq_ok written
  have below := ne_nil_of_node?_ne noDirectory
  have same : files.SameDirectories (files.set place (.file content)) :=
    sameDirectories_set noDirectory
  refine ⟨(files.set place (.file content)).remove place, ?_, rfl, fun goal => ?_⟩
  · simp [removeFile, same.resolve resolved, bind, Except.bind, node?_set _ below]
  · rw [node?_remove below]
    split
    · rename_i there
      rw [← there, vacant place resolved]
    · rename_i elsewhere
      rw [node?_set _ below, if_neg elsewhere]

/-- At an open path there is a file or nothing. -/
theorem IsOpen.node?_eq {place : Place} (isOpen : files.IsOpen path)
    (resolved : files.resolve path = .ok place) :
    files.node? place = none ∨ ∃ content, files.node? place = some (.file content) := by
  obtain ⟨other, resolvedToo, noDirectory⟩ := isOpen
  obtain rfl : place = other := Except.ok.inj (resolved.symm.trans resolvedToo)
  cases held : files.node? place with
  | none => exact Or.inl rfl
  | some node =>
      cases node with
      | directory => exact absurd held noDirectory
      | file content => exact Or.inr ⟨content, rfl⟩

end Files

namespace Handler

variable {handler : Handler} {zone : Resource} {files before after other : Files}
  {target beside name text : String} {content : ByteArray}

/-- A content can be written beside a file and moved there if and only if both can be written. -/
theorem replace_ok_iff :
    (replace target beside content files).1 = .ok () ↔
      files.IsOpen target ∧ files.IsOpen beside := by
  constructor
  · intro succeeded
    unfold replace at succeeded
    split at succeeded
    · contradiction
    · rename_i written wrote
      obtain ⟨besideOpen, same⟩ := Files.isOpen_of_write wrote
      split at succeeded
      · rename_i renamed moved
        obtain ⟨-, goal, -, -, resolved, -, noDirectory, -⟩ := Files.rename_eq_ok moved
        have targetOpen : written.IsOpen target := ⟨goal, resolved, noDirectory⟩
        exact ⟨targetOpen.elsewhere same.symm, besideOpen⟩
      · contradiction
  · rintro ⟨targetOpen, besideOpen⟩
    obtain ⟨place, resolved, noDirectory, wrote⟩ := Files.write_of_isOpen besideOpen content
    have same : files.SameDirectories (files.set place (.file content)) :=
      Files.sameDirectories_set noDirectory
    obtain ⟨goal, resolvedGoal, goalFree⟩ := targetOpen.elsewhere same
    have held : (files.set place (.file content)).node? place = some (.file content) := by
      rw [Files.node?_set _ (Files.ne_nil_of_node?_ne noDirectory), if_pos rfl]
    unfold replace
    rw [wrote]
    simp [Files.rename, same.resolve resolved, resolvedGoal, bind, Except.bind, held,
      Files.isDirectory, goalFree]

/-- If nothing was there beside the file, nothing is left there by a failure. -/
theorem alike_of_replace {error : HandlerError}
    (failed : replace target beside content before = (.error error, after))
    (vacant : ∀ place, before.resolve beside = .ok place → before.node? place = none) :
    before.Alike after := by
  unfold replace at failed
  split at failed
  · obtain rfl := (Prod.mk.inj failed).2
    exact .refl before
  · rename_i written wrote
    split at failed
    · simp at failed
    · obtain ⟨restored, removed, alike⟩ := Files.removeFile_of_write wrote vacant
      rw [removed] at failed
      obtain rfl := (Prod.mk.inj failed).2
      exact alike

/-- Writes the file of a zone, whatever it holds. -/
def rewriteZone (handler : Handler) (zone : Resource) (files : Files) : Reply × Files :=
  match fileName zone with
  | .error error => (.failed (.key error), files)
  | .ok name =>
      match handler.template.render zone.zoneName with
      | .error error => (.failed error, files)
      | .ok text =>
          writeZoneIn .tree zone (Path.join handler.directory name)
            (Path.join handler.directory (temporary name)) text.toUTF8 files

theorem rewriteZone_result (named : fileName zone = .ok name)
    (rendered : handler.template.render zone.zoneName = .ok text) :
    (handler.rewriteZone zone files).1.result =
      (replace (Path.join handler.directory name) (Path.join handler.directory (temporary name))
        text.toUTF8 files).1 := by
  unfold rewriteZone
  simp only [named, rendered]
  rw [writeZoneIn_result, replaceIn_tree]

theorem rewriteZone_files (named : fileName zone = .ok name)
    (rendered : handler.template.render zone.zoneName = .ok text) :
    (handler.rewriteZone zone files).2 =
      (replace (Path.join handler.directory name) (Path.join handler.directory (temporary name))
        text.toUTF8 files).2 := by
  unfold rewriteZone
  simp only [named, rendered]
  rw [writeZoneIn_state, replaceIn_tree]

/-- The file is written unless it holds the text already or cannot be read. -/
theorem createZone_eq (named : fileName zone = .ok name)
    (rendered : handler.template.render zone.zoneName = .ok text) :
    handler.createZone zone files =
      match files.read (Path.join handler.directory name) with
      | .ok content =>
          if content.data = text.toUTF8.data then ({}, files) else handler.rewriteZone zone files
      | .error .notFound => handler.rewriteZone zone files
      | .error cause => (.failed (.io (Path.join handler.directory name) cause), files) := by
  rw [← createZoneIn_tree]
  unfold createZoneIn rewriteZone
  simp only [named, rendered, FileSystem.tree]
  cases files.read (Path.join handler.directory name) with
  | ok content => rfl
  | error cause => cases cause <;> rfl

/-- To write a zone file is reported, whether it fails or not. -/
theorem rewriteZone_ne_unchanged (named : fileName zone = .ok name)
    (rendered : handler.template.render zone.zoneName = .ok text) :
    handler.rewriteZone zone files ≠ ({}, files) := by
  intro unreported
  have reply := congrArg Prod.fst unreported
  unfold rewriteZone writeZoneIn at reply
  simp only [named, rendered] at reply
  split at reply
  · simp [Reply.failed] at reply
  · simp [Reply.noting] at reply

/-- A zone file that can be read is left alone exactly if it holds the text of its zone. -/
theorem createZone_eq_unchanged_iff {content : ByteArray} (named : fileName zone = .ok name)
    (rendered : handler.template.render zone.zoneName = .ok text)
    (held : files.read (Path.join handler.directory name) = .ok content) :
    handler.createZone zone files = ({}, files) ↔ content = text.toUTF8 := by
  rw [createZone_eq named rendered, held]
  by_cases same : content = text.toUTF8
  · simp [same]
  · have different : content.data ≠ text.toUTF8.data := fun data => same (ByteArray.ext data)
    simp only [different, if_false, same, iff_false]
    exact rewriteZone_ne_unchanged named rendered

/-- A file of the directory that can be written can be read, unless it is missing. -/
theorem read_join_of_isOpen (component : Path.IsComponent name)
    (isOpen : files.IsOpen (Path.join handler.directory name)) :
    files.node? (handler.place files ++ [name]) = none ∧
        files.read (Path.join handler.directory name) = .error .notFound ∨
      ∃ content, files.node? (handler.place files ++ [name]) = some (.file content) ∧
        files.read (Path.join handler.directory name) = .ok content := by
  obtain ⟨goal, resolved, -⟩ := id isOpen
  obtain ⟨rfl, -⟩ := resolve_join component resolved
  rcases isOpen.node?_eq resolved with absent | ⟨content, held⟩
  · exact Or.inl ⟨absent, Files.read_of_none resolved absent⟩
  · exact Or.inr ⟨content, held,
      Files.read_of_node resolved held (component.not_namesDirectory_join handler.directory)⟩

theorem createZone_ok_iff (named : fileName zone = .ok name)
    (rendered : handler.template.render zone.zoneName = .ok text) :
    (handler.createZone zone files).1.result = .ok () ↔
      files.IsOpen (Path.join handler.directory name) ∧
        (files.node? (handler.place files ++ [name]) = some (.file text.toUTF8) ∨
          files.IsOpen (Path.join handler.directory (temporary name))) := by
  obtain ⟨address, -, formed, rfl⟩ := fileName_eq_ok_iff.1 named
  have component := formed.isComponent
  have rewritten : (handler.rewriteZone zone files).1.result = .ok () ↔
      files.IsOpen (Path.join handler.directory address.fileName) ∧
        files.IsOpen (Path.join handler.directory (temporary address.fileName)) := by
    rw [rewriteZone_result named rendered, replace_ok_iff]
  rw [createZone_eq named rendered]
  constructor
  · intro succeeded
    split at succeeded
    · rename_i content read
      obtain ⟨goal, resolved, held⟩ := Files.read_eq_ok read
      obtain ⟨rfl, -⟩ := resolve_join component resolved
      split at succeeded
      · rename_i unchanged
        rw [ByteArray.ext unchanged] at held
        exact ⟨⟨_, resolved, by simp [held]⟩, Or.inl held⟩
      · obtain ⟨targetOpen, besideOpen⟩ := rewritten.1 succeeded
        exact ⟨targetOpen, Or.inr besideOpen⟩
    · obtain ⟨targetOpen, besideOpen⟩ := rewritten.1 succeeded
      exact ⟨targetOpen, Or.inr besideOpen⟩
    · simp [Reply.failed] at succeeded
  · rintro ⟨targetOpen, upToDate | besideOpen⟩
    · rcases read_join_of_isOpen component targetOpen with ⟨absent, -⟩ | ⟨content, held, read⟩
      · rw [absent] at upToDate
        contradiction
      · obtain rfl : content = text.toUTF8 := by simpa [held] using upToDate
        simp [read]
    · have succeeds := rewritten.2 ⟨targetOpen, besideOpen⟩
      rcases read_join_of_isOpen component targetOpen with ⟨-, read⟩ | ⟨content, -, read⟩
      · rw [read]
        exact succeeds
      · rw [read]
        dsimp only
        split
        · rfl
        · exact succeeds

/-- A zone that can be created in one tree can be created in another one with the same directories,
unless its file is up to date in the first one alone. -/
theorem createZone_elsewhere (same : before.SameDirectories other)
    (named : fileName zone = .ok name)
    (rendered : handler.template.render zone.zoneName = .ok text)
    (upToDate : before.node? (handler.place before ++ [name]) = some (.file text.toUTF8) →
      other.node? (handler.place before ++ [name]) = some (.file text.toUTF8))
    (succeeded : (handler.createZone zone before).1.result = .ok ()) :
    (handler.createZone zone other).1.result = .ok () := by
  rw [createZone_ok_iff named rendered] at succeeded ⊢
  obtain ⟨targetOpen, held | besideOpen⟩ := succeeded
  · refine ⟨targetOpen.elsewhere same, Or.inl ?_⟩
    rw [place_eq same]
    exact upToDate held
  · exact ⟨targetOpen.elsewhere same, Or.inr (besideOpen.elsewhere same)⟩

/-- A file that is written where it is already is left as it was. -/
theorem Wrote.alike {content : ByteArray} (wrote : handler.Wrote name content before after)
    (held : before.node? (handler.place before ++ [name]) = some (.file content))
    (vacant : before.node? (handler.place before ++ [temporary name]) = none) :
    before.Alike after := by
  refine ⟨wrote.same.current, fun goal => ?_⟩
  by_cases isTarget : goal = handler.place before ++ [name]
  · rw [isTarget, wrote.target, held]
  · by_cases isBeside : goal = handler.place before ++ [temporary name]
    · rcases wrote.beside with gone | kept
      · rw [isBeside, gone, vacant]
      · rw [isBeside, kept]
    · exact wrote.others goal isTarget isBeside

/-- Where a zone can be created, it makes no difference if its file is written in any case. -/
theorem alike_rewriteZone (named : fileName zone = .ok name)
    (rendered : handler.template.render zone.zoneName = .ok text)
    (vacant : files.node? (handler.place files ++ [temporary name]) = none)
    (succeeded : (handler.createZone zone files).1.result = .ok ()) :
    (handler.createZone zone files).2.Alike (handler.rewriteZone zone files).2 := by
  obtain ⟨address, -, formed, rfl⟩ := fileName_eq_ok_iff.1 named
  rw [createZone_eq named rendered] at succeeded ⊢
  split at succeeded
  · rename_i content read
    split at succeeded
    · rename_i unchanged
      obtain ⟨goal, resolved, held⟩ := Files.read_eq_ok read
      obtain ⟨rfl, -⟩ := resolve_join formed.isComponent resolved
      rw [ByteArray.ext unchanged] at held
      rw [if_pos unchanged, rewriteZone_files named rendered]
      generalize replaced : replace (Path.join handler.directory address.fileName)
        (Path.join handler.directory (temporary address.fileName)) text.toUTF8 files = result
      obtain ⟨outcome, after⟩ := result
      cases outcome with
      | ok =>
          exact (wrote_of_replace formed.isComponent formed.isComponent_temporary replaced).alike
            held vacant
      | error fault =>
          apply alike_of_replace replaced
          intro place besideResolved
          obtain ⟨rfl, -⟩ := resolve_join formed.isComponent_temporary besideResolved
          exact vacant
    · rename_i changed
      rw [if_neg changed]
      exact .refl _
  · exact .refl _
  · simp [Reply.failed] at succeeded

theorem deleteZone_ok_iff (ready : handler.IsReady files) (named : fileName zone = .ok name) :
    (handler.deleteZone zone files).1.result = .ok () ↔
      files.IsOpen (Path.join handler.directory name) := by
  obtain ⟨address, -, formed, rfl⟩ := fileName_eq_ok_iff.1 named
  unfold deleteZone pathOf
  rw [named]
  simp only [Except.map]
  constructor
  · intro succeeded
    split at succeeded
    · rename_i removed gone
      obtain ⟨goal, content, resolved, held, -⟩ := Files.removeFile_eq_ok gone
      exact ⟨goal, resolved, by simp [held]⟩
    · rename_i missing
      rcases Files.removeFile_eq_notFound missing with lost | ⟨goal, resolved, absent⟩
      · exact absurd lost (resolve_join_ne_notFound ready formed.isComponent)
      · exact ⟨goal, resolved, by simp [absent]⟩
    · simp [Reply.failed] at succeeded
  · intro isOpen
    obtain ⟨goal, resolved, -⟩ := id isOpen
    unfold Files.removeFile
    rcases isOpen.node?_eq resolved with absent | ⟨content, held⟩
    · simp [resolved, bind, Except.bind, absent]
    · simp [resolved, bind, Except.bind, held, Reply.noting]

/-- Whether a zone can be deleted depends on the directories alone. -/
theorem deleteZone_elsewhere (ready : handler.IsReady before) (same : before.SameDirectories other)
    (named : fileName zone = .ok name)
    (succeeded : (handler.deleteZone zone before).1.result = .ok ()) :
    (handler.deleteZone zone other).1.result = .ok () := by
  rw [deleteZone_ok_iff ready named] at succeeded
  rw [deleteZone_ok_iff ((isReady_iff same).2 ready) named]
  exact succeeded.elsewhere same

end Handler

end ZoneKeeper
