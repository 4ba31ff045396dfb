import ZoneKeeper.Proofs.Files.Systems
import ZoneKeeper.Proofs.Handler.Effects
import ZoneKeeper.Proofs.Store.Contents

/-!
# Replacing zone files

The handler replaces a zone file as a whole or not at all, whichever operation of the file system
fails: the content is written beside the file first, so that only the file beside it can be left
incomplete.
-/

namespace ZoneKeeper.Handler

section Definitions

variable {φ : Type} (system : FileSystem φ)

/-- Writes a content beside a file and renames it over the file, whatever the file system does. -/
def replaceIn (target beside : String) (content : ByteArray) (state : φ) :
    Except HandlerError Unit × φ :=
  match system.write beside content state with
  | (.error cause, state) => (.error (.io beside cause), state)
  | (.ok (), state) =>
      match system.rename beside target state with
      | (.ok (), state) => (.ok (), state)
      | (.error cause, state) => (.error (.io target cause), (system.removeFile beside state).2)

def writeZoneIn (zone : Resource) (target beside : String) (content : ByteArray) (state : φ) :
    Reply × φ :=
  match replaceIn system target beside content state with
  | (.error error, state) => (.failed error, state)
  | (.ok (), state) => (.noting (.zoneFileWritten zone.nameAny zone.zoneName target), state)

def createZoneIn (handler : Handler) (zone : Resource) (state : φ) : Reply × φ :=
  match fileName zone with
  | .error error => (.failed (.key error), state)
  | .ok name =>
      match handler.template.render zone.zoneName with
      | .error error => (.failed error, state)
      | .ok text =>
          let target := Path.join handler.directory name
          let beside := Path.join handler.directory (temporary name)
          match system.read target state with
          | (.ok content, state) =>
              if content.data = text.toUTF8.data then ({}, state)
              else writeZoneIn system zone target beside text.toUTF8 state
          | (.error .notFound, state) => writeZoneIn system zone target beside text.toUTF8 state
          | (.error cause, state) => (.failed (.io target cause), state)

def deleteZoneIn (handler : Handler) (zone : Resource) (state : φ) : Reply × φ :=
  match handler.pathOf zone with
  | .error error => (.failed (.key error), state)
  | .ok path =>
      match system.removeFile path state with
      | (.ok (), state) => (.noting (.zoneFileRemoved zone.nameAny path), state)
      | (.error .notFound, state) => ({}, state)
      | (.error cause, state) => (.failed (.io path cause), state)

end Definitions

theorem replaceIn_tree (target beside : String) (content : ByteArray) (files : Files) :
    replaceIn .tree target beside content files = replace target beside content files := by
  unfold replaceIn replace
  simp only [FileSystem.tree]
  cases files.write beside content with
  | error cause => rfl
  | ok written =>
      dsimp only [FileSystem.settle]
      cases written.rename beside target with
      | ok renamed => rfl
      | error cause =>
          dsimp only
          cases written.removeFile beside <;> rfl

/-- Over a tree of files, this is how the handler creates a zone. -/
theorem createZoneIn_tree (handler : Handler) (zone : Resource) (files : Files) :
    handler.createZoneIn .tree zone files = handler.createZone zone files := by
  unfold createZoneIn createZone writeZoneIn
  simp only [replaceIn_tree]
  cases fileName zone with
  | error error => rfl
  | ok name =>
      cases handler.template.render zone.zoneName with
      | error error => rfl
      | ok text =>
          dsimp only [FileSystem.tree]
          generalize replaced : replace (Path.join handler.directory name)
            (Path.join handler.directory (temporary name)) text.toUTF8 files = outcome
          obtain ⟨result, after⟩ := outcome
          cases files.read (Path.join handler.directory name) with
          | ok content =>
              dsimp only
              rw [replaced]
              cases result <;> rfl
          | error cause =>
              cases cause with
              | notFound =>
                  dsimp only
                  rw [replaced]
                  cases result <;> rfl
              | _ => rfl

theorem deleteZoneIn_tree (handler : Handler) (zone : Resource) (files : Files) :
    handler.deleteZoneIn .tree zone files = handler.deleteZone zone files := by
  unfold deleteZoneIn deleteZone
  cases handler.pathOf zone with
  | error error => rfl
  | ok path =>
      simp only [FileSystem.tree]
      cases files.removeFile path with
      | ok after => rfl
      | error cause => cases cause <;> rfl

section Steps

variable {φ : Type} {system : FileSystem φ} {target beside : String} {content : ByteArray}
  {state : φ}

theorem writeZoneIn_result (zone : Resource) :
    (writeZoneIn system zone target beside content state).1.result =
      (replaceIn system target beside content state).1 := by
  unfold writeZoneIn
  split
  · rename_i failed
    rw [failed]
    rfl
  · rename_i succeeded
    rw [succeeded]
    rfl

theorem writeZoneIn_state (zone : Resource) :
    (writeZoneIn system zone target beside content state).2 =
      (replaceIn system target beside content state).2 := by
  unfold writeZoneIn
  split
  · rename_i failed
    rw [failed]
  · rename_i succeeded
    rw [succeeded]

/-- Whatever fails, only the file beside may have changed. -/
theorem sameBut_replaceIn (lawful : system.IsLawful) {error : HandlerError}
    (failed : (replaceIn system target beside content state).1 = .error error) :
    (system.files state).SameBut [beside]
      (system.files (replaceIn system target beside content state).2) := by
  have wrote := lawful.write_ok beside content state
  have unwritten := lawful.write_error beside content state
  unfold replaceIn at failed ⊢
  generalize system.write beside content state = outcome at wrote unwritten failed ⊢
  obtain ⟨result, written⟩ := outcome
  cases result with
  | error cause => exact unwritten cause rfl
  | ok =>
      have moving := lawful.rename beside target written
      dsimp only at failed ⊢
      generalize system.rename beside target written = outcome at moving failed ⊢
      obtain ⟨result, unmoved⟩ := outcome
      cases result with
      | ok => contradiction
      | error cause =>
          have unchanged := moving.of_error rfl
          have cleared := lawful.sameBut_removeFile beside unmoved
          rw [unchanged] at cleared
          exact (Files.sameBut_of_write (wrote rfl)).trans cleared

/-- If nothing fails, the content can be read from the file. -/
theorem read_replaceIn (lawful : system.IsLawful) (ofFile : Path.namesDirectory target = false)
    (succeeded : (replaceIn system target beside content state).1 = .ok ()) :
    (system.files (replaceIn system target beside content state).2).read target = .ok content ∧
      (system.files state).SameBut [target, beside]
        (system.files (replaceIn system target beside content state).2) := by
  have wrote := lawful.write_ok beside content state
  unfold replaceIn at succeeded ⊢
  generalize system.write beside content state = outcome at wrote succeeded ⊢
  obtain ⟨result, written⟩ := outcome
  cases result with
  | error cause => contradiction
  | ok =>
      have moving := lawful.rename beside target written
      dsimp only at succeeded ⊢
      generalize system.rename beside target written = outcome at moving succeeded ⊢
      obtain ⟨result, moved⟩ := outcome
      cases result with
      | error cause => contradiction
      | ok =>
          have renamed := moving.of_ok rfl
          have sameWritten := (Files.sameBut_of_write (wrote rfl)).mono
            (List.subset_cons_self target [beside])
          have sameRenamed := (Files.sameBut_of_rename renamed).mono
            (List.Perm.swap target beside []).subset
          exact ⟨Files.read_of_rename (wrote rfl) renamed ofFile, sameWritten.trans sameRenamed⟩

end Steps

variable {φ : Type} {system : FileSystem φ} {handler : Handler} {zone : Resource}
  {before after : Files} {name other : String}

/-- If one file of the directory can be reached, where the path of another one leads depends on the
directories alone. -/
theorem resolve_join_congr {goal : Place} (component : Path.IsComponent name)
    (componentToo : Path.IsComponent other) (same : before.SameDirectories after)
    (resolved : before.resolve (Path.join handler.directory other) = .ok goal) :
    after.resolve (Path.join handler.directory name) =
      before.resolve (Path.join handler.directory name) := by
  have walked := Files.walk_of_resolve resolved
  have walkedToo := Files.walk_of_resolve (same.resolve resolved)
  unfold Files.startOf at walked walkedToo
  rw [componentToo.isAbsolute_join, componentToo.names_join] at walked walkedToo
  unfold Files.resolve
  rw [component.isAbsolute_join, component.names_join, Files.walk_concat walked component.ne_parent,
    Files.walk_concat walkedToo component.ne_parent, same.current]

/-- Whatever becomes of another file, a file of the directory stays as it is. -/
theorem read_join_of_sameBut (component : Path.IsComponent name)
    (componentToo : Path.IsComponent other) (apart : name ≠ other)
    (same : before.SameBut [Path.join handler.directory other] after) :
    after.read (Path.join handler.directory name) =
      before.read (Path.join handler.directory name) := by
  cases resolvedOther : before.resolve (Path.join handler.directory other) with
  | error fault =>
      apply Files.read_congr same.same.current
      exact fun place => same.others place (by simp [resolvedOther])
  | ok goalOther =>
      obtain ⟨rfl, -⟩ := resolve_join componentToo resolvedOther
      have reached := resolve_join_congr component componentToo same.same resolvedOther
      unfold Files.read
      rw [reached]
      cases resolved : before.resolve (Path.join handler.directory name) with
      | error fault => rfl
      | ok goal =>
          obtain ⟨rfl, -⟩ := resolve_join component resolved
          have kept := same.others (handler.place before ++ [name]) (by
            simp [resolvedOther, Ne.symm apart])
          simp only [bind, Except.bind, kept]

/-- The file of this name holds the rendered text, or it is as it was; all else is as it was but for
the file beside it.  A file that holds the text already is left alone, with all else. -/
structure ReplacesFile (handler : Handler) (name : String) (rendered : Except HandlerError String)
    (result : Except HandlerError Unit) (before after : Files) : Prop where
  failed : ∀ error, result = .error error →
    after.read (Path.join handler.directory name) =
        before.read (Path.join handler.directory name) ∧
      before.SameBut [Path.join handler.directory (temporary name)] after
  succeeded : result = .ok () → ∃ text, rendered = .ok text ∧
    after.read (Path.join handler.directory name) = .ok text.toUTF8 ∧
      before.SameBut [Path.join handler.directory name,
        Path.join handler.directory (temporary name)] after
  upToDate : ∀ text, rendered = .ok text →
    before.read (Path.join handler.directory name) = .ok text.toUTF8 → after = before

/-- The file of a zone is replaced as a whole or not at all; a zone whose file has no name has none
to be replaced. -/
def ReplacesWhole (handler : Handler) (zone : Resource) (result : Except HandlerError Unit)
    (before after : Files) : Prop :=
  match fileName zone with
  | .error error => result = .error (.key error) ∧ after = before
  | .ok name =>
      ReplacesFile handler name (handler.template.render zone.zoneName) result before after

/-- The file of a zone is gone and all else is as it was, or everything is as it was. -/
def RemovesWhole (handler : Handler) (zone : Resource) (result : Except HandlerError Unit)
    (before after : Files) : Prop :=
  match result with
  | .ok () => ∃ path, handler.pathOf zone = .ok path ∧ after.read path = .error .notFound ∧
      before.SameBut [path] after
  | .error _ => after = before

theorem ReplacesFile.of_failed {rendered : Except HandlerError String} {error : HandlerError}
    (same : after = before)
    (outdated : ∀ text, rendered = .ok text →
      before.read (Path.join handler.directory name) = .ok text.toUTF8 → after = before) :
    ReplacesFile handler name rendered (.error error) before after where
  failed := fun _ _ => same ▸ ⟨rfl, .refl _ _⟩
  succeeded := nofun
  upToDate := outdated

theorem replacesFile_writeZoneIn {text : String} {state : φ} (lawful : system.IsLawful)
    (component : Path.IsComponent name) (componentBeside : Path.IsComponent (temporary name))
    (outdated : (system.files state).read (Path.join handler.directory name) ≠ .ok text.toUTF8) :
    ReplacesFile handler name (.ok text)
      (writeZoneIn system zone (Path.join handler.directory name)
        (Path.join handler.directory (temporary name)) text.toUTF8 state).1.result
      (system.files state)
      (system.files (writeZoneIn system zone (Path.join handler.directory name)
        (Path.join handler.directory (temporary name)) text.toUTF8 state).2) := by
  rw [writeZoneIn_result, writeZoneIn_state]
  refine ⟨fun error failed => ?_, fun succeeded => ?_, fun other same read => ?_⟩
  · have same := sameBut_replaceIn lawful failed
    exact ⟨read_join_of_sameBut component componentBeside (name_ne_temporary name) same, same⟩
  · obtain ⟨read, same⟩ :=
      read_replaceIn lawful (component.not_namesDirectory_join handler.directory) succeeded
    exact ⟨text, rfl, read, same⟩
  · obtain rfl : text = other := Except.ok.inj same
    exact absurd read outdated

theorem replacesWhole_createZoneIn (lawful : system.IsLawful) (handler : Handler) (zone : Resource)
    (state : φ) :
    ReplacesWhole handler zone (handler.createZoneIn system zone state).1.result
      (system.files state) (system.files (handler.createZoneIn system zone state).2) := by
  unfold ReplacesWhole createZoneIn
  cases named : fileName zone with
  | error error => exact ⟨rfl, rfl⟩
  | ok name =>
      obtain ⟨address, -, formed, rfl⟩ := fileName_eq_ok_iff.1 named
      dsimp only
      cases handler.template.render zone.zoneName with
      | error error => exact .of_failed rfl nofun
      | ok text =>
          have unread := lawful.read_files (Path.join handler.directory address.fileName) state
          have held := lawful.read_ok (Path.join handler.directory address.fileName) state
          have missing := lawful.read_notFound (Path.join handler.directory address.fileName) state
          dsimp only
          generalize system.read (Path.join handler.directory address.fileName) state = outcome
            at unread held missing ⊢
          obtain ⟨answer, asked⟩ := outcome
          rw [← unread] at held missing ⊢
          cases answer with
          | ok content =>
              have read := held content rfl
              dsimp only
              split
              · rename_i upToDate
                rw [ByteArray.ext upToDate] at read
                exact ⟨nofun, fun _ => ⟨text, rfl, read, .refl _ _⟩, fun _ _ _ => rfl⟩
              · rename_i outdated
                apply replacesFile_writeZoneIn lawful formed.isComponent
                  formed.isComponent_temporary
                rw [read]
                exact fun same => outdated (congrArg ByteArray.data (Except.ok.inj same))
          | error cause =>
              cases cause with
              | notFound =>
                  apply replacesFile_writeZoneIn lawful formed.isComponent
                    formed.isComponent_temporary
                  rw [missing rfl]
                  exact nofun
              | _ => exact .of_failed rfl fun _ _ _ => rfl

theorem removesWhole_deleteZoneIn (lawful : system.IsLawful) (handler : Handler) (zone : Resource)
    (state : φ) :
    RemovesWhole handler zone (handler.deleteZoneIn system zone state).1.result
      (system.files state) (system.files (handler.deleteZoneIn system zone state).2) := by
  unfold deleteZoneIn
  cases pathed : handler.pathOf zone with
  | error error => exact rfl
  | ok path =>
      have removing := lawful.removeFile path state
      have missing := lawful.removeFile_notFound path state
      dsimp only
      generalize system.removeFile path state = outcome at removing missing ⊢
      obtain ⟨result, asked⟩ := outcome
      cases result with
      | ok =>
          have removed := removing.of_ok rfl
          exact
            ⟨path, pathed, Files.read_of_removeFile removed, Files.sameBut_of_removeFile removed⟩
      | error cause =>
          have unchanged := removing.of_error rfl
          cases cause with
          | notFound =>
              refine ⟨path, pathed, ?_, unchanged ▸ .refl _ _⟩
              exact unchanged ▸ Files.read_of_removeFile_eq_notFound (missing rfl)
          | _ => exact unchanged

/-- Over every file system that keeps the laws, whatever fails, the file of a zone is replaced or
removed as a whole or not at all, and at most the file beside it is changed besides.  Over a tree of
files, the handler does exactly that. -/
theorem replaces_atomically (lawful : system.IsLawful) (handler : Handler) (zone : Resource) :
    (∀ state,
      ReplacesWhole handler zone (handler.createZoneIn system zone state).1.result
        (system.files state) (system.files (handler.createZoneIn system zone state).2) ∧
      RemovesWhole handler zone (handler.deleteZoneIn system zone state).1.result
        (system.files state) (system.files (handler.deleteZoneIn system zone state).2)) ∧
    ∀ files,
      handler.createZoneIn .tree zone files = handler.createZone zone files ∧
      handler.deleteZoneIn .tree zone files = handler.deleteZone zone files :=
  ⟨fun state => ⟨replacesWhole_createZoneIn lawful handler zone state,
    removesWhole_deleteZoneIn lawful handler zone state⟩,
    fun files => ⟨createZoneIn_tree handler zone files, deleteZoneIn_tree handler zone files⟩⟩

/-- The file of a zone is there with another content. -/
def stale : Files :=
  Sample.files.set ["zones", "team_a.zone"] (.file "old".toUTF8)

/-- If there is no space left, the old content stays, and the file beside it is empty. -/
theorem replaces_atomically_full :
    (Sample.handler.createZoneIn .full (Sample.zone "a" 1 "x") stale).1.result =
        .error (.io "zones/team_a.zone.tmp" (.other "No space left on device (os error 28)")) ∧
      (Sample.handler.createZoneIn .full (Sample.zone "a" 1 "x") stale).2.read
        "zones/team_a.zone.tmp" = .ok .empty ∧
      (Sample.handler.createZoneIn .full (Sample.zone "a" 1 "x") stale).2.read
        "zones/team_a.zone" = .ok "old".toUTF8 := by
  have failed : (Sample.handler.createZoneIn .full (Sample.zone "a" 1 "x") stale).1.result =
      .error (.io "zones/team_a.zone.tmp" (.other "No space left on device (os error 28)")) := by
    decide +kernel
  obtain ⟨whole, -⟩ :=
    replaces_atomically FileSystem.isLawful_full Sample.handler (Sample.zone "a" 1 "x")
  have replaces := (whole stale).1
  have named : fileName (Sample.zone "a" 1 "x") = .ok "team_a.zone" := by decide
  rw [ReplacesWhole, named] at replaces
  obtain ⟨kept, -⟩ := replaces.failed _ failed
  refine ⟨failed, by decide +kernel, ?_⟩
  exact kept.trans (by decide +kernel)

end ZoneKeeper.Handler
