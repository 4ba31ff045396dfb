import ZoneKeeper.Proofs.Files.Places

/-!
# File systems that fail

The operations on a tree of files fail for what is in the tree alone.  Those of a real file system
may fail at any time for other reasons as well, but they keep some laws: renaming and removing a
file takes effect as a whole or not at all, and writing that fails affects nothing but the file that
was to be written.
-/

namespace ZoneKeeper

namespace Files

variable {files before after : Files} {path : String} {paths : List String}

/-- All is as it was but what some paths lead to, and no directory is made or unmade. -/
structure SameBut (paths : List String) (before after : Files) : Prop where
  same : before.SameDirectories after
  others : ∀ place, (∀ path ∈ paths, before.resolve path ≠ .ok place) →
    after.node? place = before.node? place

namespace SameBut

theorem refl (paths : List String) (files : Files) : files.SameBut paths files :=
  ⟨.refl files, fun _ _ => rfl⟩

theorem trans {first second third : Files} (left : first.SameBut paths second)
    (right : second.SameBut paths third) : first.SameBut paths third where
  same := left.same.trans right.same
  others := fun place elsewhere => by
    rw [right.others place, left.others place elsewhere]
    exact fun path present resolved =>
      elsewhere path present (left.same.symm.resolve resolved)

theorem mono {more : List String} (same : before.SameBut paths after) (subset : paths ⊆ more) :
    before.SameBut more after :=
  ⟨same.same, fun place elsewhere =>
    same.others place fun path present => elsewhere path (subset present)⟩

end SameBut

theorem sameBut_of_write {content : ByteArray} (written : files.write path content = .ok after) :
    files.SameBut [path] after := by
  obtain ⟨place, resolved, noDirectory, rfl⟩ := write_eq_ok written
  refine ⟨sameDirectories_set noDirectory, fun other elsewhere => ?_⟩
  rw [node?_set _ (ne_nil_of_node?_ne noDirectory), if_neg]
  rintro rfl
  exact elsewhere path List.mem_cons_self resolved

theorem sameBut_of_removeFile (removed : files.removeFile path = .ok after) :
    files.SameBut [path] after := by
  obtain ⟨place, content, resolved, held, rfl⟩ := removeFile_eq_ok removed
  have noDirectory : files.node? place ≠ some .directory := by simp [held]
  refine ⟨sameDirectories_remove noDirectory, fun other elsewhere => ?_⟩
  rw [node?_remove (ne_nil_of_node?_ne noDirectory), if_neg]
  rintro rfl
  exact elsewhere path List.mem_cons_self resolved

theorem sameBut_of_rename {target : String} (renamed : files.rename path target = .ok after) :
    files.SameBut [path, target] after := by
  obtain ⟨origin, goal, content, resolved, resolvedGoal, held, goalFree, rfl⟩ :=
    rename_eq_ok renamed
  have noDirectory : files.node? origin ≠ some .directory := by simp [held]
  have below := ne_nil_of_node?_ne noDirectory
  have goalStillFree : (files.remove origin).node? goal ≠ some .directory := by
    rw [node?_remove below]
    split
    · exact nofun
    · exact goalFree
  refine ⟨(sameDirectories_remove noDirectory).trans (sameDirectories_set goalStillFree),
    fun other elsewhere => ?_⟩
  rw [node?_set _ (ne_nil_of_node?_ne goalFree), if_neg, node?_remove below, if_neg]
  · rintro rfl
    exact elsewhere path (by simp) resolved
  · rintro rfl
    exact elsewhere target (by simp) resolvedGoal

theorem walk_congr (nodes : ∀ place, after.node? place = before.node? place) (directory : Place)
    (names : List String) : after.walk directory names = before.walk directory names := by
  induction names generalizing directory with
  | nil => rfl
  | cons name names ih => simp only [walk, nodes, ih]

theorem read_congr (current : after.current = before.current)
    (nodes : ∀ place, after.node? place = before.node? place) (path : String) :
    after.read path = before.read path := by
  simp only [read, resolve, current, walk_congr nodes, nodes]

theorem read_of_node {place : Place} {content : ByteArray}
    (resolved : files.resolve path = .ok place) (held : files.node? place = some (.file content))
    (ofFile : Path.namesDirectory path = false) :
    files.read path = .ok content := by
  simp [read, resolved, bind, Except.bind, held, ofFile]

theorem read_of_none {place : Place} (resolved : files.resolve path = .ok place)
    (absent : files.node? place = none) : files.read path = .error .notFound := by
  simp [read, resolved, bind, Except.bind, absent]

theorem read_of_removeFile (removed : files.removeFile path = .ok after) :
    after.read path = .error .notFound := by
  obtain ⟨place, content, resolved, held, rfl⟩ := removeFile_eq_ok removed
  have noDirectory : files.node? place ≠ some .directory := by simp [held]
  apply read_of_none ((sameDirectories_remove noDirectory).resolve resolved)
  rw [node?_remove (ne_nil_of_node?_ne noDirectory), if_pos rfl]

/-- A file that could not be found to be removed is not there to be read. -/
theorem read_of_removeFile_eq_notFound (missing : files.removeFile path = .error .notFound) :
    files.read path = .error .notFound := by
  rcases removeFile_eq_notFound missing with lost | ⟨place, resolved, absent⟩
  · simp [read, lost, bind, Except.bind]
  · exact read_of_none resolved absent

/-- What has been written and then renamed can be read under the new name. -/
theorem read_of_rename {target : String} {content : ByteArray} {written : Files}
    (wrote : files.write path content = .ok written)
    (renamed : written.rename path target = .ok after)
    (ofFile : Path.namesDirectory target = false) : after.read target = .ok content := by
  have sameWritten := (sameBut_of_write wrote).same
  have sameRenamed := (sameBut_of_rename renamed).same
  obtain ⟨place, resolved, noDirectory, rfl⟩ := write_eq_ok wrote
  obtain ⟨origin, goal, moved, resolvedOrigin, resolvedGoal, held, goalFree, rfl⟩ :=
    rename_eq_ok renamed
  obtain rfl : place = origin :=
    Except.ok.inj ((sameWritten.resolve resolved).symm.trans resolvedOrigin)
  rw [node?_set _ (ne_nil_of_node?_ne noDirectory), if_pos rfl] at held
  obtain rfl : content = moved := Node.file.inj (Option.some.inj held)
  apply read_of_node (sameRenamed.resolve resolvedGoal) _ ofFile
  rw [node?_set _ (ne_nil_of_node?_ne goalFree), if_pos rfl]

end Files

/-- The operations of a file system.  Whether they fail may depend on a state, of which the files
are a part. -/
structure FileSystem (φ : Type) where
  files : φ → Files
  read : String → φ → Except FileError ByteArray × φ
  write : String → ByteArray → φ → Except FileError Unit × φ
  rename : String → String → φ → Except FileError Unit × φ
  removeFile : String → φ → Except FileError Unit × φ

namespace FileSystem

/-- An operation has had its effect on a tree as a whole, or none at all. -/
def AllOrNothing (effect : Except FileError Files) (before : Files)
    (result : Except FileError Unit) (after : Files) : Prop :=
  match result with
  | .ok () => effect = .ok after
  | .error _ => after = before

section AllOrNothing

variable {effect : Except FileError Files} {before after : Files} {result : Except FileError Unit}

theorem AllOrNothing.of_ok (did : AllOrNothing effect before result after)
    (succeeded : result = .ok ()) : effect = .ok after := by
  subst succeeded
  exact did

theorem AllOrNothing.of_error (did : AllOrNothing effect before result after) {error : FileError}
    (failed : result = .error error) : after = before := by
  subst failed
  exact did

end AllOrNothing

/-- What holds of the operations, whenever they fail. -/
structure IsLawful {φ : Type} (system : FileSystem φ) : Prop where
  read_files : ∀ path state, system.files (system.read path state).2 = system.files state
  read_ok : ∀ path state content, (system.read path state).1 = .ok content →
    (system.files state).read path = .ok content
  /-- A file that is there is not reported to be missing. -/
  read_notFound : ∀ path state, (system.read path state).1 = .error .notFound →
    (system.files state).read path = .error .notFound
  write_ok : ∀ path content state, (system.write path content state).1 = .ok () →
    (system.files state).write path content =
      .ok (system.files (system.write path content state).2)
  /-- Some of the content may have been written, or what was there may be lost. -/
  write_error : ∀ path content state error, (system.write path content state).1 = .error error →
    (system.files state).SameBut [path] (system.files (system.write path content state).2)
  rename : ∀ source target state,
    AllOrNothing ((system.files state).rename source target) (system.files state)
      (system.rename source target state).1 (system.files (system.rename source target state).2)
  removeFile : ∀ path state,
    AllOrNothing ((system.files state).removeFile path) (system.files state)
      (system.removeFile path state).1 (system.files (system.removeFile path state).2)
  removeFile_notFound : ∀ path state, (system.removeFile path state).1 = .error .notFound →
    (system.files state).removeFile path = .error .notFound

theorem IsLawful.sameBut_removeFile {φ : Type} {system : FileSystem φ} (lawful : system.IsLawful)
    (path : String) (state : φ) :
    (system.files state).SameBut [path] (system.files (system.removeFile path state).2) := by
  have did := lawful.removeFile path state
  cases result : (system.removeFile path state).1 with
  | ok => exact Files.sameBut_of_removeFile (did.of_ok result)
  | error error =>
      rw [did.of_error result]
      exact .refl [path] _

/-- The result of an operation on a tree, and the tree that is left. -/
def settle (effect : Except FileError Files) (files : Files) : Except FileError Unit × Files :=
  match effect with
  | .ok after => (.ok (), after)
  | .error error => (.error error, files)

/-- A tree of files, whose operations only fail for what is in it. -/
def tree : FileSystem Files where
  files := id
  read path files := (files.read path, files)
  write path content files := settle (files.write path content) files
  rename source target files := settle (files.rename source target) files
  removeFile path files := settle (files.removeFile path) files

theorem allOrNothing_settle (effect : Except FileError Files) (files : Files) :
    AllOrNothing effect files (settle effect files).1 (settle effect files).2 := by
  cases effect with
  | ok after => exact rfl
  | error error => exact rfl

theorem settle_eq_error {effect : Except FileError Files} {files : Files} {error : FileError}
    (failed : (settle effect files).1 = .error error) : effect = .error error := by
  cases effect with
  | ok after => contradiction
  | error other => exact congrArg Except.error (Except.error.inj failed)

theorem isLawful_tree : tree.IsLawful where
  read_files := fun _ _ => rfl
  read_ok := fun _ _ _ read => read
  read_notFound := fun _ _ missing => missing
  write_ok := fun _ _ _ succeeded => (allOrNothing_settle _ _).of_ok succeeded
  write_error := by
    intro path content files error failed
    have unchanged : (tree.write path content files).2 = files :=
      (allOrNothing_settle (files.write path content) files).of_error failed
    rw [unchanged]
    exact .refl [path] files
  rename := fun source target files => allOrNothing_settle (files.rename source target) files
  removeFile := fun path files => allOrNothing_settle (files.removeFile path) files
  removeFile_notFound := fun _ _ => settle_eq_error

/-- There is no space left: what is written to is left empty. -/
def full : FileSystem Files :=
  { tree with
    write := fun path _ files =>
      match files.write path .empty with
      | .ok emptied => (.error (.other "No space left on device (os error 28)"), emptied)
      | .error error => (.error error, files) }

theorem isLawful_full : full.IsLawful :=
  { isLawful_tree with
    write_ok := by
      intro path content files succeeded
      dsimp only [full] at succeeded
      split at succeeded <;> contradiction
    write_error := by
      intro path content files error _
      dsimp only [full]
      split
      · rename_i emptied
        exact Files.sameBut_of_write emptied
      · exact .refl [path] files }

end FileSystem

end ZoneKeeper
