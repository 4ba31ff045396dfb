import ZoneKeeper.Files
import Mathlib.Tactic.Common

/-!
# Where paths lead

A path that can be walked leads to a place that depends on its names alone and not on what else is
in the tree: only the directories on the way decide whether it can be walked at all.  The operations
on files change the nodes at the places that their paths lead to, and never make or unmake a
directory.
-/

namespace ZoneKeeper

/-- Where names lead from a place, whatever may be there. -/
def Place.follow (place : Place) (names : List String) : Place :=
  names.foldl (fun place name => if name = ".." then place.dropLast else place ++ [name]) place

namespace Path

/-- A name that leads from a directory to a node in it. -/
structure IsComponent (name : String) : Prop where
  ne_empty : name ≠ ""
  ne_here : name ≠ "."
  ne_parent : name ≠ ".."
  slash_not_mem : '/' ∉ name.toList

variable {name : String}

theorem IsComponent.names (component : IsComponent name) : names name = [name] := by
  unfold Path.names
  rw [splitAt_of_not_mem component.slash_not_mem]
  simp [component.ne_empty, component.ne_here]

theorem IsComponent.not_isAbsolute (component : IsComponent name) : isAbsolute name = false := by
  unfold isAbsolute
  cases chars : name.toList with
  | nil => rfl
  | cons head tail =>
      have apart : head ≠ '/' := by
        rintro rfl
        exact component.slash_not_mem (by simp [chars])
      simp [apart]

/-- The names of a path that goes on behind a slash. -/
theorem names_slash (front back : String) :
    names (front ++ "/" ++ back) = names front ++ names back := by
  have chars : (front ++ "/" ++ back).toList = front.toList ++ '/' :: back.toList := by simp
  unfold names
  rw [chars, splitAt_append]
  simp

theorem names_append_of_slash {front : String} (slashed : front.toList.getLast? = some '/')
    (back : String) : names (front ++ back) = names front ++ names back := by
  obtain ⟨init, shape⟩ := List.getLast?_eq_some_iff.1 slashed
  obtain rfl : front = String.ofList init ++ "/" := by
    rw [← String.toList_inj]
    simp [shape]
  have bare : String.ofList init ++ "/" = String.ofList init ++ "/" ++ "" := by simp
  rw [names_slash, bare, names_slash]
  simp [names, splitAt]

theorem IsComponent.names_join (component : IsComponent name) (directory : String) :
    Path.names (join directory name) = Path.names directory ++ [name] := by
  unfold join
  rw [component.not_isAbsolute, Bool.false_or]
  split
  · rename_i empty
    rw [String.isEmpty_iff] at empty
    subst empty
    rw [component.names]
    rfl
  · split
    · rename_i slashed
      rw [names_append_of_slash slashed, component.names]
    · rw [names_slash, component.names]

theorem IsComponent.isAbsolute_join (component : IsComponent name) (directory : String) :
    isAbsolute (join directory name) = isAbsolute directory := by
  unfold join
  rw [component.not_isAbsolute, Bool.false_or]
  split
  · rename_i empty
    rw [String.isEmpty_iff] at empty
    subst empty
    exact component.not_isAbsolute
  · rename_i full
    have nonempty : directory.toList ≠ [] := by simpa using full
    obtain ⟨head, tail, chars⟩ := List.exists_cons_of_ne_nil nonempty
    unfold isAbsolute
    split <;> simp [chars]

/-- The path of a file in a directory does not ask for a directory. -/
theorem IsComponent.not_namesDirectory_join (component : IsComponent name) (directory : String) :
    namesDirectory (join directory name) = false := by
  have last (front : String) : namesDirectory (front ++ "/" ++ name) = false := by
    have chars : (front ++ "/" ++ name).toList = front.toList ++ '/' :: name.toList := by simp
    unfold namesDirectory
    rw [chars, splitAt_append, splitAt_of_not_mem component.slash_not_mem]
    simp [component.ne_empty, component.ne_here]
  unfold join
  split
  · unfold namesDirectory
    rw [splitAt_of_not_mem component.slash_not_mem]
    simp [component.ne_empty, component.ne_here]
  · split
    · rename_i slashed
      obtain ⟨init, shape⟩ := List.getLast?_eq_some_iff.1 slashed
      obtain rfl : directory = String.ofList init ++ "/" := by
        rw [← String.toList_inj]
        simp [shape]
      exact last _
    · exact last directory

end Path

namespace Files

variable {files : Files}

/-- The directory that a path starts from. -/
def startOf (files : Files) (path : String) : Place :=
  if Path.isAbsolute path then [] else files.current

theorem walk_eq_follow {directory place : Place} {names : List String}
    (walked : files.walk directory names = .ok place) : place = directory.follow names := by
  induction names generalizing directory with
  | nil => exact (Except.ok.inj walked).symm
  | cons name names ih =>
      rw [walk] at walked
      rw [Place.follow, List.foldl_cons]
      by_cases upwards : name = ".."
      · rw [if_pos upwards] at walked ⊢
        exact ih walked
      · rw [if_neg upwards] at walked ⊢
        split at walked
        · contradiction
        · dsimp only at walked
          split at walked
          · rename_i last
            rw [List.isEmpty_iff] at last
            rw [last]
            exact (Except.ok.inj walked).symm
          · split at walked
            · contradiction
            · contradiction
            · exact ih walked

/-- What can be walked in one tree can be walked in every tree that has its directories. -/
theorem walk_mono {other : Files} (kept : ∀ place, files.node? place = some .directory →
      other.node? place = some .directory) {directory place : Place} {names : List String}
    (walked : files.walk directory names = .ok place) : other.walk directory names = .ok place := by
  induction names generalizing directory with
  | nil => exact walked
  | cons name names ih =>
      rw [walk] at walked ⊢
      split at walked
      · rename_i upwards
        rw [if_pos upwards]
        exact ih walked
      · rename_i onwards
        rw [if_neg onwards]
        split at walked
        · contradiction
        · rename_i short
          rw [if_neg short]
          dsimp only at walked ⊢
          split at walked
          · rename_i last
            rw [if_pos last]
            exact walked
          · rename_i more
            rw [if_neg more]
            split at walked
            · contradiction
            · contradiction
            · rename_i here
              rw [kept _ here]
              exact ih walked

/-- Whether the last name leads on from the directory before it depends on its length alone. -/
theorem walk_concat {directory place : Place} {names : List String} {name other : String}
    (walked : files.walk directory (names ++ [name]) = .ok place)
    (onwards : other ≠ "..") :
    files.walk directory (names ++ [other]) =
      if longestName < other.utf8ByteSize then .error .nameTooLong
      else .ok (directory.follow names ++ [other]) := by
  induction names generalizing directory with
  | nil =>
      simp [walk, onwards, Place.follow]
  | cons head names ih =>
      rw [List.cons_append, walk] at walked ⊢
      rw [Place.follow, List.foldl_cons]
      have more (last : String) : (names ++ [last]).isEmpty = false := by simp
      split at walked
      · rename_i upwards
        rw [if_pos upwards, if_pos upwards]
        exact ih walked
      · rename_i inwards
        rw [if_neg inwards, if_neg inwards]
        split at walked
        · contradiction
        · rename_i short
          simp only [if_neg short, more, Bool.false_eq_true, if_false] at walked ⊢
          split at walked
          · contradiction
          · contradiction
          · rename_i here
            exact ih walked

theorem walk_of_resolve {path : String} {place : Place}
    (resolved : files.resolve path = .ok place) :
    files.walk (files.startOf path) (Path.names path) = .ok place := by
  unfold resolve at resolved
  split at resolved
  · contradiction
  · split at resolved
    · contradiction
    · split at resolved
      · contradiction
      · exact resolved

theorem node?_set {place other : Place} (node : Node) (below : place ≠ []) :
    (files.set place node).node? other =
      if place = other then some node else files.node? other := by
  unfold node? set
  by_cases same : place = other
  · subst same
    simp [below]
  · simp [same, Table.get?_insert_of_ne _ _ same]

theorem node?_remove {place other : Place} (below : place ≠ []) :
    (files.remove place).node? other = if place = other then none else files.node? other := by
  unfold node? remove
  by_cases same : place = other
  · subst same
    simp [below]
  · simp [same, Table.get?_erase_of_ne _ same]

theorem mem_below_iff {directory rest : Place} {node : Node} :
    (rest, node) ∈ files.below directory ↔
      rest ≠ [] ∧ files.node? (directory ++ rest) = some node := by
  unfold below
  simp only [List.mem_filterMap, Option.ite_none_right_eq_some, Bool.and_eq_true,
    decide_eq_true_eq, Option.some.injEq, Prod.mk.injEq, Prod.exists, List.isPrefixOf_iff_prefix]
  constructor
  · rintro ⟨place, found, present, ⟨⟨other, rfl⟩, longer⟩, shape, rfl⟩
    rw [List.drop_left] at shape
    subst shape
    have nonempty : other ≠ [] := by
      rintro rfl
      simp at longer
    refine ⟨nonempty, ?_⟩
    simp [node?, nonempty, Table.get?_eq_some_iff, present]
  · rintro ⟨nonempty, held⟩
    simp only [node?, List.isEmpty_iff, List.append_eq_nil_iff, nonempty, and_false, if_false,
      Table.get?_eq_some_iff] at held
    refine ⟨directory ++ rest, node, held, ⟨List.prefix_append _ _, ?_⟩, List.drop_left, rfl⟩
    have longer := List.length_pos_iff.2 nonempty
    rw [List.length_append]
    omega

/-- The trees have the same directories and are seen from the same one. -/
structure SameDirectories (before after : Files) : Prop where
  current : after.current = before.current
  directory_iff : ∀ place,
    after.node? place = some .directory ↔ before.node? place = some .directory

namespace SameDirectories

variable {before after : Files}

theorem refl (files : Files) : files.SameDirectories files :=
  ⟨rfl, fun _ => Iff.rfl⟩

theorem trans {first second third : Files} (left : first.SameDirectories second)
    (right : second.SameDirectories third) : first.SameDirectories third :=
  ⟨right.current.trans left.current,
    fun place => (right.directory_iff place).trans (left.directory_iff place)⟩

theorem symm (same : before.SameDirectories after) : after.SameDirectories before :=
  ⟨same.current.symm, fun place => (same.directory_iff place).symm⟩

theorem resolve (same : before.SameDirectories after) {path : String} {place : Place}
    (resolved : before.resolve path = .ok place) : after.resolve path = .ok place := by
  unfold Files.resolve at resolved ⊢
  split at resolved
  · contradiction
  · split at resolved
    · contradiction
    · split at resolved
      · contradiction
      · rename_i textual nonempty short
        rw [if_neg textual, if_neg nonempty, if_neg short, same.current]
        exact walk_mono (fun other => (same.directory_iff other).2) resolved

end SameDirectories

/-- The root is a directory. -/
theorem ne_nil_of_node?_ne {place : Place} (noDirectory : files.node? place ≠ some .directory) :
    place ≠ [] := by
  rintro rfl
  exact noDirectory rfl

theorem sameDirectories_set {place : Place} {content : ByteArray}
    (noDirectory : files.node? place ≠ some .directory) :
    files.SameDirectories (files.set place (.file content)) := by
  refine ⟨rfl, fun other => ?_⟩
  rw [node?_set _ (ne_nil_of_node?_ne noDirectory)]
  split
  · rename_i same
    subst same
    simp [noDirectory]
  · rfl

theorem sameDirectories_remove {place : Place}
    (noDirectory : files.node? place ≠ some .directory) :
    files.SameDirectories (files.remove place) := by
  refine ⟨rfl, fun other => ?_⟩
  rw [node?_remove (ne_nil_of_node?_ne noDirectory)]
  split
  · rename_i same
    subst same
    simp [noDirectory]
  · rfl

theorem read_eq_ok {path : String} {content : ByteArray}
    (succeeded : files.read path = .ok content) :
    ∃ place, files.resolve path = .ok place ∧ files.node? place = some (.file content) := by
  unfold read at succeeded
  cases resolved : files.resolve path with
  | error fault => simp [resolved, bind, Except.bind] at succeeded
  | ok place =>
      simp only [resolved, bind, Except.bind] at succeeded
      cases found : files.node? place with
      | none => simp [found] at succeeded
      | some node =>
          cases node with
          | directory => simp [found] at succeeded
          | file held =>
              simp only [found] at succeeded
              split at succeeded
              · contradiction
              · exact ⟨place, rfl, by rw [← Except.ok.inj succeeded, found]⟩

theorem write_eq_ok {path : String} {content : ByteArray} {after : Files}
    (succeeded : files.write path content = .ok after) :
    ∃ place, files.resolve path = .ok place ∧ files.node? place ≠ some .directory ∧
      after = files.set place (.file content) := by
  unfold write at succeeded
  cases resolved : files.resolve path with
  | error fault => simp [resolved, bind, Except.bind] at succeeded
  | ok place =>
      simp only [resolved, bind, Except.bind] at succeeded
      split at succeeded
      · contradiction
      · rename_i noDirectory
        exact ⟨place, rfl, by simpa [isDirectory] using noDirectory, (Except.ok.inj succeeded).symm⟩

theorem rename_eq_ok {source target : String} {after : Files}
    (succeeded : files.rename source target = .ok after) :
    ∃ origin goal content, files.resolve source = .ok origin ∧ files.resolve target = .ok goal ∧
      files.node? origin = some (.file content) ∧ files.node? goal ≠ some .directory ∧
      after = (files.remove origin).set goal (.file content) := by
  unfold rename at succeeded
  cases resolvedSource : files.resolve source with
  | error fault => simp [resolvedSource, bind, Except.bind] at succeeded
  | ok origin =>
      cases resolvedTarget : files.resolve target with
      | error fault => simp [resolvedSource, resolvedTarget, bind, Except.bind] at succeeded
      | ok goal =>
          simp only [resolvedSource, resolvedTarget, bind, Except.bind] at succeeded
          split at succeeded
          · contradiction
          · contradiction
          · rename_i content held
            split at succeeded
            · contradiction
            · rename_i noDirectory
              exact ⟨origin, goal, content, rfl, rfl, held,
                by simpa [isDirectory] using noDirectory, (Except.ok.inj succeeded).symm⟩

theorem removeFile_eq_ok {path : String} {after : Files}
    (succeeded : files.removeFile path = .ok after) :
    ∃ place content, files.resolve path = .ok place ∧
      files.node? place = some (.file content) ∧ after = files.remove place := by
  unfold removeFile at succeeded
  cases resolved : files.resolve path with
  | error fault => simp [resolved, bind, Except.bind] at succeeded
  | ok place =>
      simp only [resolved, bind, Except.bind] at succeeded
      split at succeeded
      · contradiction
      · contradiction
      · rename_i content held
        exact ⟨place, content, rfl, held, (Except.ok.inj succeeded).symm⟩

/-- A file is only missing if its path leads nowhere, or to a place where nothing is. -/
theorem removeFile_eq_notFound {path : String}
    (failed : files.removeFile path = .error .notFound) :
    files.resolve path = .error .notFound ∨
      ∃ place, files.resolve path = .ok place ∧ files.node? place = none := by
  unfold removeFile at failed
  cases resolved : files.resolve path with
  | error fault =>
      simp only [resolved, bind, Except.bind, Except.error.injEq] at failed
      exact Or.inl (by rw [failed])
  | ok place =>
      simp only [resolved, bind, Except.bind] at failed
      split at failed
      · rename_i absent
        exact Or.inr ⟨place, rfl, absent⟩
      · simp at failed
      · simp at failed

end Files

end ZoneKeeper
