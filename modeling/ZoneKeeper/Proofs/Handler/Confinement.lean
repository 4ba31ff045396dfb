import ZoneKeeper.Proofs.Handler.Effects

/-!
# Where zone files lie

Names and namespaces come from outside, and file names are made of them.  Whatever they are, a file
name is a single name that leads nowhere but into the directory for zone files, and so does the name
of the temporary file beside it.  Two zones share a file only if they share their address, and no
temporary file takes the place of a zone file or of the temporary file of another one.
-/

namespace ZoneKeeper

/-- The text cannot be one half of a key: it is missing or empty, or has a slash. -/
def IsUnfit : Option String → Prop
  | none => True
  | some half => half = "" ∨ '/' ∈ half.toList

instance : (half : Option String) → Decidable (IsUnfit half)
  | none => isTrue trivial
  | some half => inferInstanceAs (Decidable (half = "" ∨ '/' ∈ half.toList))

namespace Address

theorem isWellFormed_iff {address : Address} :
    address.IsWellFormed ↔ ¬ IsUnfit (some address.name) ∧ ¬ IsUnfit (some address.space) := by
  simp only [IsUnfit, not_or]
  constructor
  · rintro ⟨space, name, spaceFree, nameFree⟩
    exact ⟨⟨name, nameFree⟩, space, spaceFree⟩
  · rintro ⟨⟨name, nameFree⟩, space, spaceFree⟩
    exact ⟨space, name, spaceFree, nameFree⟩

end Address

namespace Handler

variable {handler : Handler} {zone : Resource} {name : String}

/-- A zone has no file name if it has no path, or if its path is no key. -/
theorem fileName_eq_error_iff {error : KeyError} :
    fileName zone = .error error ↔ zone.path = .error error ∨
      ∃ address, zone.IsAt address ∧ ¬ address.IsWellFormed ∧ error = .malformed address.text := by
  cases pathed : zone.path with
  | error fault =>
      have nowhere : ¬ ∃ address, zone.IsAt address ∧ ¬ address.IsWellFormed ∧
          error = .malformed address.text := by
        rintro ⟨address, here, -⟩
        rw [here.path] at pathed
        contradiction
      simp [fileName, pathed, bind, Except.bind, nowhere]
  | ok path =>
      obtain ⟨address, here, rfl⟩ := Resource.isAt_of_path pathed
      have unparsed : fileName zone = .error error ↔ Address.parse address.text = .error error := by
        unfold fileName
        rw [pathed]
        cases parsed : Address.parse address.text <;> simp [bind, Except.bind, parsed]
      rw [unparsed, Address.parse_text_eq_error_iff]
      constructor
      · exact fun failed => Or.inr ⟨address, here, failed⟩
      · rintro (failed | ⟨other, there, failed⟩)
        · contradiction
        · rwa [here.unique there]

theorem exists_fileName_eq_error_iff :
    (∃ error, fileName zone = .error error) ↔
      IsUnfit zone.metadata.name ∨ IsUnfit zone.metadata.space := by
  simp only [fileName_eq_error_iff]
  constructor
  · rintro ⟨error, failed | ⟨address, here, misshapen, -⟩⟩
    · unfold Resource.path at failed
      split at failed
      · rename_i unnamed
        rw [unnamed]
        exact Or.inl trivial
      · rename_i unplaced
        rw [unplaced]
        exact Or.inr trivial
      · contradiction
    · rw [Address.isWellFormed_iff, ← not_or, not_not] at misshapen
      rwa [here.name, here.space]
  · intro unfit
    cases named : zone.metadata.name with
    | none => exact ⟨.missingName, Or.inl (by simp [Resource.path, named])⟩
    | some name =>
        cases spaced : zone.metadata.space with
        | none => exact ⟨.missingNamespace name, Or.inl (by simp [Resource.path, named, spaced])⟩
        | some space =>
            refine ⟨_, Or.inr ⟨⟨space, name⟩, ⟨named, spaced⟩, ?_, rfl⟩⟩
            rw [named, spaced] at unfit
            rwa [Address.isWellFormed_iff, ← not_or, not_not]

/-- The name leads from any directory to something right in it. -/
structure StaysInside (name : String) : Prop where
  component : Path.IsComponent name
  absolute : ∀ directory, Path.isAbsolute (Path.join directory name) = Path.isAbsolute directory
  names : ∀ directory, Path.names (Path.join directory name) = Path.names directory ++ [name]
  place : ∀ handler : Handler, ∀ files goal,
    files.resolve (Path.join handler.directory name) = .ok goal →
      goal = handler.place files ++ [name]

theorem staysInside_of_isComponent (component : Path.IsComponent name) : StaysInside name where
  component := component
  absolute := component.isAbsolute_join
  names := component.names_join
  place := fun _ _ _ resolved => (resolve_join component resolved).1

theorem temporary_inj {first second : String} :
    temporary first = temporary second ↔ first = second := by
  refine ⟨fun same => ?_, fun same => same ▸ rfl⟩
  have sameChars := congrArg String.toList same
  simp only [temporary, String.toList_append] at sameChars
  exact String.toList_inj.1 (List.append_cancel_right sameChars)

/-- A zone has a file name unless its name or its namespace is missing or empty or has a slash.  The
name ends in `.zone`, and both the file and the temporary file lie right in the directory for zone
files.  If no namespace has an underscore, the zones of one file have the same name and the same
namespace; and a temporary file is no zone file, nor the temporary file of another zone file. -/
theorem zoneFiles_confined (zone : Resource) :
    ((∃ error, fileName zone = .error error) ↔
      IsUnfit zone.metadata.name ∨ IsUnfit zone.metadata.space) ∧
    ∀ name, fileName zone = .ok name →
      (∃ stem, name = stem ++ ".zone") ∧ StaysInside name ∧ StaysInside (temporary name) ∧
      (∀ handler : Handler, handler.pathOf zone = .ok (Path.join handler.directory name)) ∧
      ∀ other otherName, fileName other = .ok otherName →
        (zone.IsPlain → other.IsPlain → name = otherName →
          zone.metadata.space = other.metadata.space ∧ zone.metadata.name = other.metadata.name) ∧
        temporary name ≠ otherName ∧ (name ≠ otherName → temporary name ≠ temporary otherName) := by
  refine ⟨exists_fileName_eq_error_iff, fun name named => ?_⟩
  obtain ⟨address, here, formed, rfl⟩ := fileName_eq_ok_iff.1 named
  refine ⟨⟨_, rfl⟩, staysInside_of_isComponent formed.isComponent,
    staysInside_of_isComponent formed.isComponent_temporary, fun handler => ?_, ?_⟩
  · rw [pathOf, named]
    rfl
  · intro other otherName otherNamed
    obtain ⟨otherAddress, there, otherFormed, rfl⟩ := fileName_eq_ok_iff.1 otherNamed
    refine ⟨fun plain otherPlain same => ?_, ?_, fun apart same => ?_⟩
    · have proper := here.isProper formed plain
      have otherProper := there.isProper otherFormed otherPlain
      obtain rfl := (Address.fileName_inj proper otherProper).1 same
      exact ⟨here.space.trans there.space.symm, here.name.trans there.name.symm⟩
    · exact (Address.fileName_ne_temporary otherAddress _).symm
    · exact apart (temporary_inj.1 same)

/-- A zone with this namespace and name. -/
def addressed (space name : String) : Resource :=
  { kind := .zone, metadata := { name := some name, space := some space }, zoneName := "x" }

/-- The parent directory as a name leads nowhere else, and neither does the name of a temporary
file; a slash is refused. -/
theorem zoneFiles_confined_hostile :
    fileName (addressed "team" "..") = .ok "team_...zone" ∧
      StaysInside "team_...zone" ∧ StaysInside "team_...zone.tmp" ∧
      fileName (addressed "team" "...zone.tmp") = .ok "team_...zone.tmp.zone" ∧
      "team_...zone.tmp" ≠ "team_...zone.tmp.zone" ∧
      (∃ error, fileName (addressed "team/.." "a") = .error error) := by
  have named : fileName (addressed "team" "..") = .ok "team_...zone" := by decide
  have otherNamed : fileName (addressed "team" "...zone.tmp") = .ok "team_...zone.tmp.zone" := by
    decide
  obtain ⟨-, inside, besideInside, -, others⟩ :=
    (zoneFiles_confined (addressed "team" "..")).2 _ named
  have refused := (zoneFiles_confined (addressed "team/.." "a")).1.2 (Or.inr (by decide))
  exact ⟨named, inside, besideInside, otherNamed, (others _ _ otherNamed).2.1, refused⟩

end Handler

end ZoneKeeper
