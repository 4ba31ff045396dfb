import ZoneKeeper.Handler
import ZoneKeeper.Proofs.Files.Places
import ZoneKeeper.Proofs.Key.Address

/-!
# The names of zone files

A zone has a file name exactly if it stands at a well-formed address, and then the name is made from
the address.  Proper addresses have different file names, and no file name is the name under which
the content of a file is written before it is renamed.
-/

namespace ZoneKeeper

/-- The name of the file of a zone at this address. -/
def Address.fileName (address : Address) : String :=
  address.space ++ "_" ++ address.name ++ ".zone"

namespace Handler

theorem fileName_eq_ok_iff {zone : Resource} {name : String} :
    fileName zone = .ok name ↔
      ∃ address, zone.IsAt address ∧ address.IsWellFormed ∧ name = address.fileName := by
  constructor
  · intro named
    unfold fileName at named
    cases pathed : zone.path with
    | error fault => simp [pathed, bind, Except.bind] at named
    | ok path =>
        obtain ⟨address, here, rfl⟩ := Resource.isAt_of_path pathed
        cases parsed : Address.parse address.text with
        | error fault => simp [pathed, parsed, bind, Except.bind] at named
        | ok other =>
            obtain ⟨same, formed⟩ := Address.parse_eq_ok_iff.1 parsed
            simp only [pathed, parsed, bind, Except.bind, Except.ok.injEq] at named
            obtain rfl := (Address.text_inj formed).1 same
            exact ⟨address, here, formed, named.symm⟩
  · rintro ⟨address, here, formed, rfl⟩
    unfold fileName
    rw [here.path]
    simp [bind, Except.bind, Address.parse_text formed, Address.fileName]

theorem fileName_of_isAt {zone : Resource} {address : Address} (here : zone.IsAt address)
    (formed : address.IsWellFormed) : fileName zone = .ok address.fileName :=
  fileName_eq_ok_iff.2 ⟨address, here, formed, rfl⟩

end Handler

theorem Path.IsComponent.of_underscore {name : String} (marked : '_' ∈ name.toList)
    (slashFree : '/' ∉ name.toList) : Path.IsComponent name where
  ne_empty := by rintro rfl; simp at marked
  ne_here := by rintro rfl; simp at marked
  ne_parent := by rintro rfl; simp at marked
  slash_not_mem := slashFree

namespace Address

theorem toList_fileName (address : Address) :
    address.fileName.toList =
      address.space.toList ++ '_' :: (address.name.toList ++ ".zone".toList) := by
  simp [fileName]

theorem IsWellFormed.isComponent {address : Address} (formed : address.IsWellFormed) :
    Path.IsComponent address.fileName := by
  apply Path.IsComponent.of_underscore
  · simp [toList_fileName]
  · simp [toList_fileName, formed.slash_not_mem_space, formed.slash_not_mem_name]

theorem IsWellFormed.isComponent_temporary {address : Address} (formed : address.IsWellFormed) :
    Path.IsComponent (Handler.temporary address.fileName) := by
  apply Path.IsComponent.of_underscore
  · simp [Handler.temporary, toList_fileName]
  · simp [Handler.temporary, toList_fileName, formed.slash_not_mem_space,
      formed.slash_not_mem_name]

/-- Two zones have the same file only if they have the same address. -/
theorem fileName_inj {first second : Address} (firstProper : first.IsProper)
    (secondProper : second.IsProper) : first.fileName = second.fileName ↔ first = second := by
  refine ⟨fun same => ?_, fun same => same ▸ rfl⟩
  have sameChars := congrArg String.toList same
  rw [toList_fileName, toList_fileName] at sameChars
  obtain ⟨spaceEq, restEq⟩ := append_cons_inj firstProper.underscore_not_mem_space
    secondProper.underscore_not_mem_space sameChars
  have nameEq := List.append_cancel_right restEq
  exact Address.ext (String.toList_inj.1 spaceEq) (String.toList_inj.1 nameEq)

/-- No zone file has the name of a temporary file. -/
theorem fileName_ne_temporary (address : Address) (name : String) :
    address.fileName ≠ Handler.temporary name := by
  intro same
  have lastEq := congrArg (fun text => text.toList.reverse.head?) same
  simp [fileName, Handler.temporary] at lastEq

end Address

end ZoneKeeper
