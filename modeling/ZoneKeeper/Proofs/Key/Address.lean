import ZoneKeeper.Resource
import Mathlib.Data.List.TakeWhile

/-!
# Addresses

The address of a well-formed key can be read off its text, and the text determines the address.  A
resource that has a name and a namespace stands at an address; its path and its key are made from
it.
-/

namespace ZoneKeeper

/-- A text is divided in one way only by the first of its separators. -/
theorem append_cons_inj {separator : Char} {first second rest other : List Char}
    (firstFree : separator ∉ first) (secondFree : separator ∉ second)
    (same : first ++ separator :: rest = second ++ separator :: other) :
    first = second ∧ rest = other := by
  induction first generalizing second with
  | nil =>
      cases second with
      | nil => exact ⟨rfl, (List.cons.inj same).2⟩
      | cons head second =>
          have headEq : separator = head := (List.cons.inj same).1
          exact absurd (headEq ▸ List.mem_cons_self) secondFree
  | cons head first ih =>
      cases second with
      | nil =>
          have headEq : head = separator := (List.cons.inj same).1
          exact absurd (headEq ▸ List.mem_cons_self) firstFree
      | cons other second =>
          obtain ⟨headEq, tailEq⟩ := List.cons.inj same
          simp only [List.mem_cons, not_or] at firstFree secondFree
          obtain ⟨firstEq, restEq⟩ := ih firstFree.2 secondFree.2 tailEq
          exact ⟨by rw [headEq, firstEq], restEq⟩

namespace Address

/-- Both halves are there, and neither has a slash. -/
structure IsWellFormed (address : Address) : Prop where
  space_ne_empty : address.space ≠ ""
  name_ne_empty : address.name ≠ ""
  slash_not_mem_space : '/' ∉ address.space.toList
  slash_not_mem_name : '/' ∉ address.name.toList

/-- The namespace also has no underscore, as it is with all namespaces that the server admits. -/
structure IsProper (address : Address) : Prop extends address.IsWellFormed where
  underscore_not_mem_space : '_' ∉ address.space.toList

@[ext]
theorem ext {first second : Address} (spaceEq : first.space = second.space)
    (nameEq : first.name = second.name) : first = second := by
  cases first
  cases second
  subst spaceEq nameEq
  rfl

theorem toList_text (address : Address) :
    address.text.toList = address.space.toList ++ '/' :: address.name.toList := by
  simp [text]

/-- As long as no namespace has a slash, whatever the names are, an address can be read off its
text. -/
theorem text_inj_of_slash_not_mem {first second : Address} (firstFree : '/' ∉ first.space.toList)
    (secondFree : '/' ∉ second.space.toList) : first.text = second.text ↔ first = second := by
  refine ⟨fun same => ?_, fun same => same ▸ rfl⟩
  have sameChars := congrArg String.toList same
  rw [toList_text, toList_text] at sameChars
  obtain ⟨spaceEq, nameEq⟩ := append_cons_inj firstFree secondFree sameChars
  exact Address.ext (String.toList_inj.1 spaceEq) (String.toList_inj.1 nameEq)

/-- No other address has the text of a well-formed one. -/
theorem text_inj {first second : Address} (formed : second.IsWellFormed) :
    first.text = second.text ↔ first = second := by
  refine ⟨fun same => ?_, fun same => same ▸ rfl⟩
  have slashFree : '/' ∉ first.space.toList := by
    have sameChars := congrArg String.toList same
    rw [toList_text, toList_text] at sameChars
    have count := congrArg (List.count '/') sameChars
    simp only [List.count_append, List.count_cons_self,
      List.count_eq_zero_of_not_mem formed.slash_not_mem_space,
      List.count_eq_zero_of_not_mem formed.slash_not_mem_name] at count
    exact List.count_eq_zero.1 (by omega)
  exact (text_inj_of_slash_not_mem slashFree formed.slash_not_mem_space).1 same

/-- Exactly the texts of well-formed addresses are parsed. -/
theorem parse_eq_ok_iff {key : String} {address : Address} :
    parse key = .ok address ↔ key = address.text ∧ address.IsWellFormed := by
  have whole : key.toList.takeWhile (· != '/') ++ key.toList.dropWhile (· != '/') = key.toList :=
    List.takeWhile_append_dropWhile
  constructor
  · intro parsed
    unfold parse at parsed
    split at parsed
    · contradiction
    · rename_i slash name dropped
      dsimp only at parsed
      split at parsed
      · contradiction
      · rename_i admitted
        simp only [Bool.or_eq_true, List.isEmpty_iff, List.contains_eq_mem, decide_eq_true_eq,
          not_or] at admitted
        obtain rfl := Except.ok.inj parsed
        have isSlash : slash = '/' := by
          have stopped := List.head_dropWhile_not (· != '/') (by rw [dropped]; simp)
          simpa [dropped] using stopped
        refine ⟨?_, ?_, ?_, ?_, ?_⟩
        · rw [dropped, isSlash] at whole
          rw [← String.toList_inj, toList_text]
          simpa using whole.symm
        · rw [ne_eq, ← String.toList_inj, String.toList_ofList]
          exact admitted.1.1
        · rw [ne_eq, ← String.toList_inj, String.toList_ofList]
          exact admitted.1.2
        · intro slashed
          rw [String.toList_ofList] at slashed
          simpa using List.mem_takeWhile_imp slashed
        · simpa using admitted.2
  · rintro ⟨rfl, formed⟩
    have free : ∀ char ∈ address.space.toList, (char != '/') = true := by
      intro char present
      simp only [bne_iff_ne]
      rintro rfl
      exact formed.slash_not_mem_space present
    have front : address.text.toList.takeWhile (· != '/') = address.space.toList := by
      rw [toList_text, List.takeWhile_append_of_pos free]
      simp
    have back : address.text.toList.dropWhile (· != '/') = '/' :: address.name.toList := by
      rw [toList_text, List.dropWhile_append_of_pos free]
      simp
    unfold parse
    rw [front, back]
    simp [formed.space_ne_empty, formed.name_ne_empty, formed.slash_not_mem_name]

/-- A key that cannot be parsed is reported as it is. -/
theorem malformed_of_parse {key : String} {fault : KeyError} (failed : parse key = .error fault) :
    fault = .malformed key := by
  unfold parse at failed
  split at failed
  · exact (Except.error.inj failed).symm
  · dsimp only at failed
    split at failed
    · exact (Except.error.inj failed).symm
    · contradiction

/-- Every other text is malformed, and its fault tells it as it is. -/
theorem parse_eq_error_iff {key : String} {fault : KeyError} :
    parse key = .error fault ↔
      fault = .malformed key ∧ ∀ address : Address, address.IsWellFormed → key ≠ address.text := by
  constructor
  · intro failed
    refine ⟨malformed_of_parse failed, fun address formed same => ?_⟩
    rw [parse_eq_ok_iff.2 ⟨same, formed⟩] at failed
    contradiction
  · rintro ⟨rfl, malformed⟩
    cases parsed : parse key with
    | error other => rw [malformed_of_parse parsed]
    | ok address =>
        obtain ⟨same, formed⟩ := parse_eq_ok_iff.1 parsed
        exact absurd same (malformed address formed)

theorem parse_text {address : Address} (formed : address.IsWellFormed) :
    parse address.text = .ok address :=
  parse_eq_ok_iff.2 ⟨rfl, formed⟩

/-- The text of an address that is not well-formed is no key at all, and never taken for the text of
another address. -/
theorem parse_text_eq_error_iff {address : Address} {fault : KeyError} :
    parse address.text = .error fault ↔
      ¬ address.IsWellFormed ∧ fault = .malformed address.text := by
  constructor
  · intro failed
    refine ⟨fun formed => ?_, malformed_of_parse failed⟩
    rw [parse_text formed] at failed
    contradiction
  · rintro ⟨misshapen, rfl⟩
    refine parse_eq_error_iff.2 ⟨rfl, fun other formed same => ?_⟩
    rw [← (text_inj formed).1 same] at formed
    exact misshapen formed

/-- The key of a zone at this address. -/
def zoneKey (address : Address) : ResourceKey :=
  ⟨address.text, .zone⟩

theorem zoneKey_inj {first second : Address} (formed : second.IsWellFormed) :
    first.zoneKey = second.zoneKey ↔ first = second := by
  rw [← text_inj formed]
  simp [zoneKey]

theorem eq_of_zoneKey {key : ResourceKey} {first second : Address} (formed : second.IsWellFormed)
    (keyEq : key = first.zoneKey) (keyEqToo : key = second.zoneKey) : first = second :=
  (zoneKey_inj formed).1 (keyEq.symm.trans keyEqToo)

theorem address_zoneKey {address : Address} (formed : address.IsWellFormed) :
    address.zoneKey.address = .ok address :=
  parse_text formed

end Address

/-- A key of a zone that can be parsed is the key of an address. -/
theorem ResourceKey.eq_zoneKey {key : ResourceKey} {address : Address}
    (parsed : key.address = .ok address) (ofZone : key.kind = .zone) : key = address.zoneKey := by
  obtain ⟨same, -⟩ := Address.parse_eq_ok_iff.1 parsed
  cases key
  simp_all [Address.zoneKey]

namespace Resource

/-- The resource has the name and the namespace of an address. -/
structure IsAt (resource : Resource) (address : Address) : Prop where
  name : resource.metadata.name = some address.name
  space : resource.metadata.space = some address.space

variable {resource : Resource} {address : Address}

theorem IsAt.nameAny (here : resource.IsAt address) : resource.nameAny = address.name := by
  simp [Resource.nameAny, here.name]

theorem IsAt.space? (here : resource.IsAt address) : resource.space? = some address.space :=
  here.space

theorem IsAt.path (here : resource.IsAt address) : resource.path = .ok address.text := by
  simp [Resource.path, here.name, here.space]

theorem IsAt.key (here : resource.IsAt address) :
    resource.key = .ok ⟨address.text, resource.kind⟩ := by
  simp [Resource.key, here.path, Except.map]

theorem IsAt.unique {other : Address} (here : resource.IsAt address)
    (there : resource.IsAt other) : address = other :=
  Address.ext (Option.some.inj (here.space.symm.trans there.space))
    (Option.some.inj (here.name.symm.trans there.name))

/-- If the resource has a namespace, there is no slash in it. -/
def SpaceHasNoSlash (resource : Resource) : Prop :=
  ∀ space, resource.space? = some space → '/' ∉ space.toList

theorem IsAt.spaceHasNoSlash (here : resource.IsAt address)
    (free : '/' ∉ address.space.toList) : resource.SpaceHasNoSlash := by
  intro space spaced
  rw [here.space?] at spaced
  exact Option.some.inj spaced ▸ free

/-- The namespace has no underscore. -/
def IsPlain (resource : Resource) : Prop :=
  ∀ space, resource.space? = some space → '_' ∉ space.toList

theorem IsAt.isProper (here : resource.IsAt address) (formed : address.IsWellFormed)
    (plain : resource.IsPlain) : address.IsProper :=
  { formed with underscore_not_mem_space := plain _ here.space? }

/-- A resource that has a path stands at an address with this text. -/
theorem isAt_of_path {path : String} (pathed : resource.path = .ok path) :
    ∃ address, resource.IsAt address ∧ path = address.text := by
  unfold Resource.path at pathed
  split at pathed
  · contradiction
  · contradiction
  · rename_i name space named spaced
    exact ⟨⟨space, name⟩, ⟨named, spaced⟩, (Except.ok.inj pathed).symm⟩

theorem isAt_of_key {key : ResourceKey} (keyed : resource.key = .ok key) :
    ∃ address, resource.IsAt address ∧ key = ⟨address.text, resource.kind⟩ := by
  unfold Resource.key at keyed
  cases pathed : resource.path with
  | error fault => simp [pathed, Except.map] at keyed
  | ok path =>
      obtain ⟨address, here, rfl⟩ := isAt_of_path pathed
      rw [pathed] at keyed
      exact ⟨address, here, (Except.ok.inj keyed).symm⟩

theorem toOption_key_eq_some_iff {key : ResourceKey} :
    resource.key.toOption = some key ↔ resource.key = .ok key := by
  cases resource.key <;> simp [Except.toOption]

/-- A resource stands at the address that can be read off its key. -/
theorem isAt_of_key_of_address {key : ResourceKey} (keyed : resource.key = .ok key)
    (addressed : key.address = .ok address) :
    resource.IsAt address ∧ resource.kind = key.kind ∧ address.IsWellFormed := by
  obtain ⟨other, here, rfl⟩ := isAt_of_key keyed
  obtain ⟨textEq, formed⟩ := Address.parse_eq_ok_iff.1 addressed
  rw [(Address.text_inj formed).1 textEq] at here
  exact ⟨here, rfl, formed⟩

end Resource

end ZoneKeeper
