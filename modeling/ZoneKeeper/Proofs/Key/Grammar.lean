import ZoneKeeper.Proofs.Key.Address

/-!
# The grammar of keys

A key is a namespace and a name with one slash between them, neither of them empty.  What is made of
a resource is split into its own namespace and name or not at all, so that a key never leads to
another resource.  As long as namespaces have no slash, even resources that no key leads to are told
apart by what is made of them.
-/

namespace ZoneKeeper

namespace Resource

variable {first second : Resource} {address : Address} {key : ResourceKey}

/-- The key of a resource is split into the address of the resource if that is well-formed. -/
theorem IsAt.address_key_eq_ok_iff (here : first.IsAt address) (keyed : first.key = .ok key) :
    key.address = .ok address ↔ address.IsWellFormed := by
  obtain rfl := Except.ok.inj (here.key.symm.trans keyed)
  constructor
  · intro parsed
    exact (Address.parse_eq_ok_iff.1 parsed).2
  · exact Address.parse_text

/-- The key of any other resource is not split. -/
theorem IsAt.address_key_eq_error_iff (here : first.IsAt address) (keyed : first.key = .ok key)
    {fault : KeyError} :
    key.address = .error fault ↔ ¬ address.IsWellFormed ∧ fault = .malformed key.path := by
  obtain rfl := Except.ok.inj (here.key.symm.trans keyed)
  exact Address.parse_text_eq_error_iff

/-- Two resources with one key stand at one address, unless there is a slash in a namespace. -/
theorem exists_isAt_of_key_eq (firstFree : first.SpaceHasNoSlash)
    (secondFree : second.SpaceHasNoSlash) (keyed : first.key = .ok key)
    (keyedToo : second.key = .ok key) :
    ∃ address, first.IsAt address ∧ second.IsAt address := by
  obtain ⟨address, here, rfl⟩ := isAt_of_key keyed
  obtain ⟨other, there, sameKey⟩ := isAt_of_key keyedToo
  have sameText : address.text = other.text := congrArg ResourceKey.path sameKey
  have free : '/' ∉ address.space.toList := firstFree _ here.space?
  have otherFree : '/' ∉ other.space.toList := secondFree _ there.space?
  obtain rfl := (Address.text_inj_of_slash_not_mem free otherFree).1 sameText
  exact ⟨address, here, there⟩

end Resource

/-- A text is a key exactly if it is a namespace and a name with a slash between them, neither of
them empty and neither with a slash in it; then it is split into these two, and any other text is
reported as it is.  So the key of a resource with a name and a namespace is split into these two or
not at all, depending on whether they are such halves.  Two resources with one key are of one kind,
and have the same name and the same namespace if there is no slash in their namespaces. -/
theorem keys_roundTrip (text : String) (first second : Resource) :
    ((∀ address : Address, Address.parse text = .ok address ↔
        text = address.space ++ "/" ++ address.name ∧ address.IsWellFormed) ∧
      ∀ fault, Address.parse text = .error fault ↔
        fault = .malformed text ∧ ∀ address : Address,
          address.IsWellFormed → text ≠ address.space ++ "/" ++ address.name) ∧
    (∀ address, first.IsAt address → ∃ key,
      first.path = .ok key.path ∧ first.key = .ok key ∧ key.kind = first.kind ∧
      (key.address = .ok address ↔ address.IsWellFormed) ∧
      ∀ fault, key.address = .error fault ↔
        ¬ address.IsWellFormed ∧ fault = .malformed key.path) ∧
    ∀ key, first.key = .ok key → second.key = .ok key →
      first.kind = second.kind ∧
      (first.SpaceHasNoSlash → second.SpaceHasNoSlash →
        first.metadata.space = second.metadata.space ∧
          first.metadata.name = second.metadata.name) := by
  refine ⟨⟨fun _ => Address.parse_eq_ok_iff, fun _ => Address.parse_eq_error_iff⟩, ?split, ?apart⟩
  case split =>
    intro address here
    exact ⟨_, here.path, here.key, rfl, here.address_key_eq_ok_iff here.key,
      fun _ => here.address_key_eq_error_iff here.key⟩
  case apart =>
    intro key keyed keyedToo
    refine ⟨(Resource.key_kind keyed).symm.trans (Resource.key_kind keyedToo), ?_⟩
    intro firstFree secondFree
    obtain ⟨address, here, there⟩ :=
      Resource.exists_isAt_of_key_eq firstFree secondFree keyed keyedToo
    exact ⟨here.space.trans there.space.symm, here.name.trans there.name.symm⟩

/-- A name with a slash makes a key that is not split, at whichever slash; two states of the zone
have this key in common.  The record of the same name has another key, and a zone in a namespace
with a slash has the same one. -/
theorem keys_roundTrip_slashed :
    let zone : Resource :=
      { kind := .zone, metadata := { name := some "a/b", space := some "team" }, zoneName := "x" }
    let later := { zone with zoneName := "y" }
    let record := { zone with kind := .record }
    let astray := { zone with metadata := { name := some "b", space := some "team/a" } }
    zone.IsAt ⟨"team", "a/b"⟩ ∧ zone.key = .ok ⟨"team/a/b", .zone⟩ ∧
      Address.parse "team/a/b" = .error (.malformed "team/a/b") ∧
      later.key = .ok ⟨"team/a/b", .zone⟩ ∧ zone.SpaceHasNoSlash ∧ later.SpaceHasNoSlash ∧
      zone.metadata.space = later.metadata.space ∧ zone.metadata.name = later.metadata.name ∧
      record.key ≠ .ok ⟨"team/a/b", .zone⟩ ∧
      astray.key = .ok ⟨"team/a/b", .zone⟩ ∧ astray.metadata ≠ zone.metadata := by
  intro zone later record astray
  have here : zone.IsAt ⟨"team", "a/b"⟩ := ⟨rfl, rfl⟩
  have keyed : zone.key = .ok ⟨"team/a/b", .zone⟩ := by decide
  have keyedLater : later.key = .ok ⟨"team/a/b", .zone⟩ := by decide
  have free : zone.SpaceHasNoSlash := by
    intro space spaced
    obtain rfl := Option.some.inj spaced
    decide
  obtain ⟨-, split, apart⟩ := keys_roundTrip "team/a/b" zone later
  obtain ⟨key, -, keyedAlso, -, -, refused⟩ := split _ here
  obtain rfl := Except.ok.inj (keyed.symm.trans keyedAlso)
  obtain ⟨sameSpace, sameName⟩ := (apart _ keyed keyedLater).2 free free
  have malformed := (refused _).2 ⟨fun formed => formed.slash_not_mem_name (by decide), rfl⟩
  refine ⟨here, keyed, malformed, keyedLater, free, free, sameSpace, sameName, ?_, by decide,
    by decide⟩
  intro keyedRecord
  have sameKind := ((keys_roundTrip "team/a/b" zone record).2.2 _ keyed keyedRecord).1
  contradiction

end ZoneKeeper
