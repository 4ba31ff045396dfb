import ZoneKeeper.Proofs.Canonical.Claims
import ZoneKeeper.Proofs.Key.Address
import ZoneKeeper.Store

/-!
# What a store of zones holds

Every object of a store is one that was reported, and stands under its own reference.  If the
reported objects are zones at proper addresses, the store is a map from addresses to zones, and a
listing of a namespace has exactly the zones at its addresses.
-/

namespace ZoneKeeper

/-- The resource is a zone at this address. -/
structure Resource.IsZoneAt (resource : Resource) (address : Address) : Prop extends
    resource.IsAt address where
  kind_eq : resource.kind = .zone
  proper : address.IsProper

/-- The resource is a zone at a proper address. -/
def Resource.IsZone (resource : Resource) : Prop :=
  ∃ address, resource.IsZoneAt address

theorem Resource.IsZoneAt.zoneKey {resource : Resource} {address : Address}
    (here : resource.IsZoneAt address) : resource.key = .ok address.zoneKey := by
  rw [here.key, here.kind_eq]
  rfl

theorem Resource.IsZone.isZoneAt {resource : Resource} {address : Address}
    (isZone : resource.IsZone) (here : resource.IsAt address) : resource.IsZoneAt address := by
  obtain ⟨other, there⟩ := isZone
  rw [here.unique there.toIsAt]
  exact there

/-- Two zones of one namespace have the same name only if they have the same address. -/
theorem Resource.IsAt.eq_of_nameAny_eq {first second : Resource} {one other : Address}
    (here : first.IsAt one) (there : second.IsAt other) (spaceEq : one.space = other.space)
    (nameEq : first.nameAny = second.nameAny) : one = other := by
  rw [here.nameAny, there.nameAny] at nameEq
  exact Address.ext spaceEq nameEq

/-- The resource has a name and a namespace. -/
def Resource.IsPlaced (resource : Resource) : Prop :=
  ∃ address, resource.IsAt address

/-- The resource stands at an address that can be read off its key. -/
def Resource.IsAddressable (resource : Resource) : Prop :=
  ∃ address, resource.IsAt address ∧ address.IsWellFormed

theorem Resource.IsAddressable.isPlaced {resource : Resource}
    (addressable : resource.IsAddressable) : resource.IsPlaced := by
  obtain ⟨address, here, -⟩ := addressable
  exact ⟨address, here⟩

theorem Resource.IsZone.isPlaced {resource : Resource} (isZone : resource.IsZone) :
    resource.IsPlaced := by
  obtain ⟨address, here⟩ := isZone
  exact ⟨address, here.toIsAt⟩

/-- What the object at an address is kept under. -/
def Address.ref (address : Address) : ObjectRef :=
  ⟨address.name, some address.space⟩

theorem Address.ref_inj {first second : Address} : first.ref = second.ref ↔ first = second := by
  constructor
  · intro same
    simp only [ref, ObjectRef.mk.injEq, Option.some.injEq] at same
    exact Address.ext same.2 same.1
  · rintro rfl
    rfl

theorem Resource.IsAt.ref? {resource : Resource} {address : Address}
    (here : resource.IsAt address) : resource.ref? = some address.ref := by
  simp [Resource.ref?, here.name, here.space, Address.ref]

theorem Resource.isAt_of_ref? {resource : Resource} {address : Address}
    (referred : resource.ref? = some address.ref) : resource.IsAt address := by
  unfold Resource.ref? Address.ref at referred
  cases named : resource.metadata.name with
  | none => simp [named] at referred
  | some name =>
      simp only [named, Option.map_some, Option.some.injEq, ObjectRef.mk.injEq] at referred
      exact ⟨by rw [named, referred.1], referred.2⟩

/-- A resource that is told apart by a reference stands at an address, or else it has no
namespace. -/
theorem Resource.isAt_or_of_ref? {resource : Resource} {ref : ObjectRef}
    (referred : resource.ref? = some ref) :
    (∃ address, resource.IsAt address ∧ ref = address.ref) ∨
      resource.path = .error (.missingNamespace ref.name) ∧ ref.space = none := by
  obtain ⟨name, named, rfl⟩ := Option.map_eq_some_iff.1 referred
  cases spaced : resource.metadata.space with
  | none => exact Or.inr ⟨by simp [Resource.path, named, spaced], rfl⟩
  | some space => exact Or.inl ⟨⟨space, name⟩, ⟨named, spaced⟩, rfl⟩

/-- The object that a change reports on. -/
def Change.resource? : Change → Option Resource
  | .applied resource | .deleted resource | .listed resource => some resource
  | .listingStarted | .listingDone => none

namespace Store

variable {store after : Store} {P : Resource → Prop}

/-- Every object, observed or being listed, stands under its own reference and has a property. -/
def All (P : Resource → Prop) (store : Store) : Prop :=
  ∀ ref resource, store.objects.get? ref = some resource ∨
    store.listing.get? ref = some resource → resource.ref? = some ref ∧ P resource

theorem all_empty (P : Resource → Prop) : All P {} := by
  intro ref resource held
  simp at held

theorem All.mono {Q : Resource → Prop} (all : store.All P)
    (implies : ∀ resource, P resource → Q resource) : store.All Q := by
  intro ref resource held
  obtain ⟨referred, holds⟩ := all ref resource held
  exact ⟨referred, implies resource holds⟩

private theorem holds_insert {table : Table ObjectRef Resource} {ref : ObjectRef}
    {resource : Resource} (all : ∀ ref resource, table.get? ref = some resource →
      resource.ref? = some ref ∧ P resource) (referred : resource.ref? = some ref)
    (holds : P resource) : ∀ other found, (table.insert ref resource).get? other = some found →
      found.ref? = some other ∧ P found := by
  intro other found held
  rw [Table.get?_insert] at held
  split at held
  · rename_i same
    subst same
    obtain rfl := Option.some.inj held
    exact ⟨referred, holds⟩
  · exact all other found held

/-- A store holds nothing but what was reported. -/
theorem All.accept {change : Change} (all : store.All P)
    (accepted : store.accept? change = some after)
    (reported : ∀ resource, change.resource? = some resource → P resource) : after.All P := by
  cases change with
  | applied resource =>
      obtain ⟨ref, referred, rfl⟩ := Option.map_eq_some_iff.1 accepted
      rintro other found (observed | listed)
      · exact holds_insert (fun other found held => all other found (Or.inl held)) referred
          (reported resource rfl) other found observed
      · exact all other found (Or.inr listed)
  | deleted resource =>
      obtain ⟨ref, -, rfl⟩ := Option.map_eq_some_iff.1 accepted
      rintro other found (observed | listed)
      · dsimp only at observed
        rw [Table.get?_erase] at observed
        split at observed
        · contradiction
        · exact all other found (Or.inl observed)
      · exact all other found (Or.inr listed)
  | listingStarted =>
      obtain rfl := Option.some.inj accepted
      rintro other found (observed | listed)
      · exact all other found (Or.inl observed)
      · simp at listed
  | listed resource =>
      obtain ⟨ref, referred, rfl⟩ := Option.map_eq_some_iff.1 accepted
      rintro other found (observed | listed)
      · exact all other found (Or.inl observed)
      · exact holds_insert (fun other found held => all other found (Or.inr held)) referred
          (reported resource rfl) other found listed
  | listingDone =>
      obtain rfl := Option.some.inj accepted
      rintro other found (observed | listed)
      · exact all other found (Or.inr observed)
      · simp at listed

section Placed

variable (placed : store.All Resource.IsPlaced)

include placed

theorem find?_eq_get?_of_placed (address : Address) :
    store.find? address = store.objects.get? address.ref := by
  have homeless : store.objects.get? ⟨address.name, none⟩ = none := by
    rw [Option.eq_none_iff_forall_ne_some]
    intro resource held
    obtain ⟨referred, other, here⟩ := placed _ resource (Or.inl held)
    rw [here.ref?] at referred
    simp [Address.ref] at referred
  unfold find?
  rw [homeless, Option.or_none]
  rfl

theorem isAt_of_find? {address : Address} {resource : Resource}
    (found : store.find? address = some resource) : resource.IsAt address := by
  rw [find?_eq_get?_of_placed placed] at found
  exact Resource.isAt_of_ref? (placed _ resource (Or.inl found)).1

theorem mem_list_iff_of_placed {space : String} {resource : Resource} :
    resource ∈ store.list space ↔
      ∃ address : Address, address.space = space ∧ store.find? address = some resource := by
  unfold list
  simp only [mem_sortBy, List.mem_filter, Selector.admits_all, Bool.and_true,
    decide_eq_true_eq, Table.mem_values_iff]
  constructor
  · rintro ⟨⟨ref, held⟩, spaced⟩
    obtain ⟨referred, address, here⟩ := placed ref resource (Or.inl held)
    have sameRef : address.ref = ref := Option.some.inj (here.ref?.symm.trans referred)
    refine ⟨address, Option.some.inj (here.space?.symm.trans spaced), ?_⟩
    rw [find?_eq_get?_of_placed placed, sameRef]
    exact held
  · rintro ⟨address, rfl, found⟩
    have here := isAt_of_find? placed found
    rw [find?_eq_get?_of_placed placed] at found
    exact ⟨⟨address.ref, found⟩, here.space?⟩

/-- The objects of a namespace have different names. -/
theorem namesApart_list_of_placed (space : String) : NamesApart (store.list space) := by
  intro first firstPresent second secondPresent nameEq
  obtain ⟨one, rfl, found⟩ := (mem_list_iff_of_placed placed).1 firstPresent
  obtain ⟨other, spaceEq, foundToo⟩ := (mem_list_iff_of_placed placed).1 secondPresent
  have here := isAt_of_find? placed found
  have there := isAt_of_find? placed foundToo
  have addressEq := here.eq_of_nameAny_eq there spaceEq.symm nameEq
  rw [addressEq] at found
  exact Option.some.inj (found.symm.trans foundToo)

end Placed

/-- Two objects that are listed under one key are the same. -/
theorem eq_of_key_eq (addressable : store.All Resource.IsAddressable) {space : String}
    {first second : Resource} {key : ResourceKey} (present : first ∈ store.list space)
    (presentToo : second ∈ store.list space) (keyed : first.key = .ok key)
    (keyedToo : second.key = .ok key) : first = second := by
  have placed := addressable.mono fun _ => Resource.IsAddressable.isPlaced
  obtain ⟨one, -, found⟩ := (mem_list_iff_of_placed placed).1 present
  obtain ⟨other, -, foundToo⟩ := (mem_list_iff_of_placed placed).1 presentToo
  have here := isAt_of_find? placed found
  have there := isAt_of_find? placed foundToo
  have formed : other.IsWellFormed := by
    rw [find?_eq_get?_of_placed placed] at foundToo
    obtain ⟨-, same, isAt, formed⟩ := addressable _ second (Or.inl foundToo)
    exact there.unique isAt ▸ formed
  have textEq : one.text = other.text := by
    rw [here.key, ← keyedToo, there.key] at keyed
    exact congrArg ResourceKey.path (Except.ok.inj keyed)
  rw [(Address.text_inj formed).1 textEq] at found
  exact Option.some.inj (found.symm.trans foundToo)

theorem find?_eq_get? (zones : store.All Resource.IsZone) (address : Address) :
    store.find? address = store.objects.get? address.ref :=
  find?_eq_get?_of_placed (zones.mono fun _ => Resource.IsZone.isPlaced) address

/-- What is found at an address is a zone there. -/
theorem isZoneAt_of_find? (zones : store.All Resource.IsZone) {address : Address}
    {zone : Resource} (found : store.find? address = some zone) : zone.IsZoneAt address := by
  rw [find?_eq_get? zones] at found
  obtain ⟨referred, isZone⟩ := zones _ zone (Or.inl found)
  exact isZone.isZoneAt (Resource.isAt_of_ref? referred)

theorem mem_list_iff (zones : store.All Resource.IsZone) {space : String} {zone : Resource} :
    zone ∈ store.list space ↔
      ∃ address : Address, address.space = space ∧ store.find? address = some zone :=
  mem_list_iff_of_placed (zones.mono fun _ => Resource.IsZone.isPlaced)

theorem mem_list_of_find? (zones : store.All Resource.IsZone) {address : Address}
    {zone : Resource} (found : store.find? address = some zone) :
    zone ∈ store.list address.space :=
  (mem_list_iff zones).2 ⟨address, rfl, found⟩

/-- The zones of a namespace have different names. -/
theorem namesApart_list (zones : store.All Resource.IsZone) (space : String) :
    NamesApart (store.list space) :=
  namesApart_list_of_placed (zones.mono fun _ => Resource.IsZone.isPlaced) space

/-- The owner of the name that a zone declares stands in the same namespace. -/
theorem find?_canonical (zones : store.All Resource.IsZone) {address : Address} {zone : Resource}
    (found : store.find? address = some zone) :
    ∃ home : Address, home.space = address.space ∧
      store.find? home = some (canonical zone (store.list address.space)) := by
  have owns := isOwner_canonical (namesApart_list zones address.space)
    (mem_list_of_find? zones found)
  exact (mem_list_iff zones).1 owns.mem

theorem find?_accept_applied {zone : Resource} {address : Address} (here : zone.IsZoneAt address)
    (zones : store.All Resource.IsZone) (accepted : store.accept? (.applied zone) = some after)
    (other : Address) :
    after.find? other = if address = other then some zone else store.find? other := by
  have kept := zones.accept accepted (by rintro _ ⟨⟩; exact ⟨address, here⟩)
  rw [find?_eq_get? kept, find?_eq_get? zones]
  rw [accept?, here.toIsAt.ref?] at accepted
  obtain rfl := Option.some.inj accepted
  simp [Table.get?_insert, Address.ref_inj]

theorem find?_accept_deleted {zone : Resource} {address : Address} (here : zone.IsZoneAt address)
    (zones : store.All Resource.IsZone) (accepted : store.accept? (.deleted zone) = some after)
    (other : Address) :
    after.find? other = if address = other then none else store.find? other := by
  have kept := zones.accept accepted (by rintro _ ⟨⟩; exact ⟨address, here⟩)
  rw [find?_eq_get? kept, find?_eq_get? zones]
  rw [accept?, here.toIsAt.ref?] at accepted
  obtain rfl := Option.some.inj accepted
  simp [Table.get?_erase, Address.ref_inj]

end Store

namespace Sample

def zone (name : String) (created : Int) (zoneName : String) : Resource where
  kind := .zone
  metadata := { name := some name, space := some "team", created := some ⟨created⟩ }
  zoneName := zoneName

theorem isZoneAt_zone {name : String} (nonempty : name ≠ "") (slashFree : '/' ∉ name.toList)
    (created : Int) (zoneName : String) :
    (zone name created zoneName).IsZoneAt ⟨"team", name⟩ where
  name := rfl
  space := rfl
  kind_eq := rfl
  proper := ⟨⟨by simp, nonempty, by simp, slashFree⟩, by simp⟩

theorem isZone_zone {name : String} (nonempty : name ≠ "") (slashFree : '/' ∉ name.toList)
    (created : Int) (zoneName : String) : (zone name created zoneName).IsZone :=
  ⟨_, isZoneAt_zone nonempty slashFree created zoneName⟩

end Sample

end ZoneKeeper
