import ZoneKeeper.Proofs.Selector.Algebra
import ZoneKeeper.Proofs.Watch.Mirroring
import ZoneKeeper.World
import Mathlib.Algebra.BigOperators.Group.Finset.Piecewise
import Mathlib.Data.List.Lex
import Mathlib.Data.Prod.Lex
import Mathlib.Data.String.Basic

/-!
# Lookups and listings agree

A store is read in two ways: an object is looked up by its key, with a second look for one that has
no namespace, and the objects of a namespace are listed, of which a selector admits some.  Whatever
addressable objects a store has been told of, both ways show the same objects: the listings divide
the store into its namespaces, and a lookup finds what the listing of its namespace has.
-/

namespace ZoneKeeper

namespace Resource

/-- Resources are listed in the order of their ranks. -/
def rank (resource : Resource) : List String ×ₗ String :=
  toLex (resource.space?.elim [] fun space => [space], resource.nameAny)

theorem listedBefore_iff {left right : Resource} :
    left.listedBefore right = true ↔ left.rank ≤ right.rank := by
  simp [listedBefore, rank, Prod.Lex.toLex_le_toLex]

end Resource

namespace Store

variable {store : Store} {space name key : String} {resource : Resource}

/-- What a selector admits is listed in the same order as without the selector. -/
theorem list_eq_filter (store : Store) (space : String) (selector : Selector) :
    store.list space selector =
      (store.list space).filter fun resource => selector.admits resource.labels := by
  have trans : ∀ one two three : Resource, one.listedBefore two = true →
      two.listedBefore three = true → one.listedBefore three = true := by
    intro one two three
    simpa only [Resource.listedBefore_iff] using le_trans
  have total : ∀ one two : Resource, ¬ one.listedBefore two = true →
      two.listedBefore one = true := by
    intro one two later
    rw [Resource.listedBefore_iff] at later ⊢
    exact (not_le.1 later).le
  unfold list
  rw [← sortBy_filter _ trans total, List.filter_filter]
  congr 2
  funext resource
  simp [Bool.and_comm]

theorem mem_list_iff_space : resource ∈ store.list space ↔
    resource ∈ store.objects.values ∧ resource.space? = some space := by
  simp [list]

/-- The namespaces of the objects of a store. -/
def spaces (store : Store) : Finset String :=
  (store.objects.values.filterMap Resource.space?).toFinset

theorem mem_spaces_iff : space ∈ store.spaces ↔ store.list space ≠ [] := by
  rw [spaces, List.mem_toFinset, List.mem_filterMap]
  constructor
  · rintro ⟨resource, present, spaced⟩
    exact List.ne_nil_of_mem (mem_list_iff_space.2 ⟨present, spaced⟩)
  · intro nonempty
    obtain ⟨resource, listed⟩ := List.exists_mem_of_ne_nil _ nonempty
    exact ⟨resource, mem_list_iff_space.1 listed⟩

theorem length_list (store : Store) (space : String) : (store.list space).length =
    store.objects.values.countP fun resource => resource.space? = some space := by
  rw [list, (sortBy_perm _ _).length_eq, ← List.countP_eq_length_filter]
  simp

/-- Values that all belong to some parts are counted part by part. -/
theorem sum_countP_eq_length {α β : Type} [DecidableEq β] {values : List α} {part : α → Option β}
    {parts : Finset β} (covered : ∀ value ∈ values, ∃ own ∈ parts, part value = some own) :
    ∑ own ∈ parts, values.countP (fun value => part value = some own) = values.length := by
  induction values with
  | nil => simp
  | cons value values ih =>
      obtain ⟨own, present, isOwn⟩ := covered value List.mem_cons_self
      have others := ih fun other later => covered other (List.mem_cons_of_mem value later)
      simp only [List.countP_cons, Finset.sum_add_distrib, others, isOwn, decide_eq_true_eq,
        Option.some.injEq, Finset.sum_ite_eq, present, if_true, List.length_cons]

section Placed

variable (placed : store.All Resource.IsPlaced)

include placed

theorem exists_space_of_mem_values (present : resource ∈ store.objects.values) :
    ∃ space, resource.space? = some space := by
  obtain ⟨ref, held⟩ := Table.mem_values_iff.1 present
  obtain ⟨-, address, here⟩ := placed ref resource (Or.inl held)
  exact ⟨address.space, here.space?⟩

/-- Every object is listed in one namespace, so that the listings add up to the store. -/
theorem sum_length_list : ∑ space ∈ store.spaces, (store.list space).length = store.size := by
  simp only [length_list]
  rw [sum_countP_eq_length fun resource present => ?_, Table.values, List.length_map, size,
    Table.size]
  obtain ⟨space, spaced⟩ := exists_space_of_mem_values placed present
  exact ⟨space, List.mem_toFinset.2 (List.mem_filterMap.2 ⟨resource, present, spaced⟩), spaced⟩

/-- Objects that are listed together are listed under different names. -/
theorem nodup_names_list (space : String) :
    ((store.list space).map Resource.nameAny).Nodup := by
  -- What tells all objects apart is the name and the namespace, and here the namespace is the same.
  have refs : store.objects.values.map Resource.ref? = store.objects.keys.map some := by
    simp only [Table.values, Table.keys, List.map_map, List.map_inj_left, Function.comp_apply]
    exact fun entry present =>
      (placed entry.1 entry.2 (Or.inl (Table.get?_eq_some_iff.2 present))).1
  have distinct : (store.objects.values.map Resource.ref?).Nodup :=
    refs ▸ store.objects.keys_nodup.map fun _ _ => Option.some.inj
  have listed : ((store.list space).map Resource.ref?).Nodup := by
    rw [list, ((sortBy_perm _ _).map Resource.ref?).nodup_iff]
    exact (List.filter_sublist.map Resource.ref?).nodup distinct
  have byName : (store.list space).map Resource.ref? =
      ((store.list space).map Resource.nameAny).map fun name => some ⟨name, some space⟩ := by
    rw [List.map_map]
    apply List.map_congr_left
    intro resource present
    obtain ⟨address, rfl, found⟩ := (mem_list_iff_of_placed placed).1 present
    have here := isAt_of_find? placed found
    simp [here.ref?, here.nameAny, Address.ref]
  exact (byName ▸ listed).of_map _

end Placed

theorem lookup_eq_error_iff {kind : Kind} : (∃ error, store.lookup kind key = .error error) ↔
    ∀ address : Address, address.IsWellFormed → key ≠ address.text := by
  unfold lookup
  cases parsed : Address.parse key with
  | error fault =>
      obtain ⟨-, malformed⟩ := Address.parse_eq_error_iff.1 parsed
      exact ⟨fun _ => malformed, fun _ => ⟨_, rfl⟩⟩
  | ok address =>
      obtain ⟨same, formed⟩ := Address.parse_eq_ok_iff.1 parsed
      simp only [reduceCtorEq, exists_false, false_iff, not_forall, not_not]
      exact ⟨address, formed, same⟩

theorem lookup_eq_ok_some_iff {kind : Kind} : store.lookup kind key = .ok (some resource) ↔
    ∃ address : Address, address.IsWellFormed ∧ key = address.text ∧
      store.find? address = some resource := by
  unfold lookup
  cases parsed : Address.parse key with
  | error fault =>
      obtain ⟨-, malformed⟩ := Address.parse_eq_error_iff.1 parsed
      simp only [reduceCtorEq, false_iff, not_exists, not_and]
      exact fun address formed same => absurd same (malformed address formed)
  | ok address =>
      obtain ⟨same, formed⟩ := Address.parse_eq_ok_iff.1 parsed
      simp only [Except.ok.injEq]
      constructor
      · exact fun found => ⟨address, formed, same, found⟩
      · rintro ⟨other, -, sameToo, found⟩
        rwa [(Address.text_inj formed).1 (sameToo.symm.trans same)] at found

/-- A lookup finds what the listing of the namespace has under the name, also if the text of both is
no proper key: then there is no such object. -/
theorem lookup_iff_mem_list (addressable : store.All Resource.IsAddressable) {kind : Kind} :
    store.lookup kind (Address.text ⟨space, name⟩) = .ok (some resource) ↔
      resource ∈ store.list space ∧ resource.metadata.name = some name := by
  have placed := addressable.mono fun _ => Resource.IsAddressable.isPlaced
  rw [lookup_eq_ok_some_iff]
  constructor
  · rintro ⟨address, formed, same, found⟩
    obtain rfl := (Address.text_inj formed).1 same
    exact ⟨(mem_list_iff_of_placed placed).2 ⟨_, rfl, found⟩, (isAt_of_find? placed found).name⟩
  · rintro ⟨listed, named⟩
    obtain ⟨address, rfl, found⟩ := (mem_list_iff_of_placed placed).1 listed
    have here := isAt_of_find? placed found
    have nameEq : address.name = name := Option.some.inj (here.name.symm.trans named)
    obtain ⟨-, other, there, formed⟩ : _ ∧ resource.IsAddressable := by
      rw [find?_eq_get?_of_placed placed] at found
      exact addressable _ resource (Or.inl found)
    exact ⟨address, here.unique there ▸ formed, by rw [← nameEq], found⟩

theorem exists_acceptAll? {changes : List Change} (addressable : store.All Resource.IsAddressable)
    (reported : ∀ change ∈ changes, ∀ resource, change.resource? = some resource →
      resource.IsAddressable) :
    ∃ after, store.acceptAll? changes = some after ∧ after.All Resource.IsAddressable := by
  induction changes generalizing store with
  | nil => exact ⟨store, rfl, addressable⟩
  | cons change changes ih =>
      have reportedNow := reported change List.mem_cons_self
      obtain ⟨next, accepted⟩ : ∃ next, store.accept? change = some next := by
        refine store.exists_accept? fun resource found => ?_
        obtain ⟨address, here, -⟩ := reportedNow resource found
        simp [here.name]
      obtain ⟨after, acceptedAll, all⟩ := ih (addressable.accept accepted reportedNow)
        fun other later => reported other (List.mem_cons_of_mem change later)
      exact ⟨after, by rw [acceptAll?, accepted, Option.bind_some, acceptedAll], all⟩

/-- Whatever a store has been told of addressable objects, it does not break.  A lookup by a
namespace and a name finds exactly the object that is listed for this namespace under this name; the
objects of a listing have different names and are all of the namespace; a selector picks from the
whole listing the objects whose labels it admits; and every object is listed for one namespace, so
that the sizes of the listings add up to the size of the store.  A lookup fails exactly if the key
is malformed, and as long as nothing is made to fail, neither another lookup nor a listing does,
whose objects come in any order. -/
theorem lookup_agrees_list {changes : List Change}
    (reported : ∀ change ∈ changes, ∀ resource, change.resource? = some resource →
      resource.IsAddressable) :
    ∃ store, ({} : Store).acceptAll? changes = some store ∧
      (∀ kind space name resource,
        store.lookup kind (Address.text ⟨space, name⟩) = .ok (some resource) ↔
          resource ∈ store.list space ∧ resource.metadata.name = some name) ∧
      (∀ space, ((store.list space).map Resource.nameAny).Nodup ∧
        ∀ resource ∈ store.list space, resource.space? = some space) ∧
      (∀ space selector, store.list space selector =
        (store.list space).filter fun resource => selector.admits resource.labels) ∧
      (∀ resource ∈ store.objects.values, ∃! space, resource ∈ store.list space) ∧
      (∀ space, space ∈ store.spaces ↔ store.list space ≠ []) ∧
      ∑ space ∈ store.spaces, (store.list space).length = store.size ∧
      (∀ kind key, (∃ error, store.lookup kind key = .error error) ↔
        ∀ address : Address, address.IsWellFormed → key ≠ address.text) ∧
      ∀ (world : World) kind, world.faults = {} → (world.cache kind).store = store →
        ∀ key space, world.lookup kind key = store.lookup kind key ∧
          world.list kind space = .ok (world.shuffle.arrange (store.list space)) := by
  obtain ⟨store, accepted, addressable⟩ :=
    exists_acceptAll? (all_empty Resource.IsAddressable) reported
  have placed := addressable.mono fun _ => Resource.IsAddressable.isPlaced
  refine ⟨store, accepted, fun _ _ _ _ => lookup_iff_mem_list addressable, fun space => ?_,
    fun space selector => list_eq_filter store space selector, fun resource present => ?_,
    fun _ => mem_spaces_iff, sum_length_list placed, fun _ _ => lookup_eq_error_iff, ?_⟩
  · exact ⟨nodup_names_list placed space, fun resource listed => (mem_list_iff_space.1 listed).2⟩
  · obtain ⟨space, spaced⟩ := exists_space_of_mem_values placed present
    refine ⟨space, mem_list_iff_space.2 ⟨present, spaced⟩, fun other listed => ?_⟩
    exact Option.some.inj ((mem_list_iff_space.1 listed).2.symm.trans spaced)
  · rintro world kind unharmed rfl key space
    simp [World.lookup, World.list, unharmed]

/-- A zone is observed before a listing that lacks it, and another one is deleted while it is being
listed. -/
def relisted : List Change :=
  [ .applied (Announcer.reportedZone (some "team") "a" "x"), .listingStarted,
    .listed (Announcer.reportedZone (some "team") "b" "x"),
    .listed (Announcer.reportedZone (some "club") "a" "x"),
    .deleted (Announcer.reportedZone (some "team") "b" "x"), .listingDone,
    .applied (Announcer.reportedZone (some "team") "c" "y") ]

/-- The zone that was deleted during the listing is back, the one that was not listed is gone, and
the listings of the two namespaces have three zones together. -/
theorem lookup_agrees_list_relisted : ∃ store, ({} : Store).acceptAll? relisted = some store ∧
    store.lookup .zone "team/b" =
      .ok (some (Announcer.reportedZone (some "team") "b" "x")) ∧
    (∀ resource, store.lookup .zone "team/a" ≠ .ok (some resource)) ∧
    (∃ error, store.lookup .zone "team/a/b" = .error error) ∧
    ∑ space ∈ store.spaces, (store.list space).length = 3 := by
  have reported : ∀ change ∈ relisted, ∀ resource, change.resource? = some resource →
      resource.IsAddressable := by
    have addressable (space name zoneName : String)
        (here : (⟨space, name⟩ : Address).IsWellFormed) :
        (Announcer.reportedZone (some space) name zoneName).IsAddressable :=
      ⟨⟨space, name⟩, ⟨rfl, rfl⟩, here⟩
    intro change present resource found
    simp only [relisted, List.mem_cons, List.not_mem_nil, or_false] at present
    rcases present with rfl | rfl | rfl | rfl | rfl | rfl | rfl
    all_goals first
      | contradiction
      | obtain rfl := Option.some.inj found
        exact addressable _ _ _ ⟨by decide, by decide, by decide, by decide⟩
  obtain ⟨store, accepted, lookup_iff, -, -, -, -, size_eq, fails_iff, -⟩ :=
    lookup_agrees_list reported
  have listed (space : String) : some (store.list space) =
      (({} : Store).acceptAll? relisted).map fun store => store.list space := by
    rw [accepted, Option.map_some]
  have team : store.list "team" = [Announcer.reportedZone (some "team") "b" "x",
      Announcer.reportedZone (some "team") "c" "y"] :=
    Option.some.inj ((listed "team").trans (by decide))
  have size : some store.size = (({} : Store).acceptAll? relisted).map Store.size := by
    rw [accepted, Option.map_some]
  refine ⟨store, accepted, ?_, fun resource found => ?_, ?_, ?_⟩
  · exact (lookup_iff .zone "team" "b" _).2 ⟨team ▸ List.mem_cons_self, rfl⟩
  · obtain ⟨present, named⟩ := (lookup_iff .zone "team" "a" resource).1 found
    simp only [team, List.mem_cons, List.not_mem_nil, or_false] at present
    rcases present with rfl | rfl <;> exact absurd named (by decide)
  · refine (fails_iff .zone "team/a/b").2 ?_
    have failed : Address.parse "team/a/b" = .error (.malformed "team/a/b") := by decide
    exact (Address.parse_eq_error_iff.1 failed).2
  · exact size_eq.trans (Option.some.inj (size.trans (by decide)))

end Store

end ZoneKeeper
