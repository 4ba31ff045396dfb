import ZoneKeeper.Proofs.Store.Contents
import ZoneKeeper.Watch.Announcer

/-!
# What a report sets off

The announcer knows the same objects as the store.  So whenever a report changes what the store has
at an address, an event tells of it: the key of an object that is there, or the last state of an
object that is gone.
-/

namespace ZoneKeeper.Announcer

variable {announcer : Announcer} {store after : Store} {P : Resource → Prop}
  {shuffle : Shuffle Resource}

/-- Every object that is known or listed stands under its own path and has a property. -/
structure All (P : Resource → Prop) (announcer : Announcer) : Prop where
  known : ∀ path resource, announcer.known.get? path = some resource →
    resource.path = .ok path ∧ P resource
  listing : ∀ path resource, (path, resource) ∈ announcer.listing →
    resource.path = .ok path ∧ P resource

/-- The announcer and the store know of the same objects. -/
structure Follows (announcer : Announcer) (store : Store) : Prop where
  known : ∀ address : Address, address.IsProper →
    announcer.known.get? address.text = store.objects.get? address.ref
  listing : ∀ address : Address, address.IsProper →
    (Table.ofList announcer.listing).get? address.text = store.listing.get? address.ref

theorem all_empty (P : Resource → Prop) : All P {} where
  known := by simp
  listing := by simp

theorem follows_empty : Follows {} {} where
  known := by simp
  listing := fun _ _ => rfl

theorem mem_vanished_iff {known : Table String Resource} {listing : List (String × Resource)}
    {resource : Resource} : resource ∈ vanished known listing ↔
      ∃ path, known.get? path = some resource ∧ path ∉ listing.map Prod.fst := by
  unfold vanished
  simp only [List.mem_map, mem_sortBy, List.mem_filter, Bool.not_eq_true',
    List.contains_eq_mem, decide_eq_false_iff_not, Table.get?_eq_some_iff]
  constructor
  · rintro ⟨⟨path, found⟩, ⟨present, missing⟩, rfl⟩
    exact ⟨path, present, missing⟩
  · rintro ⟨path, present, missing⟩
    exact ⟨(path, resource), ⟨present, missing⟩, rfl⟩

section Zone

variable {zone : Resource} {address : Address} (here : zone.IsZoneAt address)
include here

theorem announce_applied : announcer.announce .zone (.applied zone) shuffle =
    { announcer := { announcer with known := announcer.known.insert address.text zone }
      events := [.applied address.zoneKey] } := by
  simp [announce, here.toIsAt.path, Address.zoneKey]

theorem announce_deleted : announcer.announce .zone (.deleted zone) shuffle =
    { announcer := { announcer with known := announcer.known.erase address.text }
      events := [.deleted zone] } := by
  simp [announce, here.toIsAt.path]

theorem announce_listed : announcer.announce .zone (.listed zone) shuffle =
    { announcer := { announcer with listing := announcer.listing ++ [(address.text, zone)] } } := by
  simp [announce, here.toIsAt.path]

end Zone

/-- The announcer knows and tells of nothing but what was reported. -/
theorem All.announce {kind : Kind} {change : Change} (all : announcer.All P)
    (reported : ∀ resource, change.resource? = some resource → P resource) :
    (announcer.announce kind change shuffle).announcer.All P ∧
      ∀ gone, .deleted gone ∈ (announcer.announce kind change shuffle).events → P gone := by
  cases change with
  | applied resource =>
      cases pathed : resource.path with
      | error fault => exact ⟨by simpa [Announcer.announce, pathed] using all,
          by simp [Announcer.announce, pathed]⟩
      | ok path =>
          simp only [Announcer.announce, pathed]
          refine ⟨⟨fun other found held => ?_, all.listing⟩, by simp⟩
          rw [Table.get?_insert] at held
          split at held
          · rename_i same
            subst same
            obtain rfl := Option.some.inj held
            exact ⟨pathed, reported resource rfl⟩
          · exact all.known other found held
  | deleted resource =>
      cases pathed : resource.path with
      | error fault => exact ⟨by simpa [Announcer.announce, pathed] using all,
          by simp [Announcer.announce, pathed]⟩
      | ok path =>
          simp only [Announcer.announce, pathed]
          refine ⟨⟨fun other found held => ?_, all.listing⟩, fun gone present => ?_⟩
          · rw [Table.get?_erase] at held
            split at held
            · contradiction
            · exact all.known other found held
          · rw [List.mem_singleton, WatchEvent.deleted.injEq] at present
            rw [present]
            exact reported resource rfl
  | listingStarted =>
      exact ⟨⟨all.known, by simp [Announcer.announce]⟩, by simp [Announcer.announce]⟩
  | listed resource =>
      cases pathed : resource.path with
      | error fault => exact ⟨by simpa [Announcer.announce, pathed] using all,
          by simp [Announcer.announce, pathed]⟩
      | ok path =>
          simp only [Announcer.announce, pathed]
          refine ⟨⟨all.known, fun other found present => ?_⟩, by simp⟩
          rcases List.mem_append.1 present with earlier | last
          · exact all.listing other found earlier
          · rw [List.mem_singleton, Prod.mk.injEq] at last
            obtain ⟨rfl, rfl⟩ := last
            exact ⟨pathed, reported _ rfl⟩
  | listingDone =>
      refine ⟨⟨fun path found held => ?_, ?_⟩, ?_⟩
      · exact all.listing path found (Table.mem_of_get?_ofList held)
      · simp [Announcer.announce, finishListing]
      · intro gone present
        rcases List.mem_append.1 present with vanishing | applying
        · obtain ⟨other, lost, same⟩ := List.mem_map.1 vanishing
          obtain rfl : other = gone := WatchEvent.deleted.inj same
          obtain ⟨path, held, -⟩ := mem_vanished_iff.1 (Shuffle.mem_arrange.1 lost)
          exact (all.known path other held).2
        · obtain ⟨entry, -, same⟩ := List.mem_map.1 applying
          contradiction

/-- The announcer and the store know of the same object at an address, and have listed the same. -/
structure Matches (announcer : Announcer) (store : Store) (address : Address) : Prop where
  known : announcer.known.get? address.text = store.objects.get? address.ref
  listing : (Table.ofList announcer.listing).get? address.text = store.listing.get? address.ref

/-- The path under which the announcer keeps a resource means the same address as the reference
under which the store keeps it; without a path the reference means no address. -/
theorem path_or_apart {resource : Resource} {ref : ObjectRef} {address : Address}
    (referred : resource.ref? = some ref) (free : '/' ∉ address.space.toList)
    (slashFree : resource.SpaceHasNoSlash) :
    (∃ path, resource.path = .ok path ∧ (path = address.text ↔ ref = address.ref)) ∨
      (∃ fault, resource.path = .error fault) ∧ ref ≠ address.ref := by
  rcases Resource.isAt_or_of_ref? referred with ⟨other, here, rfl⟩ | ⟨unaddressed, homeless⟩
  · refine Or.inl ⟨other.text, here.path, ?_⟩
    rw [Address.text_inj_of_slash_not_mem (slashFree _ here.space?) free, Address.ref_inj]
  · refine Or.inr ⟨⟨_, unaddressed⟩, ?_⟩
    rintro rfl
    contradiction

/-- What a change makes of an address is the same for the announcer and for the store. -/
theorem Matches.announce {kind : Kind} {change : Change} {address : Address}
    (agrees : announcer.Matches store address) (free : '/' ∉ address.space.toList)
    (reported : ∀ resource, change.resource? = some resource → resource.SpaceHasNoSlash)
    (accepted : store.accept? change = some after) :
    (announcer.announce kind change shuffle).announcer.Matches after address := by
  cases change with
  | applied resource =>
      obtain ⟨ref, referred, rfl⟩ := Option.map_eq_some_iff.1 accepted
      rcases path_or_apart referred free (reported resource rfl) with
        ⟨path, pathed, sameIff⟩ | ⟨⟨fault, unaddressed⟩, apart⟩
      · simp only [Announcer.announce, pathed]
        refine ⟨?_, agrees.listing⟩
        simp only [Table.get?_insert, sameIff, agrees.known]
      · simp only [Announcer.announce, unaddressed]
        exact ⟨by rw [Table.get?_insert_of_ne _ _ apart, agrees.known], agrees.listing⟩
  | deleted resource =>
      obtain ⟨ref, referred, rfl⟩ := Option.map_eq_some_iff.1 accepted
      rcases path_or_apart referred free (reported resource rfl) with
        ⟨path, pathed, sameIff⟩ | ⟨⟨fault, unaddressed⟩, apart⟩
      · simp only [Announcer.announce, pathed]
        refine ⟨?_, agrees.listing⟩
        simp only [Table.get?_erase, sameIff, agrees.known]
      · simp only [Announcer.announce, unaddressed]
        exact ⟨by rw [Table.get?_erase_of_ne _ apart, agrees.known], agrees.listing⟩
  | listingStarted =>
      obtain rfl := Option.some.inj accepted
      exact ⟨agrees.known, rfl⟩
  | listed resource =>
      obtain ⟨ref, referred, rfl⟩ := Option.map_eq_some_iff.1 accepted
      rcases path_or_apart referred free (reported resource rfl) with
        ⟨path, pathed, sameIff⟩ | ⟨⟨fault, unaddressed⟩, apart⟩
      · simp only [Announcer.announce, pathed]
        refine ⟨agrees.known, ?_⟩
        simp only [Table.ofList_concat, Table.get?_insert, sameIff, agrees.listing]
      · simp only [Announcer.announce, unaddressed]
        exact ⟨agrees.known, by rw [Table.get?_insert_of_ne _ _ apart, agrees.listing]⟩
  | listingDone =>
      obtain rfl := Option.some.inj accepted
      exact ⟨agrees.listing, rfl⟩

/-- The announcer keeps up with the store. -/
theorem Follows.announce {change : Change} (follows : announcer.Follows store)
    (reported : ∀ resource, change.resource? = some resource → resource.IsZone)
    (accepted : store.accept? change = some after) :
    (announcer.announce .zone change shuffle).announcer.Follows after := by
  have agrees {address : Address} (proper : address.IsProper) :
      (announcer.announce .zone change shuffle).announcer.Matches after address := by
    have before : announcer.Matches store address :=
      ⟨follows.known address proper, follows.listing address proper⟩
    refine before.announce proper.slash_not_mem_space (fun resource found => ?_) accepted
    obtain ⟨other, here⟩ := reported resource found
    exact here.toIsAt.spaceHasNoSlash here.proper.slash_not_mem_space
  exact ⟨fun address proper => (agrees proper).known, fun address proper => (agrees proper).listing⟩

/-- What a report does to what is at an address, and the event that tells of it. -/
inductive Told (address : Address) (store after : Store) (events : List WatchEvent) : Prop
  | same (unchanged : after.find? address = store.find? address)
  | applied (zone : Resource) (found : after.find? address = some zone)
      (told : .applied address.zoneKey ∈ events)
  | deleted (gone : Resource) (here : gone.IsZoneAt address) (absent : after.find? address = none)
      (told : .deleted gone ∈ events)

/-- Of every change at an address an event tells. -/
theorem told_announce {change : Change} {address : Address} (proper : address.IsProper)
    (zones : store.All Resource.IsZone) (follows : announcer.Follows store)
    (reported : ∀ resource, change.resource? = some resource → resource.IsZone)
    (accepted : store.accept? change = some after) :
    Told address store after (announcer.announce .zone change shuffle).events := by
  have zonesAfter := zones.accept accepted reported
  cases change with
  | applied zone =>
      obtain ⟨home, here⟩ := reported zone rfl
      have found := Store.find?_accept_applied here zones accepted address
      rw [announce_applied here]
      by_cases same : home = address
      · subst same
        rw [if_pos rfl] at found
        exact .applied zone found (List.mem_singleton.2 rfl)
      · rw [if_neg same] at found
        exact .same found
  | deleted zone =>
      obtain ⟨home, here⟩ := reported zone rfl
      have found := Store.find?_accept_deleted here zones accepted address
      rw [announce_deleted here]
      by_cases same : home = address
      · subst same
        rw [if_pos rfl] at found
        exact .deleted zone here found (List.mem_singleton.2 rfl)
      · rw [if_neg same] at found
        exact .same found
  | listingStarted =>
      obtain rfl := Option.some.inj accepted
      exact .same rfl
  | listed zone =>
      obtain ⟨ref, -, rfl⟩ := Option.map_eq_some_iff.1 accepted
      exact .same rfl
  | listingDone =>
      obtain rfl := Option.some.inj accepted
      have found : Store.find? ⟨store.listing, {}⟩ address =
          (Table.ofList announcer.listing).get? address.text := by
        rw [Store.find?_eq_get? zonesAfter, follows.listing address proper]
      cases listed : (Table.ofList announcer.listing).get? address.text with
      | some zone =>
          rw [listed] at found
          refine .applied zone found (List.mem_append_right _ (List.mem_map.2 ?_))
          exact ⟨(address.text, zone), Table.mem_of_get?_ofList listed, rfl⟩
      | none =>
          rw [listed] at found
          cases lost : store.find? address with
          | none => exact .same (found.trans lost.symm)
          | some gone =>
              refine .deleted gone (Store.isZoneAt_of_find? zones lost) found
                (List.mem_append_left _ (List.mem_map.2 ⟨gone, ?_, rfl⟩))
              rw [Shuffle.mem_arrange, mem_vanished_iff]
              refine ⟨address.text, ?_, Table.get?_ofList_eq_none_iff.1 listed⟩
              rw [follows.known address proper, ← Store.find?_eq_get? zones, lost]

end ZoneKeeper.Announcer
