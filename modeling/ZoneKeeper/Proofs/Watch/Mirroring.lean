import ZoneKeeper.Proofs.Watch.Reports
import Mathlib.Data.List.Nodup

/-!
# The announcer as a mirror of the store

The store and the announcer take in the same changes, each for itself.  Whatever the changes are
and in whatever order they come, the announcer knows exactly those objects of the store that have a
namespace, as the store has them, and whoever follows the events that it has told knows exactly the
keys of these objects.
-/

namespace ZoneKeeper

/-- The store after some changes, unless one of them breaks it. -/
def Store.acceptAll? (store : Store) : List Change → Option Store
  | [] => some store
  | change :: changes => (store.accept? change).bind fun after => after.acceptAll? changes

/-- The resource is of a kind and has a name, and there is no slash in its namespace. -/
structure Resource.IsReportable (kind : Kind) (resource : Resource) : Prop where
  kind_eq : resource.kind = kind
  name_ne_none : resource.metadata.name ≠ none
  spaceHasNoSlash : resource.SpaceHasNoSlash

theorem Resource.key_of_path {resource : Resource} {path : String}
    (pathed : resource.path = .ok path) : resource.key = .ok ⟨path, resource.kind⟩ := by
  simp [Resource.key, pathed, Except.map]

theorem Store.exists_accept? {store : Store} {change : Change}
    (named : ∀ resource, change.resource? = some resource → resource.metadata.name ≠ none) :
    ∃ after, store.accept? change = some after := by
  have referred (resource : Resource) (found : change.resource? = some resource) :
      ∃ ref, resource.ref? = some ref := by
    obtain ⟨name, nameEq⟩ := Option.ne_none_iff_exists'.1 (named resource found)
    exact ⟨_, by rw [Resource.ref?, nameEq, Option.map_some]⟩
  cases change with
  | applied resource | deleted resource | listed resource =>
      obtain ⟨ref, refEq⟩ := referred resource rfl
      exact ⟨_, by rw [Store.accept?, refEq, Option.map_some]⟩
  | listingStarted | listingDone => exact ⟨_, rfl⟩

namespace Announcer

/-- The announcer after some changes, and the events told on the way, where the deletions of what
has vanished come in some order. -/
def announceAll (kind : Kind) (shuffle : Shuffle Resource) (announcer : Announcer) :
    List Change → Announcer × List WatchEvent
  | [] => (announcer, [])
  | change :: changes =>
      let announcement := announcer.announce kind change shuffle
      let (last, events) := announceAll kind shuffle announcement.announcer changes
      (last, announcement.events ++ events)

/-- The keys of the objects that are there, for someone who is told of an event. -/
def learn (keys : List ResourceKey) : WatchEvent → List ResourceKey
  | .applied key => keys.insert key
  | .deleted gone => keys.filter fun key => gone.key ≠ .ok key

/-- What someone knows who starts with nothing and is told of some events. -/
def replay (events : List WatchEvent) : List ResourceKey :=
  events.foldl learn []

theorem mem_learn_deletions {keys : List ResourceKey} {gone : List Resource} {key : ResourceKey} :
    key ∈ (gone.map .deleted).foldl learn keys ↔
      key ∈ keys ∧ ∀ resource ∈ gone, resource.key ≠ .ok key := by
  induction gone generalizing keys with
  | nil => simp
  | cons head gone ih =>
      rw [List.map_cons, List.foldl_cons, ih]
      simp only [learn, List.mem_filter, decide_eq_true_eq, List.forall_mem_cons, and_assoc]

theorem mem_learn_applications {keys applied : List ResourceKey} {key : ResourceKey} :
    key ∈ (applied.map .applied).foldl learn keys ↔ key ∈ keys ∨ key ∈ applied := by
  induction applied generalizing keys with
  | nil => simp
  | cons head applied ih =>
      rw [List.map_cons, List.foldl_cons, ih]
      simp only [learn, List.mem_insert_iff, List.mem_cons]
      tauto

/-- The announcer knows what the store has, and the keys are those of the known objects. -/
structure Mirrors (kind : Kind) (announcer : Announcer) (store : Store)
    (keys : List ResourceKey) : Prop where
  known : announcer.All (Resource.IsReportable kind)
  stored : store.All (Resource.IsReportable kind)
  agrees : ∀ address : Address, '/' ∉ address.space.toList → announcer.Matches store address
  mem_keys_iff : ∀ key, key ∈ keys ↔ key.kind = kind ∧ announcer.known.get? key.path ≠ none

theorem mirrors_empty (kind : Kind) : Mirrors kind {} {} [] where
  known := all_empty _
  stored := Store.all_empty _
  agrees := fun _ _ => ⟨rfl, rfl⟩
  mem_keys_iff := by simp

variable {kind : Kind} {announcer : Announcer} {store after : Store} {keys : List ResourceKey}
  {shuffle : Shuffle Resource}

theorem Mirrors.mem_learn_listingDone (mirrors : Mirrors kind announcer store keys)
    (key : ResourceKey) :
    key ∈ (announcer.announce kind .listingDone shuffle).events.foldl learn keys ↔
      key.kind = kind ∧ (Table.ofList announcer.listing).get? key.path ≠ none := by
  have applications : (announcer.listing.map fun entry => WatchEvent.applied ⟨entry.1, kind⟩) =
      (announcer.listing.map fun entry => ⟨entry.1, kind⟩).map .applied := by simp
  simp only [announce, finishListing, applications, List.foldl_append, mem_learn_applications,
    mem_learn_deletions, mirrors.mem_keys_iff, ne_eq, Table.get?_ofList_eq_none_iff, not_not]
  constructor
  · rintro (⟨⟨kindEq, present⟩, remains⟩ | listed)
    · -- A known object that is not listed vanishes, and its key is deleted again.
      refine ⟨kindEq, ?_⟩
      by_contra missing
      obtain ⟨gone, held⟩ := Option.ne_none_iff_exists'.1 present
      obtain ⟨pathed, reportable⟩ := mirrors.known.known key.path gone held
      refine remains gone (Shuffle.mem_arrange.2 (mem_vanished_iff.2 ⟨key.path, held, missing⟩)) ?_
      rw [Resource.key_of_path pathed, reportable.kind_eq, ← kindEq]
    · obtain ⟨entry, present, rfl⟩ := List.mem_map.1 listed
      exact ⟨rfl, List.mem_map_of_mem present⟩
  · rintro ⟨rfl, listed⟩
    obtain ⟨entry, present, pathEq⟩ := List.mem_map.1 listed
    exact Or.inr (List.mem_map.2 ⟨entry, present, by rw [pathEq]⟩)

/-- The keys that are learnt from the events of a change are those of the known objects. -/
theorem Mirrors.mem_learn_iff {change : Change} (mirrors : Mirrors kind announcer store keys)
    (reported : ∀ resource, change.resource? = some resource → resource.IsReportable kind)
    (key : ResourceKey) :
    key ∈ (announcer.announce kind change shuffle).events.foldl learn keys ↔
      key.kind = kind ∧
        (announcer.announce kind change shuffle).announcer.known.get? key.path ≠ none := by
  cases change with
  | applied resource =>
      cases pathed : resource.path with
      | error fault => simpa [announce, pathed] using mirrors.mem_keys_iff key
      | ok path =>
          simp only [announce, pathed, List.foldl_cons, List.foldl_nil, learn,
            List.mem_insert_iff, mirrors.mem_keys_iff, Table.get?_insert]
          by_cases same : path = key.path
          · subst same
            cases key
            simp +contextual
          · have apart : key ≠ ⟨path, kind⟩ := fun keyEq => same (by rw [keyEq])
            simp [same, apart]
  | deleted resource =>
      cases pathed : resource.path with
      | error fault => simpa [announce, pathed] using mirrors.mem_keys_iff key
      | ok path =>
          have keyed := Resource.key_of_path pathed
          rw [(reported resource rfl).kind_eq] at keyed
          simp only [announce, pathed, List.foldl_cons, List.foldl_nil, learn, List.mem_filter,
            keyed, mirrors.mem_keys_iff, Table.get?_erase, decide_eq_true_eq]
          by_cases same : path = key.path
          · subst same
            cases key
            simp_all
          · have apart : (⟨path, kind⟩ : ResourceKey) ≠ key := fun keyEq => same (by rw [← keyEq])
            simp [same, apart]
  | listingStarted => exact mirrors.mem_keys_iff key
  | listed resource =>
      cases pathed : resource.path with
      | error fault => simpa [announce, pathed] using mirrors.mem_keys_iff key
      | ok path => simpa [announce, pathed] using mirrors.mem_keys_iff key
  | listingDone => exact mirrors.mem_learn_listingDone key

theorem Mirrors.announce {change : Change} (mirrors : Mirrors kind announcer store keys)
    (reported : ∀ resource, change.resource? = some resource → resource.IsReportable kind)
    (accepted : store.accept? change = some after) :
    Mirrors kind (announcer.announce kind change shuffle).announcer after
      ((announcer.announce kind change shuffle).events.foldl learn keys) where
  known := (mirrors.known.announce reported).1
  stored := mirrors.stored.accept accepted reported
  agrees := fun address free => (mirrors.agrees address free).announce free
    (fun resource found => (reported resource found).spaceHasNoSlash) accepted
  mem_keys_iff := mirrors.mem_learn_iff reported

theorem Mirrors.announceAll {changes : List Change} (mirrors : Mirrors kind announcer store keys)
    (reported : ∀ change ∈ changes, ∀ resource, change.resource? = some resource →
      resource.IsReportable kind) :
    ∃ after, store.acceptAll? changes = some after ∧
      Mirrors kind (announcer.announceAll kind shuffle changes).1 after
        ((announcer.announceAll kind shuffle changes).2.foldl learn keys) := by
  induction changes generalizing announcer store keys with
  | nil => exact ⟨store, rfl, mirrors⟩
  | cons change changes ih =>
      have reportable := reported change List.mem_cons_self
      obtain ⟨next, accepted⟩ := store.exists_accept? fun resource found =>
        (reportable resource found).name_ne_none
      obtain ⟨after, acceptedAll, mirrorsAfter⟩ := ih (mirrors.announce reportable accepted)
        fun other present => reported other (List.mem_cons_of_mem change present)
      refine ⟨after, ?_, ?_⟩
      · rw [Store.acceptAll?, accepted, Option.bind_some, acceptedAll]
      · rw [Announcer.announceAll, List.foldl_append]
        exact mirrorsAfter

theorem Mirrors.get?_known_eq_some_iff (mirrors : Mirrors kind announcer store keys) {path : String}
    {resource : Resource} : announcer.known.get? path = some resource ↔
      ∃ address : Address, path = address.text ∧
        store.objects.get? address.ref = some resource := by
  constructor
  · intro held
    obtain ⟨pathed, reportable⟩ := mirrors.known.known path resource held
    obtain ⟨address, here, rfl⟩ := Resource.isAt_of_path pathed
    have free := reportable.spaceHasNoSlash _ here.space?
    exact ⟨address, rfl, (mirrors.agrees address free).known ▸ held⟩
  · rintro ⟨address, rfl, held⟩
    obtain ⟨referred, reportable⟩ := mirrors.stored _ resource (Or.inl held)
    have free := reportable.spaceHasNoSlash _ (Resource.isAt_of_ref? referred).space?
    exact (mirrors.agrees address free).known.trans held

/-- An object is known under one path only, so none is reported as deleted twice. -/
theorem All.vanished_nodup {P : Resource → Prop} (all : announcer.All P) :
    (vanished announcer.known announcer.listing).Nodup := by
  unfold vanished
  rw [((sortBy_perm _ _).map Prod.snd).nodup_iff]
  generalize filtered : announcer.known.entries.filter (fun entry =>
    !(announcer.listing.map Prod.fst).contains entry.1) = gone
  have among : gone.Sublist announcer.known.entries := filtered ▸ List.filter_sublist
  have paths : (gone.map Prod.snd).map Resource.path = (gone.map Prod.fst).map Except.ok := by
    simp only [List.map_map, List.map_inj_left, Function.comp_apply]
    intro entry present
    exact (all.known entry.1 entry.2 (Table.get?_eq_some_iff.2 (among.subset present))).1
  have distinct : ((gone.map Prod.fst).map Except.ok : List (Except KeyError String)).Nodup :=
    (announcer.known.keys_nodup.sublist (among.map Prod.fst)).map fun _ _ => Except.ok.inj
  exact (paths ▸ distinct).of_map Resource.path

/-- When a listing ends, the deletion is told of exactly those objects of the store that have a
namespace and are not in the listing, and of each of them once. -/
theorem Mirrors.mem_listingDone_iff (mirrors : Mirrors kind announcer store keys)
    (gone : Resource) :
    (.deleted gone ∈ (announcer.announce kind .listingDone shuffle).events ↔
      ∃ address : Address, store.objects.get? address.ref = some gone ∧
        store.listing.get? address.ref = none) ∧
    (announcer.announce kind .listingDone shuffle).events.count (.deleted gone) ≤ 1 := by
  have notApplied : .deleted gone ∉
      announcer.listing.map fun entry => WatchEvent.applied ⟨entry.1, kind⟩ := by simp
  have vanishes_iff : gone ∈ vanished announcer.known announcer.listing ↔
      ∃ address : Address, store.objects.get? address.ref = some gone ∧
        store.listing.get? address.ref = none := by
    simp only [mem_vanished_iff, mirrors.get?_known_eq_some_iff, ← Table.get?_ofList_eq_none_iff]
    constructor
    · rintro ⟨_, ⟨address, rfl, held⟩, missing⟩
      obtain ⟨referred, reportable⟩ := mirrors.stored _ gone (Or.inl held)
      have free := reportable.spaceHasNoSlash _ (Resource.isAt_of_ref? referred).space?
      exact ⟨address, held, (mirrors.agrees address free).listing ▸ missing⟩
    · rintro ⟨address, held, missing⟩
      obtain ⟨referred, reportable⟩ := mirrors.stored _ gone (Or.inl held)
      have free := reportable.spaceHasNoSlash _ (Resource.isAt_of_ref? referred).space?
      exact
        ⟨address.text, ⟨address, rfl, held⟩, (mirrors.agrees address free).listing.trans missing⟩
  simp only [Announcer.announce, finishListing]
  constructor
  · rw [← vanishes_iff, List.mem_append, or_iff_left notApplied,
      List.mem_map_of_injective fun _ _ => WatchEvent.deleted.inj, Shuffle.mem_arrange]
  · have once : ((shuffle.arrange (vanished announcer.known announcer.listing)).map
        WatchEvent.deleted).Nodup :=
      ((shuffle.perm _).nodup_iff.2 mirrors.known.vanished_nodup).map
        fun _ _ => WatchEvent.deleted.inj
    rw [List.count_append, List.count_eq_zero_of_not_mem notApplied, Nat.add_zero]
    exact List.nodup_iff_count_le_one.1 once _

/-- Whatever changes a store and an announcer take in, the announcer knows, as the store has them,
exactly the objects that have a namespace, and the events replayed give exactly their keys.  If a
listing ends then, the deletion is told once of each of these objects that the listing does not
have, with the state that the store had it in, and of nothing else.  It does not matter in what
order the deletions come. -/
theorem announceAll_mirrors_acceptAll {changes : List Change} {shuffle : Shuffle Resource}
    (reported : ∀ change ∈ changes, ∀ resource, change.resource? = some resource →
      resource.IsReportable kind) :
    ∃ store, ({} : Store).acceptAll? changes = some store ∧
      (∀ path resource,
        (announceAll kind shuffle {} changes).1.known.get? path = some resource ↔
          ∃ address : Address, path = address.text ∧
            store.objects.get? address.ref = some resource) ∧
      (∀ key, key ∈ replay (announceAll kind shuffle {} changes).2 ↔
        key.kind = kind ∧
          ∃ resource, (announceAll kind shuffle {} changes).1.known.get? key.path = some resource) ∧
      ∀ gone,
        (.deleted gone ∈
            ((announceAll kind shuffle {} changes).1.announce kind .listingDone shuffle).events ↔
          ∃ address : Address, store.objects.get? address.ref = some gone ∧
            store.listing.get? address.ref = none) ∧
        ((announceAll kind shuffle {} changes).1.announce kind .listingDone shuffle).events.count
          (.deleted gone) ≤ 1 := by
  obtain ⟨store, accepted, mirrors⟩ := (mirrors_empty kind).announceAll reported
  refine ⟨store, accepted, fun path resource => mirrors.get?_known_eq_some_iff, fun key => ?_,
    mirrors.mem_listingDone_iff⟩
  rw [replay, mirrors.mem_keys_iff, Option.ne_none_iff_exists']

def reportedZone (space : Option String) (name zoneName : String) : Resource where
  kind := .zone
  metadata := { name := some name, space }
  zoneName

/-- An object is listed before a listing has started, another one has no namespace, one comes in
the middle of a listing, and one is listed twice and deleted in between. -/
def ragged : List Change :=
  [ .listed (reportedZone (some "team") "a" "x"), .applied (reportedZone none "a" "y"),
    .listingDone, .applied (reportedZone (some "team") "b/c" "x"), .listingStarted,
    .listed (reportedZone (some "team") "a" "x"), .deleted (reportedZone (some "team") "a" "x"),
    .listed (reportedZone (some "team") "a" "z"), .applied (reportedZone (some "team") "d" "x") ]

/-- If the listing ends then, the objects that are told to be gone are those that it lacks. -/
theorem announceAll_mirrors_acceptAll_ragged :
    ({} : Store).acceptAll? ragged ≠ none ∧
      (announceAll .zone .asGiven {} ragged).1.known.get? "team/b/c" =
        some (reportedZone (some "team") "b/c" "x") ∧
      ⟨"team/d", .zone⟩ ∈ replay (announceAll .zone .asGiven {} ragged).2 ∧
      .deleted (reportedZone (some "team") "d" "x") ∈
        ((announceAll .zone .asGiven {} ragged).1.announce .zone .listingDone).events := by
  have reported : ∀ change ∈ ragged, ∀ resource, change.resource? = some resource →
      resource.IsReportable .zone := by
    have reportable (space : Option String) (free : ∀ text ∈ space, '/' ∉ text.toList)
        (name zoneName : String) : (reportedZone space name zoneName).IsReportable .zone :=
      ⟨rfl, Option.some_ne_none _, free⟩
    intro change present resource found
    simp only [ragged, List.mem_cons, List.not_mem_nil, or_false] at present
    rcases present with rfl | rfl | rfl | rfl | rfl | rfl | rfl | rfl | rfl
    all_goals first
      | contradiction
      | obtain rfl := Option.some.inj found
        exact reportable _ (by simp) _ _
  obtain ⟨store, accepted, known_iff, replay_iff, told⟩ := announceAll_mirrors_acceptAll reported
  have held (address : Address) : store.objects.get? address.ref =
      (({} : Store).acceptAll? ragged).bind fun store => store.objects.get? address.ref := by
    rw [accepted, Option.bind_some]
  have listed (address : Address) : store.listing.get? address.ref =
      (({} : Store).acceptAll? ragged).bind fun store => store.listing.get? address.ref := by
    rw [accepted, Option.bind_some]
  refine ⟨by simp [accepted], ?_, ?_, ?_⟩
  · exact (known_iff _ _).2 ⟨⟨"team", "b/c"⟩, rfl, (held _).trans (by decide)⟩
  · exact (replay_iff _).2 ⟨rfl, _, (known_iff _ _).2 ⟨⟨"team", "d"⟩, rfl, (held _).trans rfl⟩⟩
  · exact (told _).1.2 ⟨⟨"team", "d"⟩, (held _).trans (by decide), (listed _).trans (by decide)⟩

end Announcer

end ZoneKeeper
