import ZoneKeeper.Proofs.Dispatcher.Caches
import ZoneKeeper.Proofs.Dispatcher.Deliveries
import ZoneKeeper.Proofs.Dispatcher.Losers
import ZoneKeeper.Proofs.Dispatcher.Queueing
import ZoneKeeper.Proofs.Dispatcher.Results

/-!
# Isolation of namespaces

The caches are stores whose objects have namespaces; a listing has them in any order.  Then a pass
depends on nothing outside the namespace of its key but on the answers of the handlers: two
dispatchers that agree on the namespace, and get the same answers, do the same, and agree on the
namespace afterwards.  Nothing that a pass asks of the handlers, or queues, is outside its
namespace.
-/

namespace ZoneKeeper

/-- The stores of both kinds. -/
abbrev Stores :=
  Kind → Store

/-- In which order the objects of a namespace are listed. -/
structure Arrangement where
  arrange : Kind → String → Stores → List Resource
  perm : ∀ kind space stores, (arrange kind space stores).Perm ((stores kind).list space)

/-- Stores answer lookups and listings. -/
def Arrangement.caches (arrangement : Arrangement) : Caches Stores where
  lookup kind path stores := ((stores kind).lookup kind path, stores)
  list kind space stores := (.ok (arrangement.arrange kind space stores), stores)
  hasSynced _ _ := true

/-- Every object has a namespace. -/
def Stores.IsPlaced (stores : Stores) : Prop :=
  ∀ kind, (stores kind).All Resource.IsPlaced

theorem Store.find?_eq_some_iff_of_placed {store : Store} (placed : store.All Resource.IsPlaced)
    {address : Address} {resource : Resource} :
    store.find? address = some resource ↔
      resource ∈ store.list address.space ∧ resource.IsAt address := by
  rw [mem_list_iff_of_placed placed]
  constructor
  · intro found
    exact ⟨⟨address, rfl, found⟩, isAt_of_find? placed found⟩
  · rintro ⟨⟨other, -, found⟩, here⟩
    rw [here.unique (isAt_of_find? placed found)]
    exact found

/-- What is found at an address is among what is listed of its namespace. -/
theorem Store.find?_congr {first second : Store} (placed : first.All Resource.IsPlaced)
    (placedToo : second.All Resource.IsPlaced) {address : Address}
    (same : (first.list address.space).Perm (second.list address.space)) :
    first.find? address = second.find? address := by
  apply Option.ext
  intro resource
  rw [find?_eq_some_iff_of_placed placed, find?_eq_some_iff_of_placed placedToo, same.mem_iff]

theorem Arrangement.space?_of_mem {arrangement : Arrangement} {stores : Stores}
    (placed : stores.IsPlaced) {kind : Kind} {space : String} {resource : Resource}
    (listed : resource ∈ arrangement.arrange kind space stores) :
    ∃ address : Address, resource.IsAt address ∧ address.space = space := by
  rw [(arrangement.perm kind space stores).mem_iff, Store.mem_list_iff_of_placed (placed kind)]
    at listed
  obtain ⟨address, spaceEq, found⟩ := listed
  exact ⟨address, Store.isAt_of_find? (placed kind) found, spaceEq⟩

/-- The key is of a namespace. -/
def ResourceKey.IsIn (space : String) (key : ResourceKey) : Prop :=
  ∃ name, key.path = Address.text ⟨space, name⟩

namespace Dispatcher

section Stores

variable {φ : Type} {arrangement : Arrangement} {handle : Handling φ} {key : ResourceKey}
  {address : Address} {state : Dispatcher (Stores × φ)}

theorem stores_of_acts {after : Dispatcher (Stores × φ)}
    (acts : Acts (arrangement.caches.beside handle) key state after) :
    after.world.1 = state.world.1 := by
  induction acts with
  | refl => rfl
  | tail _ act ih =>
      rw [← ih]
      cases act <;> rfl

theorem lookup_stores (addressed : key.address = .ok address) :
    state.lookup (arrangement.caches.beside handle) key =
      (.ok ((state.world.1 key.kind).find? address), state) := by
  have parsed : Address.parse key.path = .ok address := addressed
  simp [Dispatcher.lookup, Caches.beside, Arrangement.caches, Store.lookup, parsed]

theorem answers_stores (addressed : key.address = .ok address) :
    ∀ other source, key.address = .ok other →
      (state.lookup (arrangement.caches.beside handle) key).1 ≠ .error source := by
  intro other source _
  rw [lookup_stores addressed]
  exact nofun

theorem told_stores (arrangement : Arrangement) (handle : Handling φ)
    (state : Dispatcher (Stores × φ)) (addressed : key.address = .ok address) :
    Told (arrangement.caches.beside handle) key address
      ((state.world.1 key.kind).find? address)
      (arrangement.arrange key.kind address.space state.world.1) state := by
  refine ⟨addressed, by rw [lookup_stores addressed], fun resource _ => ?_⟩
  rw [lookup_stores addressed]
  have kept : (state.settleRecreated (arrangement.caches.beside handle) key
      resource.zoneName).2.world.1 = state.world.1 :=
    stores_of_acts (acts_settleRecreated resource.zoneName)
  rw [← kept]
  rfl

/-- The keys to which a pass hands over the name of the zone that its tombstone keeps. -/
def successors (gone found : Option Resource) (zones : List Resource) : List ResourceKey :=
  match gone with
  | none => []
  | some gone =>
      if gone.kind = .zone ∧ ∀ resource ∈ found, gone.zoneName ≠ resource.zoneName then
        (zones.filter gone.rivals).filterMap fun zone => zone.key.toOption
      else []

theorem handedOver_stores (addressed : key.address = .ok address)
    (buried : ∀ gone, state.tombstones.get? key = some gone → gone.IsAt address) :
    state.handedOver (arrangement.caches.beside handle) key =
      successors (state.tombstones.get? key) ((state.world.1 key.kind).find? address)
        (arrangement.arrange .zone address.space state.world.1) := by
  simp only [handedOver, addressed, lookup_stores addressed, bequests]
  cases kept : state.tombstones.get? key with
  | none => rfl
  | some gone =>
      simp only [successors, Backend.heirs, (buried gone kept).space?]
      rfl

theorem unbroken_stores (addressed : key.address = .ok address)
    (unbroken : state.isBroken = false) :
    (state.process (arrangement.caches.beside handle) key).2.isBroken = false := by
  rw [process_isBroken, isBroken_of_acts (acts_reconcile (answers_stores addressed)), unbroken]

theorem space?_of_isClaimant {space : String} {zone other : Resource} {zones : List Resource}
    (here : zone.space? = some space) (listed : ∀ other ∈ zones, other.space? = some space)
    (claims : IsClaimant zone zones other) : other.space? = some space := by
  rcases claims with rfl | found
  · exact here
  · exact listed other (mem_claimants.1 found).1

/-- What a pass asks for is of the namespace of its key. -/
theorem space?_of_mem_passRequests {kind : Kind} {space : String} {gone found : Option Resource}
    {others : List Resource} (buried : ∀ resource ∈ gone, resource.space? = some space)
    (here : ∀ resource ∈ found, resource.space? = some space)
    (listed : ∀ other ∈ others, other.space? = some space) {request : Operation × Resource}
    (asked : request ∈ passRequests kind gone found others) : request.2.space? = some space := by
  rcases List.mem_append.1 asked with first | settling
  · obtain ⟨resource, kept, rfl⟩ := List.mem_map.1 first
    exact buried resource (Option.mem_toList.1 kept)
  · cases found with
    | none => simp [requestsFor] at settling
    | some resource =>
        cases kind with
        | record => simp [requestsFor] at settling
        | zone =>
            rcases List.mem_cons.1 settling with rfl | retired
            · exact space?_of_isClaimant (here resource rfl) listed
                (isClaimant_canonical resource others)
            · obtain ⟨loser, lost, rfl⟩ := List.mem_map.1 retired
              exact space?_of_isClaimant (here resource rfl) listed
                (isClaimant_of_mem_superseded lost).1

theorem isIn_of_mem_successors {space : String} {gone found : Option Resource}
    {zones : List Resource} {other : ResourceKey}
    (listed : ∀ zone ∈ zones, ∃ address : Address, zone.IsAt address ∧ address.space = space)
    (handed : other ∈ successors gone found zones) : other.IsIn space := by
  unfold successors at handed
  split at handed
  · simp at handed
  · split at handed
    · obtain ⟨zone, rival, keyed⟩ := List.mem_filterMap.1 handed
      obtain ⟨address, here, rfl⟩ := listed zone (List.mem_filter.1 rival).1
      rw [Resource.toOption_key_eq_some_iff, here.key] at keyed
      exact ⟨address.name, congrArg ResourceKey.path (Except.ok.inj keyed).symm⟩
    · simp at handed

end Stores

/-- The calls that a pass makes. -/
def callsOf {σ : Type} (backend : Backend σ) (key : ResourceKey) (state : Dispatcher σ) :
    List HandlerCall :=
  (state.process backend key).2.calls.drop state.calls.length

/-- A pass made some calls and queued some keys, all of a namespace, and left the tombstones and
the failures of other keys alone. -/
structure Confined {σ : Type} (space : String) (key : ResourceKey) (calls : List HandlerCall)
    (keys : List ResourceKey) (before after : Dispatcher σ) : Prop where
  called : after.calls = before.calls ++ calls
  queue : after.queue = ((keys.foldl WorkQueue.add before.queue).forget key).done key
  objects : ∀ call ∈ calls, call.resource.space? = some space
  isIn : ∀ other ∈ keys, other.IsIn space
  buried : ∀ other, other ≠ key → after.tombstones.get? other = before.tombstones.get? other
  requeues : ∀ other, other ≠ key → after.queue.requeues other = before.queue.requeues other

section Confinement

variable {φ : Type} {arrangement : Arrangement} {handle : Handling φ} {key : ResourceKey}
  {address : Address} {state : Dispatcher (Stores × φ)}

theorem concludes_stores (arrangement : Arrangement) (handle : Handling φ)
    (state : Dispatcher (Stores × φ)) (addressed : key.address = .ok address) :
    Concludes key
      (passRequests key.kind (state.tombstones.get? key) ((state.world.1 key.kind).find? address)
        (arrangement.arrange key.kind address.space state.world.1))
      (endingOf key (state.tombstones.get? key) ((state.world.1 key.kind).find? address)) state
      (state.process (arrangement.caches.beside handle) key)
      (callsOf (arrangement.caches.beside handle) key state) := by
  obtain ⟨calls, called, attempts, result⟩ :=
    concludes_reconcile (told_stores arrangement handle state addressed)
  have same : callsOf (arrangement.caches.beside handle) key state = calls := by
    rw [callsOf, process_calls, called, List.drop_left]
  rw [same]
  exact ⟨by rw [process_calls, called], attempts, by rw [process_result, result]⟩

theorem confined_process (arrangement : Arrangement) (handle : Handling φ)
    (addressed : key.address = .ok address) (placed : state.world.1.IsPlaced)
    (unbroken : state.isBroken = false)
    (buried : ∀ gone, state.tombstones.get? key = some gone → gone.key = .ok key) :
    Confined address.space key (callsOf (arrangement.caches.beside handle) key state)
      (successors (state.tombstones.get? key) ((state.world.1 key.kind).find? address)
        (arrangement.arrange .zone address.space state.world.1))
      state (state.process (arrangement.caches.beside handle) key).2 := by
  have concludes := concludes_stores arrangement handle state addressed
  have here : ∀ gone, state.tombstones.get? key = some gone → gone.IsAt address :=
    fun gone kept => (Resource.isAt_of_key_of_address (buried gone kept) addressed).1
  have kept := kept_reconcile (arrangement.caches.beside handle) key state
  refine ⟨concludes.calls_eq, ?_, ?_, ?_, ?_, ?_⟩
  · rw [process_queue_of_unbroken (unbroken_stores addressed unbroken),
      queue_reconcile (answers_stores addressed), handedOver_stores addressed here]
  · intro call present
    have asked := concludes.attempts.isPrefix.subset (List.mem_map_of_mem present)
    apply space?_of_mem_passRequests _ _ _ asked
    · exact fun gone kept => (here gone kept).space?
    · exact fun resource found => (Store.isAt_of_find? (placed key.kind) found).space?
    · intro other listed
      obtain ⟨home, isAt, spaceEq⟩ := Arrangement.space?_of_mem placed listed
      rw [← spaceEq]
      exact isAt.space?
  · exact fun other handed =>
      isIn_of_mem_successors (fun zone => Arrangement.space?_of_mem placed) handed
  · rw [process_tombstones]
    exact kept.others
  · exact fun other apart => requeues_process_of_ne (Ne.symm apart)

end Confinement

/-- Two dispatchers agree on a namespace: on the objects and the order in which they are listed, on
the tombstones, the failures and the need for work of its keys, and on whether they shut down. -/
structure AgreesOn {φ ψ : Type} (space : String) (arrangement other : Arrangement)
    (first : Dispatcher (Stores × φ)) (second : Dispatcher (Stores × ψ)) : Prop where
  listed : ∀ kind, arrangement.arrange kind space first.world.1 =
    other.arrange kind space second.world.1
  buried : ∀ key : ResourceKey, key.IsIn space →
    first.tombstones.get? key = second.tombstones.get? key
  requeues : ∀ key : ResourceKey, key.IsIn space →
    first.queue.requeues key = second.queue.requeues key
  dirty : ∀ key : ResourceKey, key.IsIn space →
    (key ∈ first.queue.dirty ↔ key ∈ second.queue.dirty)
  shuttingDown : first.queue.shuttingDown = second.queue.shuttingDown

section TwoPasses

variable {φ ψ : Type} {arrangement other : Arrangement} {handle : Handling φ}
  {handleToo : Handling ψ} {key : ResourceKey} {address : Address}
  {first : Dispatcher (Stores × φ)} {second : Dispatcher (Stores × ψ)}

theorem isIn_of_address (addressed : key.address = .ok address) : key.IsIn address.space :=
  ⟨address.name, (Address.parse_eq_ok_iff.1 addressed).1⟩

theorem AgreesOn.find?_eq (agree : AgreesOn address.space arrangement other first second)
    (placed : first.world.1.IsPlaced) (placedToo : second.world.1.IsPlaced) (kind : Kind) :
    (first.world.1 kind).find? address = (second.world.1 kind).find? address := by
  apply Store.find?_congr (placed kind) (placedToo kind)
  have arranged := (arrangement.perm kind address.space first.world.1).symm
  rw [agree.listed kind] at arranged
  exact arranged.trans (other.perm kind address.space second.world.1)

theorem Confined.mem_dirty_iff {σ : Type} {space : String} {calls : List HandlerCall}
    {keys : List ResourceKey} {before after : Dispatcher σ}
    (confined : Confined space key calls keys before after) (candidate : ResourceKey) :
    candidate ∈ after.queue.dirty ↔
      candidate ∈ before.queue.dirty ∨ before.queue.shuttingDown = false ∧ candidate ∈ keys := by
  rw [confined.queue]
  exact WorkQueue.mem_dirty_addAll

theorem Confined.shuttingDown {σ : Type} {space : String} {calls : List HandlerCall}
    {keys : List ResourceKey} {before after : Dispatcher σ}
    (confined : Confined space key calls keys before after) :
    after.queue.shuttingDown = before.queue.shuttingDown := by
  rw [confined.queue]
  exact WorkQueue.shuttingDown_addAll before.queue keys

theorem stores_process (addressed : key.address = .ok address) :
    (first.process (arrangement.caches.beside handle) key).2.world.1 = first.world.1 := by
  rw [process_world]
  exact stores_of_acts (acts_reconcile (answers_stores addressed))

theorem get?_process_stores (addressed : key.address = .ok address) :
    (first.process (arrangement.caches.beside handle) key).2.tombstones.get? key = none := by
  have answered : (first.lookup (arrangement.caches.beside handle) key).1 = .ok _ :=
    congrArg Prod.fst (lookup_stores addressed)
  obtain ⟨_, _, -, -, -, unburied⟩ := delivered_of_answered addressed answered
  exact unburied

/-- Dispatchers that agree on a namespace, and do the same for a key of it, agree on it
afterwards. -/
theorem AgreesOn.process {calls : List HandlerCall} {keys : List ResourceKey}
    (agree : AgreesOn address.space arrangement other first second)
    (addressed : key.address = .ok address)
    (confined : Confined address.space key calls keys first
      (first.process (arrangement.caches.beside handle) key).2)
    (confinedToo : Confined address.space key calls keys second
      (second.process (other.caches.beside handleToo) key).2) :
    AgreesOn address.space arrangement other
      (first.process (arrangement.caches.beside handle) key).2
      (second.process (other.caches.beside handleToo) key).2 where
  listed := by
    intro kind
    rw [stores_process addressed, stores_process addressed]
    exact agree.listed kind
  buried := by
    intro candidate isIn
    by_cases same : candidate = key
    · rw [same, get?_process_stores addressed, get?_process_stores addressed]
    · rw [confined.buried candidate same, confinedToo.buried candidate same]
      exact agree.buried candidate isIn
  requeues := by
    intro candidate isIn
    rw [requeues_process_of_answered (answers_stores addressed),
      requeues_process_of_answered (answers_stores addressed), agree.requeues candidate isIn]
  dirty := by
    intro candidate isIn
    rw [confined.mem_dirty_iff, confinedToo.mem_dirty_iff, agree.dirty candidate isIn,
      agree.shuttingDown]
  shuttingDown := by
    rw [confined.shuttingDown, confinedToo.shuttingDown]
    exact agree.shuttingDown

/-- Of two dispatchers that have come about in any way and agree on a namespace, each runs a pass
for the same well-formed key of the namespace, and the handlers give the same answers to the same
requests.  Then both passes end alike, make the same calls and queue the same keys, all of the
namespace; they leave the tombstones and the failures of all other keys alone, and the dispatchers
still agree. -/
theorem isolated {trace traceToo : List Moment}
    (history : History (arrangement.caches.beside handle) trace first)
    (historyToo : History (other.caches.beside handleToo) traceToo second)
    (placed : first.world.1.IsPlaced) (placedToo : second.world.1.IsPlaced)
    (unbroken : first.isBroken = false) (unbrokenToo : second.isBroken = false)
    (addressed : key.address = .ok address)
    (agree : AgreesOn address.space arrangement other first second)
    (answers : ∀ (turn : Nat) (call callToo : HandlerCall),
      (callsOf (arrangement.caches.beside handle) key first)[turn]? = some call →
      (callsOf (other.caches.beside handleToo) key second)[turn]? = some callToo →
      call.request = callToo.request → call.result = callToo.result) :
    (first.process (arrangement.caches.beside handle) key).1 =
        (second.process (other.caches.beside handleToo) key).1 ∧
      ∃ calls keys,
        Confined address.space key calls keys first
          (first.process (arrangement.caches.beside handle) key).2 ∧
        Confined address.space key calls keys second
          (second.process (other.caches.beside handleToo) key).2 ∧
        AgreesOn address.space arrangement other
          (first.process (arrangement.caches.beside handle) key).2
          (second.process (other.caches.beside handleToo) key).2 := by
  have confined := confined_process arrangement handle addressed placed unbroken
    fun gone => history.key_of_buried
  have confinedToo := confined_process other handleToo addressed placedToo unbrokenToo
    fun gone => historyToo.key_of_buried
  have concludes := concludes_stores arrangement handle first addressed
  have concludesToo := concludes_stores other handleToo second addressed
  -- Both passes come upon the same tombstone, the same object and the same listings.
  have sameFound := agree.find?_eq placed placedToo key.kind
  have sameGone := agree.buried key (isIn_of_address addressed)
  rw [← sameFound, ← sameGone, ← agree.listed key.kind] at concludesToo
  rw [← sameFound, ← sameGone, ← agree.listed .zone] at confinedToo
  have sameCalls := concludes.attempts.eq_of_answers concludesToo.attempts answers
  rw [← sameCalls] at confinedToo concludesToo
  refine ⟨concludes.result.trans concludesToo.result.symm, _, _, confined, confinedToo, ?_⟩
  exact agree.process addressed confined confinedToo

end TwoPasses

end Dispatcher

namespace Sample

def byName : Arrangement where
  arrange kind space stores := (stores kind).list space
  perm _ _ _ := .refl _

/-- A zone of another namespace. -/
def foreign (name : String) (created : Int) (zoneName : String) : Resource where
  kind := .zone
  metadata := { name := some name, space := some "other", created := some ⟨created⟩ }
  zoneName := zoneName

def storing (zones : Store) : Stores
  | .zone => zones
  | .record => {}

/-- The stores of two namespaces, of which one only has a zone that goes on without another one. -/
def orphan : Store :=
  { objects := Table.ofList [(⟨"b", some "team"⟩, zone "b" 2 "x")] }

def neighbours : Store :=
  { objects := Table.ofList
      [(⟨"b", some "team"⟩, zone "b" 2 "x"), (⟨"c", some "other"⟩, foreign "c" 0 "x")] }

/-- Handlers that do all that they are asked for, and may count it. -/
def granting : Handling Unit :=
  fun _ _ done => ({}, done)

def counting : Handling Nat :=
  fun _ _ count => ({}, count + 1)

/-- A zone has been deleted, and maybe also one of the other namespace. -/
def bereaved : Dispatcher (Stores × Unit) :=
  Dispatcher.observe (.deleted (zone "a" 1 "x"))
    { queue := .withBackoff .standard, world := (storing orphan, ()) }

def crowded : Dispatcher (Stores × Nat) :=
  Dispatcher.observe (.deleted (foreign "a" 1 "x")) <|
    Dispatcher.observe (.deleted (zone "a" 1 "x"))
      { queue := .withBackoff .standard, world := (storing neighbours, 7) }

theorem isPlaced_zone (name : String) (created : Int) (zoneName : String) :
    (zone name created zoneName).IsPlaced :=
  ⟨⟨"team", name⟩, rfl, rfl⟩

theorem isPlaced_foreign (name : String) (created : Int) (zoneName : String) :
    (foreign name created zoneName).IsPlaced :=
  ⟨⟨"other", name⟩, rfl, rfl⟩

theorem isPlaced_storing {zones : Store} (placed : zones.All Resource.IsPlaced) :
    (storing zones).IsPlaced := by
  intro kind
  cases kind with
  | zone => exact placed
  | record => exact Store.all_empty _

theorem all_isPlaced_orphan : orphan.All Resource.IsPlaced := by
  have accepted : ({} : Store).accept? (.applied (zone "b" 2 "x")) = some orphan := rfl
  apply (Store.all_empty _).accept accepted
  rintro resource ⟨⟩
  exact isPlaced_zone _ _ _

theorem all_isPlaced_neighbours : neighbours.All Resource.IsPlaced := by
  have accepted : orphan.accept? (.applied (foreign "c" 0 "x")) = some neighbours := by
    decide +kernel
  apply all_isPlaced_orphan.accept accepted
  rintro resource ⟨⟩
  exact isPlaced_foreign _ _ _

theorem not_isIn_foreign : ¬ ResourceKey.IsIn "team" ⟨"other/a", .zone⟩ := by
  rintro ⟨name, same⟩
  have formed : Address.IsWellFormed ⟨"other", "a"⟩ :=
    ⟨by decide, by decide, by decide, by decide⟩
  have text : "other/a" = Address.text ⟨"other", "a"⟩ := by decide
  have same : Address.mk "team" name = ⟨"other", "a"⟩ :=
    (Address.text_inj formed).1 (same.symm.trans text)
  simp at same

theorem agreesOn_crowded :
    Dispatcher.AgreesOn "team" byName byName bereaved crowded where
  listed := by
    intro kind
    cases kind with
    | zone => decide +kernel
    | record => rfl
  buried := by
    intro key isIn
    have besides : crowded.tombstones =
        bereaved.tombstones.insert ⟨"other/a", .zone⟩ (foreign "a" 1 "x") := by
      decide +kernel
    have apart : (⟨"other/a", .zone⟩ : ResourceKey) ≠ key := by
      rintro rfl
      exact not_isIn_foreign isIn
    rw [besides, Table.get?_insert, if_neg apart]
  requeues := by
    intro key _
    rfl
  dirty := by
    intro key isIn
    have own : bereaved.queue.dirty = [⟨"team/a", .zone⟩] := by decide +kernel
    have both : crowded.queue.dirty = [⟨"other/a", .zone⟩, ⟨"team/a", .zone⟩] := by decide +kernel
    have apart : key ≠ ⟨"other/a", .zone⟩ := by
      rintro rfl
      exact not_isIn_foreign isIn
    rw [own, both]
    simp [apart]
  shuttingDown := by decide +kernel

end Sample

namespace Dispatcher

/-- The name of the zone that is gone is handed over in its own namespace alone. -/
theorem isolated_crowded :
    AgreesOn "team" Sample.byName Sample.byName Sample.bereaved Sample.crowded ∧
      (Sample.bereaved.process (Sample.byName.caches.beside Sample.granting)
          ⟨"team/a", .zone⟩).1 =
        (Sample.crowded.process (Sample.byName.caches.beside Sample.counting)
          ⟨"team/a", .zone⟩).1 ∧
      AgreesOn "team" Sample.byName Sample.byName
        (Sample.bereaved.process (Sample.byName.caches.beside Sample.granting)
          ⟨"team/a", .zone⟩).2
        (Sample.crowded.process (Sample.byName.caches.beside Sample.counting)
          ⟨"team/a", .zone⟩).2 ∧
      ⟨"team/b", .zone⟩ ∈ (Sample.crowded.process
        (Sample.byName.caches.beside Sample.counting) ⟨"team/a", .zone⟩).2.queue.dirty ∧
      ⟨"other/c", .zone⟩ ∉ (Sample.crowded.process
        (Sample.byName.caches.beside Sample.counting) ⟨"team/a", .zone⟩).2.queue.dirty := by
  have history : History (Sample.byName.caches.beside Sample.granting) _ Sample.bereaved :=
    (History.start .standard _).observe (.deleted (Sample.zone "a" 1 "x"))
  have historyToo : History (Sample.byName.caches.beside Sample.counting) _ Sample.crowded :=
    ((History.start .standard _).observe (.deleted (Sample.zone "a" 1 "x"))).observe
      (.deleted (Sample.foreign "a" 1 "x"))
  have addressed : ResourceKey.address ⟨"team/a", .zone⟩ = .ok ⟨"team", "a"⟩ := by decide
  have granted : ∀ call ∈ callsOf (Sample.byName.caches.beside Sample.granting) ⟨"team/a", .zone⟩
      Sample.bereaved, call.result = .ok () :=
    HandlerCall.all_succeeded (by decide +kernel)
  have grantedToo : ∀ call ∈ callsOf (Sample.byName.caches.beside Sample.counting)
      ⟨"team/a", .zone⟩ Sample.crowded, call.result = .ok () :=
    HandlerCall.all_succeeded (by decide +kernel)
  obtain ⟨sameResult, -, -, -, -, agree⟩ := isolated history historyToo
    (Sample.isPlaced_storing Sample.all_isPlaced_orphan)
    (Sample.isPlaced_storing Sample.all_isPlaced_neighbours)
    (by decide +kernel) (by decide +kernel) addressed Sample.agreesOn_crowded
    fun turn call callToo made madeToo _ =>
      (granted call (List.mem_of_getElem? made)).trans
        (grantedToo callToo (List.mem_of_getElem? madeToo)).symm
  exact ⟨Sample.agreesOn_crowded, sameResult, agree, by decide +kernel, by decide +kernel⟩

end Dispatcher

end ZoneKeeper
