import ZoneKeeper.Proofs.Dispatcher.Losers
import ZoneKeeper.Proofs.Dispatcher.Queueing

/-!
# A branch for each kind

The cache of a kind only tells of objects of this kind, and the objects of each kind have a handler
of their own, so the world falls into two branches.  A pass calls the handler of the kind of its key
alone.  A pass for a record asks for deletions only, leaves the branch of the zones as it is, and
hands over nothing.
-/

namespace ZoneKeeper

/-- The objects of a kind. -/
abbrev Resource.OfKind (kind : Kind) :=
  { resource : Resource // resource.kind = kind }

/-- The cache of a kind and the handler of its objects.  Every question may change their state. -/
structure Branch (kind : Kind) (σ : Type) where
  lookup : String → σ → Except CacheError (Option (Resource.OfKind kind)) × σ
  list : String → σ → Except CacheError (List (Resource.OfKind kind)) × σ
  handle : Operation → Resource → σ → Reply × σ
  hasSynced : σ → Bool

namespace Branch

variable {σ τ : Type}

/-- Every question is for the branch of the kind that it is about. -/
def beside (zones : Branch .zone σ) (records : Branch .record τ) : Backend (σ × τ) where
  lookup kind path world :=
    match kind with
    | .zone =>
        let (answer, after) := zones.lookup path world.1
        (answer.map (Option.map Subtype.val), (after, world.2))
    | .record =>
        let (answer, after) := records.lookup path world.2
        (answer.map (Option.map Subtype.val), (world.1, after))
  list kind space world :=
    match kind with
    | .zone =>
        let (answer, after) := zones.list space world.1
        (answer.map (List.map Subtype.val), (after, world.2))
    | .record =>
        let (answer, after) := records.list space world.2
        (answer.map (List.map Subtype.val), (world.1, after))
  handle operation resource world :=
    match resource.kind with
    | .zone =>
        let (reply, after) := zones.handle operation resource world.1
        (reply, (after, world.2))
    | .record =>
        let (reply, after) := records.handle operation resource world.2
        (reply, (world.1, after))
  hasSynced kind world :=
    match kind with
    | .zone => zones.hasSynced world.1
    | .record => records.hasSynced world.2

theorem kind_of_map_found {kind : Kind} {answer : Except CacheError (Option (Resource.OfKind kind))}
    {resource : Resource} (found : answer.map (Option.map Subtype.val) = .ok (some resource)) :
    resource.kind = kind := by
  cases answer with
  | error fault => contradiction
  | ok answer =>
      obtain ⟨own, -, rfl⟩ := Option.map_eq_some_iff.1 (Except.ok.inj found)
      exact own.2

theorem kind_of_map_listed {kind : Kind} {answer : Except CacheError (List (Resource.OfKind kind))}
    {resources : List Resource} (listed : answer.map (List.map Subtype.val) = .ok resources) :
    ∀ resource ∈ resources, resource.kind = kind := by
  cases answer with
  | error fault => contradiction
  | ok answer =>
      obtain rfl := Except.ok.inj listed
      intro resource present
      obtain ⟨own, -, rfl⟩ := List.mem_map.1 present
      exact own.2

end Branch

def ResourceKey.isOfZone (key : ResourceKey) : Bool :=
  key.kind = .zone

theorem ResourceKey.isOfZone_of_zone {key : ResourceKey} (ofZone : key.kind = .zone) :
    key.isOfZone = true :=
  decide_eq_true ofZone

theorem ResourceKey.isOfZone_of_record {key : ResourceKey} (ofRecord : key.kind = .record) :
    key.isOfZone = false := by
  simp [isOfZone, ofRecord]

def HandlerCall.isOfZone (call : HandlerCall) : Bool :=
  call.resource.kind = .zone

/-- A call of the handler of a kind, which for records can only be a deletion. -/
structure HandlerCall.Suits (kind : Kind) (call : HandlerCall) : Prop where
  kind_eq : call.resource.kind = kind
  deletes : kind = .record → call.operation = .deleted

namespace Dispatcher

section Answers

variable {σ τ : Type} (zones : Branch .zone σ) (records : Branch .record τ)
  {state : Dispatcher (σ × τ)}

theorem kind_of_found {key : ResourceKey} {resource : Resource}
    (found : (state.lookup (zones.beside records) key).1 = .ok (some resource)) :
    resource.kind = key.kind := by
  simp only [Dispatcher.lookup, Branch.beside] at found
  cases kindEq : key.kind with
  | zone =>
      rw [kindEq] at found
      exact Branch.kind_of_map_found found
  | record =>
      rw [kindEq] at found
      exact Branch.kind_of_map_found found

theorem kind_of_listed {kind : Kind} {space : String} {resources : List Resource}
    (listed : (state.list (zones.beside records) kind space).1 = .ok resources) :
    ∀ resource ∈ resources, resource.kind = kind := by
  cases kind with
  | zone => exact Branch.kind_of_map_listed listed
  | record => exact Branch.kind_of_map_listed listed

end Answers

theorem kind_canonical {zone : Resource} {others : List Resource} {kind : Kind}
    (here : zone.kind = kind) (listed : ∀ other ∈ others, other.kind = kind) :
    (canonical zone others).kind = kind := by
  rcases canonical_mem zone others with same | ⟨found, -⟩
  · rw [same]
    exact here
  · exact listed _ found

theorem kind_of_mem_superseded {zone owner : Resource} {others : List Resource} {kind : Kind}
    (here : zone.kind = kind) (listed : ∀ other ∈ others, other.kind = kind) :
    ∀ loser ∈ superseded zone owner others, loser.kind = kind := by
  intro loser lost
  rcases (isClaimant_of_mem_superseded lost).1 with rfl | found
  · exact here
  · exact listed loser (mem_claimants.1 found).1

/-- The calls that have been made suit a kind. -/
def Suited {σ : Type} (kind : Kind) (before after : Dispatcher σ) : Prop :=
  ∃ calls, after.calls = before.calls ++ calls ∧ ∀ call ∈ calls, call.Suits kind

theorem suited_of_calls_eq {σ : Type} {before after : Dispatcher σ} (kind : Kind)
    (same : after.calls = before.calls) : Suited kind before after :=
  ⟨[], by rw [same, List.append_nil], by simp⟩

theorem Suited.trans {σ : Type} {kind : Kind} {first second third : Dispatcher σ}
    (left : Suited kind first second) (right : Suited kind second third) :
    Suited kind first third := by
  obtain ⟨early, calledEarly, suitEarly⟩ := left
  obtain ⟨late, calledLate, suitLate⟩ := right
  refine ⟨early ++ late, ?_, List.forall_mem_append.2 ⟨suitEarly, suitLate⟩⟩
  rw [calledLate, calledEarly, List.append_assoc]

section Calls

variable {σ τ : Type} (zones : Branch .zone σ) (records : Branch .record τ)
  {state : Dispatcher (σ × τ)} {key : ResourceKey}

theorem suited_of_delivered {before after : Dispatcher (σ × τ)} {calls : List HandlerCall}
    (delivered : Delivered key before after calls)
    (buried : ∀ gone, before.tombstones.get? key = some gone → gone.kind = key.kind) :
    Suited key.kind before after := by
  refine ⟨calls, delivered.calls_eq, fun call present => ?_⟩
  have requested : call.request ∈ calls.map HandlerCall.request := List.mem_map_of_mem present
  rw [delivered.requests] at requested
  obtain ⟨gone, kept, same⟩ := List.mem_map.1 requested
  obtain ⟨operation, resource⟩ := Prod.mk.inj same
  exact ⟨resource ▸ buried gone (Option.mem_toList.1 kept), fun _ => operation.symm⟩

theorem suited_settleZone {zone : Resource} {others : List Resource} (here : zone.kind = .zone)
    (listed : ∀ other ∈ others, other.kind = .zone) :
    Suited .zone state (state.settleZone (zones.beside records) key zone others).2 := by
  obtain ⟨calls, called, attempts⟩ :=
    attempts_settleZone (zones.beside records) key state zone others
  refine ⟨calls, called, fun call present => ⟨?_, nofun⟩⟩
  have requested := attempts.isPrefix.subset (List.mem_map_of_mem present)
  rcases List.mem_cons.1 requested with created | retired
  · rw [(Prod.mk.inj created).2]
    exact kind_canonical here listed
  · obtain ⟨loser, lost, same⟩ := List.mem_map.1 retired
    rw [← (Prod.mk.inj same).2]
    exact kind_of_mem_superseded here listed loser lost

theorem suited_settle (address : Address) {resource : Resource}
    (here : resource.kind = key.kind) :
    Suited key.kind state (state.settle (zones.beside records) key address resource).2 := by
  have kinds : ∀ others,
      (state.list (zones.beside records) key.kind address.space).1 = .ok others → _ :=
    fun others => kind_of_listed zones records
  have asked : Suited key.kind state
      (state.list (zones.beside records) key.kind address.space).2 := suited_of_calls_eq _ rfl
  unfold settle
  split
  · rename_i answered
    rw [answered] at asked
    exact asked.trans (suited_of_calls_eq _ rfl)
  · rename_i others middle answered
    rw [answered] at asked kinds
    have listed := kinds others rfl
    split
    · rename_i ofZone
      rw [ofZone] at asked here listed ⊢
      exact asked.trans (suited_settleZone zones records here listed)
    · exact asked.trans (suited_of_calls_eq _ rfl)

/-- A pass only calls the handler of the kind of its key, and for a record only for deletions. -/
theorem suited_process
    (buried : ∀ gone, state.tombstones.get? key = some gone → gone.kind = key.kind) :
    Suited key.kind state (state.process (zones.beside records) key).2 := by
  cases addressed : key.address with
  | error fault => exact suited_of_calls_eq _ (untouched_of_malformed addressed).calls
  | ok address =>
      have asking : Suited key.kind state (state.lookup (zones.beside records) key).2 :=
        suited_of_calls_eq _ rfl
      have sameTombstones : (state.lookup (zones.beside records) key).2.tombstones =
        state.tombstones := rfl
      have kinds : ∀ resource, (state.lookup (zones.beside records) key).1 = .ok (some resource) →
        _ := fun resource => kind_of_found zones records
      cases answered : state.lookup (zones.beside records) key with
      | mk answer asked =>
          rw [answered] at asking sameTombstones kinds
          rw [← sameTombstones] at buried
          cases answer with
          | error source =>
              exact suited_of_calls_eq _
                (untouched_of_unanswered addressed (congrArg Prod.fst answered)).calls
          | ok found =>
              -- What comes after the reconciliation makes no call.
              refine Suited.trans (asking.trans ?_)
                (suited_of_calls_eq _ (process_calls _ key state))
              cases found with
              | none =>
                  obtain ⟨calls, delivered⟩ :=
                    delivered_handleDeletion (zones.beside records) key asked
                  rw [reconcile_of_absent addressed answered]
                  exact suited_of_delivered delivered buried
              | some resource =>
                  obtain ⟨calls, delivered, -⟩ :=
                    delivered_settleRecreated (zones.beside records) key asked resource.zoneName
                  have recreated := suited_of_delivered delivered buried
                  cases ended : asked.settleRecreated (zones.beside records) key
                    resource.zoneName with
                  | mk result middle =>
                      rw [ended] at recreated
                      cases result with
                      | error failure =>
                          rw [reconcile_of_failed addressed answered ended]
                          exact recreated
                      | ok =>
                          rw [reconcile_of_settled addressed answered ended]
                          exact recreated.trans
                            (suited_settle zones records address (kinds resource rfl))

end Calls

section Records

variable {σ τ : Type} (zones : Branch .zone σ) (records : Branch .record τ)
  {state : Dispatcher (σ × τ)} {key : ResourceKey}

theorem zoneWorld_call (operation : Operation) {resource : Resource}
    (ofRecord : resource.kind = .record) :
    (state.call (zones.beside records) operation resource).2.world.1 = state.world.1 := by
  simp only [Dispatcher.call, Branch.beside, ofRecord]

theorem zoneWorld_lookup (ofRecord : key.kind = .record) :
    (state.lookup (zones.beside records) key).2.world.1 = state.world.1 := by
  simp only [Dispatcher.lookup, Branch.beside, ofRecord]

theorem zoneWorld_handleDeletion
    (buried : ∀ gone, state.tombstones.get? key = some gone → gone.kind = .record) :
    (state.handleDeletion (zones.beside records) key).2.world.1 = state.world.1 := by
  unfold handleDeletion
  cases kept : state.tombstones.get? key with
  | none => rfl
  | some gone =>
      have called : ((state.note .deletionDetected).call (zones.beside records) .deleted
          gone).2.world.1 = state.world.1 :=
        zoneWorld_call zones records .deleted (buried gone kept)
      have apart : ¬ gone.kind = .zone := by simp [buried gone kept]
      dsimp only
      rw [if_neg apart]
      split
      · exact called
      · exact called

theorem zoneWorld_settleRecreated (zoneName : String)
    (buried : ∀ gone, state.tombstones.get? key = some gone → gone.kind = .record) :
    (state.settleRecreated (zones.beside records) key zoneName).2.world.1 = state.world.1 := by
  unfold settleRecreated
  cases kept : state.tombstones.get? key with
  | none => rfl
  | some gone =>
      have called : (((state.dropTombstone key).note .recreated).call (zones.beside records)
          .deleted gone).2.world.1 = state.world.1 :=
        zoneWorld_call zones records .deleted (buried gone kept)
      have apart : ¬ (gone.kind = .zone && gone.zoneName ≠ zoneName) = true := by
        simp [buried gone kept]
      dsimp only
      rw [if_neg apart]
      split
      · exact called
      · exact called

theorem zoneWorld_settle (ofRecord : key.kind = .record) (address : Address)
    (resource : Resource) :
    (state.settle (zones.beside records) key address resource).2.world.1 = state.world.1 := by
  have listed : (state.list (zones.beside records) .record address.space).2.world.1 =
    state.world.1 := rfl
  unfold settle
  rw [ofRecord]
  split
  · rename_i answered
    rw [answered] at listed
    exact listed
  · rename_i answered
    rw [answered] at listed
    exact listed

theorem world_failLookup {σ : Type} (key : ResourceKey) (source : CacheError)
    (state : Dispatcher σ) : (state.failLookup key source).2.world = state.world := by
  unfold failLookup
  dsimp only
  split
  · dsimp only
    split <;> rfl
  · rfl

/-- A pass for a record leaves the cache and the handler of the zones as they are. -/
theorem zoneWorld_process (ofRecord : key.kind = .record)
    (buried : ∀ gone, state.tombstones.get? key = some gone → gone.kind = .record) :
    (state.process (zones.beside records) key).2.world.1 = state.world.1 := by
  have asked : (state.lookup (zones.beside records) key).2.world.1 = state.world.1 :=
    zoneWorld_lookup zones records ofRecord
  have sameTombstones : (state.lookup (zones.beside records) key).2.tombstones =
    state.tombstones := rfl
  rw [← sameTombstones] at buried
  rw [process_world]
  unfold reconcile
  split
  · rfl
  · split
    · rename_i source after answered
      rw [answered] at asked
      exact (congrArg Prod.fst (world_failLookup key source after)).trans asked
    · rename_i answered
      rw [answered] at asked buried
      exact (zoneWorld_handleDeletion zones records buried).trans asked
    · rename_i resource after answered
      rw [answered] at asked buried
      have recreated :=
        (zoneWorld_settleRecreated zones records resource.zoneName buried).trans asked
      split
      · rename_i failed
        rw [failed] at recreated
        exact recreated
      · rename_i settled
        rw [settled] at recreated
        exact (zoneWorld_settle zones records ofRecord _ resource).trans recreated

/-- A pass for a record hands no name over. -/
theorem handedOver_of_record
    (buried : ∀ gone, state.tombstones.get? key = some gone → gone.kind = .record) :
    state.handedOver (zones.beside records) key = [] := by
  unfold handedOver
  split
  · rename_i found asked _ answered
    have sameTombstones : asked.tombstones = state.tombstones :=
      congrArg (fun reply => reply.2.tombstones) answered.symm
    rw [bequests, sameTombstones]
    cases kept : state.tombstones.get? key with
    | none => rfl
    | some gone => simp [buried gone kept]
  · rfl

end Records

end Dispatcher

end ZoneKeeper
