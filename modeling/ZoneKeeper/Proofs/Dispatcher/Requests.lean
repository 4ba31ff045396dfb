import ZoneKeeper.Proofs.Dispatcher.Acts

/-!
# What a pass asks of the handlers

Whatever fails, a pass whose object can be looked up first asks for the deletion of what its
tombstone keeps, and drops the tombstone.  Only then it asks for something on behalf of the object
that it has found, one request after the other, up to the first failure.  A pass whose object cannot
be looked up asks for nothing.
-/

namespace ZoneKeeper

/-- What a call asks of a handler, whatever becomes of it. -/
def HandlerCall.request (call : HandlerCall) : Operation × Resource :=
  (call.operation, call.resource)

/-- A call that grants what is asked. -/
def HandlerCall.granted (request : Operation × Resource) : HandlerCall :=
  ⟨request.1, request.2, .ok ()⟩

theorem HandlerCall.eq_map_granted {calls : List HandlerCall}
    (ok : ∀ call ∈ calls, call.result = .ok ()) :
    calls = (calls.map HandlerCall.request).map HandlerCall.granted := by
  induction calls with
  | nil => rfl
  | cons call calls ih =>
      obtain ⟨operation, resource, result⟩ := call
      obtain rfl : result = .ok () := ok _ List.mem_cons_self
      rw [List.map_cons, List.map_cons,
        ← ih fun later present => ok later (List.mem_cons_of_mem _ present)]
      rfl

namespace Dispatcher

/-- The calls make the requests one after the other, up to the first failure. -/
inductive Attempts : List (Operation × Resource) → List HandlerCall → Prop
  | done : Attempts [] []
  | fail (operation : Operation) (resource : Resource) (error : HandlerError)
      (requests : List (Operation × Resource)) :
      Attempts ((operation, resource) :: requests) [⟨operation, resource, .error error⟩]
  | next (operation : Operation) (resource : Resource) {requests : List (Operation × Resource)}
      {calls : List HandlerCall} (later : Attempts requests calls) :
      Attempts ((operation, resource) :: requests) (⟨operation, resource, .ok ()⟩ :: calls)

namespace Attempts

variable {requests : List (Operation × Resource)} {calls : List HandlerCall}

theorem isPrefix (attempts : Attempts requests calls) :
    calls.map HandlerCall.request <+: requests := by
  induction attempts with
  | done => exact List.nil_prefix
  | fail => exact List.cons_prefix_cons.2 ⟨rfl, List.nil_prefix⟩
  | next _ _ _ ih => exact List.cons_prefix_cons.2 ⟨rfl, ih⟩

theorem eq_map_granted (attempts : Attempts requests calls)
    (ok : ∀ call ∈ calls, call.result = .ok ()) : calls = requests.map HandlerCall.granted := by
  induction attempts with
  | done => rfl
  | fail =>
      have granted := ok _ List.mem_cons_self
      contradiction
  | next _ _ _ ih =>
      rw [List.map_cons, ← ih fun call present => ok call (List.mem_cons_of_mem _ present)]
      rfl

end Attempts

/-- What is asked of the handlers for the settling of a zone among others: that the owner of its
name be created, and the other claimants be deleted. -/
def settlingRequests (zone : Resource) (others : List Resource) : List (Operation × Resource) :=
  (.created, canonical zone others) ::
    (superseded zone (canonical zone others) others).map fun loser => (.deleted, loser)

/-- The calls are made for the object that was found: none at all, or those that settle it. -/
def MadeFor (found : Option Resource) (calls : List HandlerCall) : Prop :=
  calls = [] ∨ ∃ resource others, found = some resource ∧
    Attempts (settlingRequests resource others) calls

/-- What is done for an object that was found never begins with a deletion. -/
theorem MadeFor.operation_eq_created {found : Option Resource} {first : HandlerCall}
    {calls : List HandlerCall} (made : MadeFor found (first :: calls)) :
    first.operation = .created := by
  obtain none | ⟨resource, others, -, attempts⟩ := made
  · contradiction
  · have same := (List.cons_prefix_cons.1 attempts.isPrefix).1
    exact congrArg Prod.fst same

variable {σ : Type} {backend : Backend σ} {key : ResourceKey} {state : Dispatcher σ}

section Settling

variable (backend key state)

theorem calls_call (operation : Operation) (resource : Resource) :
    (state.call backend operation resource).2.calls =
      state.calls ++ [⟨operation, resource, (state.call backend operation resource).1⟩] :=
  rfl

theorem attempts_retire (zones : List Resource) :
    ∃ calls, (state.retire backend zones).2.calls = state.calls ++ calls ∧
      Attempts (zones.map fun zone => (.deleted, zone)) calls := by
  induction zones generalizing state with
  | nil => exact ⟨[], by simp [retire], .done⟩
  | cons zone zones ih =>
      have called := calls_call backend state .deleted zone
      rw [retire]
      split
      · rename_i answered
        rw [answered] at called
        exact ⟨_, called, .fail _ _ _ _⟩
      · rename_i middle answered
        rw [answered] at called
        obtain ⟨later, calls, attempts⟩ := ih middle
        exact ⟨_ :: later, by rw [calls, called, List.append_assoc]; rfl, .next _ _ attempts⟩

theorem attempts_settleZone (zone : Resource) (others : List Resource) :
    ∃ calls, (state.settleZone backend key zone others).2.calls = state.calls ++ calls ∧
      Attempts (settlingRequests zone others) calls := by
  unfold settleZone settlingRequests
  generalize canonical zone others = owner
  dsimp only
  -- The remark that comes first makes no call.
  have noted : (if owner.nameAny ≠ zone.nameAny then
      state.note (.claimedByOlderZone zone.zoneName owner.nameAny) else state).calls =
        state.calls := by
    split <;> rfl
  generalize (if owner.nameAny ≠ zone.nameAny then
      state.note (.claimedByOlderZone zone.zoneName owner.nameAny) else state) = begun at noted ⊢
  have called := calls_call backend begun .created owner
  split
  · rename_i answered
    rw [answered, noted] at called
    exact ⟨_, called, .fail _ _ _ _⟩
  · rename_i middle answered
    rw [answered, noted] at called
    obtain ⟨retired, calls, attempts⟩ :=
      attempts_retire backend middle (superseded zone owner others)
    refine ⟨⟨.created, owner, .ok ()⟩ :: retired, ?_, .next _ _ attempts⟩
    rw [called, List.append_assoc] at calls
    split
    · rename_i stopped
      rw [stopped] at calls
      exact calls
    · rename_i finished
      rw [finished] at calls
      exact calls

theorem madeFor_settle (address : Address) (resource : Resource) :
    ∃ calls, (state.settle backend key address resource).2.calls = state.calls ++ calls ∧
      MadeFor (some resource) calls := by
  have listed : (state.list backend key.kind address.space).2.calls = state.calls := rfl
  unfold settle
  split
  · rename_i answered
    rw [answered] at listed
    exact ⟨[], by rw [List.append_nil]; exact listed, Or.inl rfl⟩
  · rename_i others middle answered
    rw [answered] at listed
    split
    · obtain ⟨calls, whole, attempts⟩ := attempts_settleZone backend key middle resource others
      exact ⟨calls, by rw [whole, listed], Or.inr ⟨resource, others, rfl, attempts⟩⟩
    · exact ⟨[], by rw [List.append_nil]; exact listed, Or.inl rfl⟩

end Settling

/-- Handing over queues keys, remarks on it and asks the world, and nothing else. -/
theorem exists_handOverAll_eq (zones : List Resource) (state : Dispatcher σ) :
    ∃ queue notices, zones.foldl handOverTo state = { state with queue, notices } := by
  induction zones generalizing state with
  | nil => exact ⟨state.queue, state.notices, rfl⟩
  | cons zone zones ih =>
      obtain ⟨queue, notices, once⟩ : ∃ queue notices,
          state.handOverTo zone = { state with queue, notices } := by
        unfold handOverTo
        split <;> exact ⟨_, _, rfl⟩
      rw [List.foldl_cons, once]
      exact ih _

theorem exists_handOver_eq (backend : Backend σ) (state : Dispatcher σ) (gone : Resource) :
    ∃ queue notices world,
      state.handOver backend gone = { state with queue, notices, world } := by
  unfold handOver
  split
  · exact ⟨_, _, _, rfl⟩
  · unfold Dispatcher.list
    split
    · rename_i answered
      obtain rfl := congrArg Prod.snd answered
      exact ⟨_, _, _, rfl⟩
    · rename_i zones asked answered
      obtain rfl := congrArg Prod.snd answered
      obtain ⟨queue, notices, same⟩ := exists_handOverAll_eq (zones.filter gone.rivals)
        { state with world := (backend.list .zone _ state.world).2 }
      exact ⟨queue, notices, _, same⟩

theorem exists_handOver_if_eq (backend : Backend σ) (state : Dispatcher σ) (condition : Prop)
    [Decidable condition] (gone : Resource) : ∃ queue notices world,
      (if condition then state.handOver backend gone else state) =
        { state with queue, notices, world } := by
  split
  · exact exists_handOver_eq backend state gone
  · exact ⟨_, _, _, rfl⟩

theorem calls_handOver_if (condition : Prop) [Decidable condition] (gone : Resource) :
    (if condition then state.handOver backend gone else state).calls = state.calls := by
  obtain ⟨queue, notices, world, same⟩ := exists_handOver_if_eq backend state condition gone
  rw [same]

/-- Where nothing is kept, nothing is kept later. -/
theorem Kept.unburied {before after : Dispatcher σ} (kept : Kept key before after)
    {other : ResourceKey} (unburied : before.tombstones.get? other = none) :
    after.tombstones.get? other = none := by
  rw [Option.eq_none_iff_forall_ne_some]
  intro gone held
  rw [kept.buried other gone held] at unburied
  contradiction

/-- The deletion of what is kept under the key of a pass is all that is asked for, and nothing is
kept any more. -/
structure Delivered (key : ResourceKey) (before after : Dispatcher σ) (calls : List HandlerCall) :
    Prop where
  calls_eq : after.calls = before.calls ++ calls
  requests : calls.map HandlerCall.request =
    (before.tombstones.get? key).toList.map fun gone => (.deleted, gone)
  unburied : after.tombstones.get? key = none

/-- A call for the kept state of an object, and what comes after it. -/
theorem delivered_of_buried {gone : Resource} {before asked after : Dispatcher σ}
    {result : Except HandlerError Unit} (buried : before.tombstones.get? key = some gone)
    (called : asked.calls = before.calls ++ [⟨.deleted, gone, result⟩])
    (dropped : asked.tombstones.get? key = none) (rest : Acts backend key asked after)
    (quiet : after.calls = asked.calls) :
    Delivered key before after [⟨.deleted, gone, result⟩] where
  calls_eq := quiet.trans called
  requests := by simp [buried, HandlerCall.request]
  unburied := (kept_of_acts rest).unburied dropped

theorem delivered_handleDeletion (backend : Backend σ) (key : ResourceKey)
    (state : Dispatcher σ) :
    ∃ calls, Delivered key state (state.handleDeletion backend key).2 calls := by
  unfold handleDeletion
  cases buried : state.tombstones.get? key with
  | none => exact ⟨[], by simp [forget], by simp [buried], buried⟩
  | some gone =>
      dsimp only
      have called := calls_call backend (state.note .deletionDetected) .deleted gone
      change (((state.note .deletionDetected).call backend .deleted gone).2.dropTombstone
        key |>.forget key).calls = state.calls ++ _ at called
      generalize deleted : (((state.note .deletionDetected).call backend .deleted
        gone).2.dropTombstone key).forget key = asked at called ⊢
      have dropped : asked.tombstones.get? key = none := by
        rw [← deleted]
        exact Table.get?_erase_self _ _
      have handed : Acts backend key asked
          (if gone.kind = .zone then asked.handOver backend gone else asked) :=
        acts_handOver_if (gone.kind = .zone) gone
      have quiet : (if gone.kind = .zone then asked.handOver backend gone else asked).calls =
          asked.calls := calls_handOver_if (gone.kind = .zone) gone
      split
      · exact ⟨_, delivered_of_buried buried called dropped handed quiet⟩
      · rename_i fault _
        exact ⟨_, delivered_of_buried buried called dropped
          (handed.trans (acts_failHandler .deleted fault)) quiet⟩

/-- If the deletion of what is kept succeeds, so does this part of a pass. -/
theorem delivered_settleRecreated (backend : Backend σ) (key : ResourceKey)
    (state : Dispatcher σ) (zoneName : String) :
    ∃ calls, Delivered key state (state.settleRecreated backend key zoneName).2 calls ∧
      ((∀ call ∈ calls, call.result = .ok ()) →
        (state.settleRecreated backend key zoneName).1 = .ok ()) := by
  unfold settleRecreated
  cases buried : state.tombstones.get? key with
  | none => exact ⟨[], ⟨by simp, by simp [buried], buried⟩, fun _ => rfl⟩
  | some gone =>
      dsimp only
      have called := calls_call backend ((state.dropTombstone key).note .recreated) .deleted gone
      generalize deleted : (((state.dropTombstone key).note .recreated).call backend .deleted
        gone).2 = asked at called ⊢
      have dropped : asked.tombstones.get? key = none := by
        rw [← deleted]
        exact Table.get?_erase_self _ _
      have handed : Acts backend key asked
          (if (gone.kind = .zone && gone.zoneName ≠ zoneName) = true then
            asked.handOver backend gone else asked) :=
        acts_handOver_if ((gone.kind = .zone && gone.zoneName ≠ zoneName) = true) gone
      have quiet : (if (gone.kind = .zone && gone.zoneName ≠ zoneName) = true then
          asked.handOver backend gone else asked).calls = asked.calls :=
        calls_handOver_if ((gone.kind = .zone && gone.zoneName ≠ zoneName) = true) gone
      split
      · exact ⟨_, delivered_of_buried buried called dropped handed quiet, fun _ => rfl⟩
      · rename_i fault failed
        refine ⟨_, delivered_of_buried buried called dropped
          (handed.trans (acts_failHandler .deleted fault)) quiet, fun ok => ?_⟩
        have granted := ok _ (List.mem_singleton.2 rfl)
        rw [failed] at granted
        contradiction

/-- Nothing is asked of the handlers, and the tombstones stay as they are. -/
structure Untouched (before after : Dispatcher σ) : Prop where
  calls : after.calls = before.calls
  tombstones : after.tombstones = before.tombstones

theorem untouched_failLookup (key : ResourceKey) (state : Dispatcher σ) (source : CacheError) :
    Untouched state (state.failLookup key source).2 := by
  unfold failLookup
  dsimp only
  split
  · dsimp only
    split <;> exact ⟨rfl, rfl⟩
  · exact ⟨rfl, rfl⟩

theorem untouched_of_malformed {fault : KeyError} (malformed : key.address = .error fault) :
    Untouched state (state.process backend key).2 := by
  exact ⟨by rw [process_calls, reconcile_of_malformed malformed]; rfl,
    by rw [process_tombstones, reconcile_of_malformed malformed]; rfl⟩

/-- A pass whose object cannot be looked up asks for nothing and buries nothing. -/
theorem untouched_of_unanswered {address : Address} {source : CacheError}
    (addressed : key.address = .ok address)
    (unanswered : (state.lookup backend key).1 = .error source) :
    Untouched state (state.process backend key).2 := by
  have failed := untouched_failLookup key (state.lookup backend key).2 source
  have given := reconcile_of_unanswered addressed unanswered
  exact ⟨by rw [process_calls, given]; exact failed.calls,
    by rw [process_tombstones, given]; exact failed.tombstones⟩

/-- A pass whose object can be looked up first delivers what its tombstone keeps, and then does
something for the object that it has found. -/
theorem delivered_of_answered {address : Address} {found : Option Resource}
    (addressed : key.address = .ok address)
    (answered : (state.lookup backend key).1 = .ok found) :
    ∃ delivered later,
      (state.process backend key).2.calls = state.calls ++ delivered ++ later ∧
      delivered.map HandlerCall.request =
        (state.tombstones.get? key).toList.map (fun gone => (.deleted, gone)) ∧
      MadeFor found later ∧ (state.process backend key).2.tombstones.get? key = none := by
  have whole : state.lookup backend key = (.ok found, (state.lookup backend key).2) :=
    Prod.ext answered rfl
  have sameCalls : (state.lookup backend key).2.calls = state.calls := rfl
  have sameTombstones : (state.lookup backend key).2.tombstones = state.tombstones := rfl
  generalize (state.lookup backend key).2 = asked at whole sameCalls sameTombstones
  rw [process_calls, process_tombstones, reconcile, addressed]
  dsimp only
  rw [whole, ← sameCalls, ← sameTombstones]
  cases found with
  | none =>
      obtain ⟨delivered, calls, requests, unburied⟩ :=
        delivered_handleDeletion backend key asked
      exact ⟨delivered, [], by simpa using calls, requests, Or.inl rfl, unburied⟩
  | some resource =>
      obtain ⟨delivered, ⟨calls, requests, unburied⟩, -⟩ :=
        delivered_settleRecreated backend key asked resource.zoneName
      dsimp only
      cases recreated : asked.settleRecreated backend key resource.zoneName with
      | mk result middle =>
          rw [recreated] at calls unburied
          dsimp only at calls unburied
          cases result with
          | error failure =>
              exact ⟨delivered, [], by simpa using calls, requests, Or.inl rfl, unburied⟩
          | ok =>
              obtain ⟨later, callsLater, made⟩ :=
                madeFor_settle backend key middle address resource
              have settled : Acts backend key middle
                  (middle.settle backend key address resource).2 := acts_settle address resource
              exact ⟨delivered, later, by rw [callsLater, calls], requests, made,
                (kept_of_acts settled).unburied unburied⟩

end Dispatcher

end ZoneKeeper
