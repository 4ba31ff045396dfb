import ZoneKeeper.Proofs.Dispatcher.Requests
import ZoneKeeper.Proofs.Key.Address

/-!
# The calls of a pass

A pass in which no call fails makes calls that are determined by what it comes upon: for an object
that is gone the deletion of its last state, for a zone that is there the creation of the owner of
its name and the deletion of every other claimant.
-/

namespace ZoneKeeper

/-- The calls that came after others have all succeeded. -/
def SucceedFrom (base calls : List HandlerCall) : Prop :=
  ∃ fresh, calls = base ++ fresh ∧ ∀ call ∈ fresh, call.result = .ok ()

theorem HandlerCall.all_succeeded {calls : List HandlerCall}
    (allOk : calls.all (fun call => call.result.isOk) = true) :
    ∀ call ∈ calls, call.result = .ok () := by
  intro call present
  have ok := List.all_eq_true.1 allOk call present
  cases answered : call.result with
  | error fault =>
      rw [answered] at ok
      contradiction
  | ok => rfl

namespace SucceedFrom

variable {base early calls : List HandlerCall}

theorem refl (calls : List HandlerCall) : SucceedFrom calls calls :=
  ⟨[], by simp, by simp⟩

theorem of_forall (ok : ∀ call ∈ calls, call.result = .ok ()) : SucceedFrom [] calls :=
  ⟨calls, rfl, ok⟩

theorem of_prefix (succeeded : SucceedFrom base calls) (begun : base <+: early)
    (continued : early <+: calls) : SucceedFrom base early ∧ SucceedFrom early calls := by
  obtain ⟨fresh, rfl, ok⟩ := succeeded
  obtain ⟨first, rfl⟩ := begun
  obtain ⟨second, same⟩ := continued
  rw [List.append_assoc] at same
  obtain rfl : first ++ second = fresh := List.append_cancel_left same
  simp only [List.mem_append] at ok
  exact ⟨⟨first, rfl, fun call present => ok call (Or.inl present)⟩,
    ⟨second, by rw [List.append_assoc], fun call present => ok call (Or.inr present)⟩⟩

theorem ok (succeeded : SucceedFrom base calls) {fresh : List HandlerCall}
    (called : calls = base ++ fresh) : ∀ call ∈ fresh, call.result = .ok () := by
  obtain ⟨same, calls_eq, ok⟩ := succeeded
  obtain rfl : same = fresh := List.append_cancel_left (calls_eq.symm.trans called)
  exact ok

end SucceedFrom

namespace Dispatcher

variable {σ : Type} {backend : Backend σ} {key : ResourceKey} {state : Dispatcher σ}

/-- The deletion of a resource, when it succeeds. -/
def deleting (resource : Resource) : HandlerCall :=
  ⟨.deleted, resource, .ok ()⟩

theorem map_granted_deletions (zones : List Resource) :
    (zones.map fun zone => (Operation.deleted, zone)).map HandlerCall.granted =
      zones.map deleting := by
  rw [List.map_map]
  rfl

/-- The calls that settle the name that a zone declares among some zones. -/
def settlement (zone : Resource) (zones : List Resource) : List HandlerCall :=
  ⟨.created, canonical zone zones, .ok ()⟩ ::
    (superseded zone (canonical zone zones) zones).map deleting

theorem calls_settleZone {zone : Resource} {zones : List Resource}
    (succeeded : SucceedFrom state.calls (state.settleZone backend key zone zones).2.calls) :
    (state.settleZone backend key zone zones).2.calls = state.calls ++ settlement zone zones := by
  obtain ⟨calls, called, attempts⟩ := attempts_settleZone backend key state zone zones
  rw [called, attempts.eq_map_granted (succeeded.ok called), settlingRequests, List.map_cons,
    map_granted_deletions]
  rfl

theorem Delivered.calls_of_ok {before after : Dispatcher σ} {calls : List HandlerCall}
    (delivered : Delivered key before after calls) (ok : ∀ call ∈ calls, call.result = .ok ()) :
    after.calls = before.calls ++ (before.tombstones.get? key).toList.map deleting := by
  rw [delivered.calls_eq, HandlerCall.eq_map_granted ok, delivered.requests,
    map_granted_deletions]

/-- A zone that was made again is first deleted as it was before. -/
theorem calls_settleRecreated {zoneName : String}
    (succeeded : SucceedFrom state.calls (state.settleRecreated backend key zoneName).2.calls) :
    (state.settleRecreated backend key zoneName).1 = .ok () ∧
      (state.settleRecreated backend key zoneName).2.calls =
        state.calls ++ (state.tombstones.get? key).toList.map deleting := by
  obtain ⟨calls, delivered, resultOk⟩ := delivered_settleRecreated backend key state zoneName
  have ok := succeeded.ok delivered.calls_eq
  exact ⟨resultOk ok, delivered.calls_of_ok ok⟩

/-- An object that is gone is deleted as it was when it was last seen. -/
theorem calls_handleDeletion
    (succeeded : SucceedFrom state.calls (state.handleDeletion backend key).2.calls) :
    (state.handleDeletion backend key).2.calls =
      state.calls ++ (state.tombstones.get? key).toList.map deleting := by
  obtain ⟨calls, delivered⟩ := delivered_handleDeletion backend key state
  exact delivered.calls_of_ok (succeeded.ok delivered.calls_eq)

theorem queue_handOverAll (zones : List Resource) :
    (zones.foldl handOverTo state).queue =
      (zones.filterMap fun zone => zone.key.toOption).foldl WorkQueue.add state.queue := by
  induction zones generalizing state with
  | nil => rfl
  | cons zone zones ih =>
      rw [List.foldl_cons, ih, List.filterMap_cons, handOverTo]
      cases zone.key with
      | error fault => rfl
      | ok key => rfl

theorem mem_dirty_handOverAll_iff {zones : List Resource} {other : ResourceKey}
    (running : state.queue.shuttingDown = false) :
    other ∈ (zones.foldl handOverTo state).queue.dirty ↔
      other ∈ state.queue.dirty ∨ ∃ zone ∈ zones, zone.key = .ok other := by
  rw [queue_handOverAll, WorkQueue.mem_dirty_addAll, List.mem_filterMap]
  simp only [running, true_and, Resource.toOption_key_eq_some_iff]

end Dispatcher

end ZoneKeeper
