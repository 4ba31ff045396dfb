import ZoneKeeper.Proofs.Dispatcher.Calls
import ZoneKeeper.Proofs.Queue.Allowance

/-!
# What a pass does to the queue

A pass whose object can be looked up queues the keys of the zones to which it hands over a name, and
forgets the failures of its own key; it hands over a name only if its tombstone kept a zone that is
gone or has come back under another name.  A pass whose object cannot be looked up puts its own key
back, or gives it up.  Nothing else is done to the queue before the key is given back.
-/

namespace ZoneKeeper

/-- The keys of the zones that could take over the name of a zone that is gone. -/
def Backend.heirs {σ : Type} (backend : Backend σ) (gone : Resource) (world : σ) :
    List ResourceKey :=
  match gone.space? with
  | none => []
  | some space =>
      match (backend.list .zone space world).1 with
      | .error _ => []
      | .ok zones => (zones.filter gone.rivals).filterMap fun zone => zone.key.toOption

namespace WorkQueue

variable {κ : Type} [DecidableEq κ]

theorem forget_add (queue : WorkQueue κ) (key other : κ) :
    (queue.add other).forget key = (queue.forget key).add other := by
  unfold add
  rw [apply_ite (fun queue => WorkQueue.forget queue key)]
  rfl

theorem forget_addAll (queue : WorkQueue κ) (keys : List κ) (key : κ) :
    (keys.foldl WorkQueue.add queue).forget key = keys.foldl WorkQueue.add (queue.forget key) := by
  induction keys generalizing queue with
  | nil => rfl
  | cons first keys ih => rw [List.foldl_cons, ih, forget_add, List.foldl_cons]

@[simp]
theorem forget_forget (queue : WorkQueue κ) (key : κ) :
    (queue.forget key).forget key = queue.forget key := by
  simp [forget, Limiter.forget, Table.erase]

end WorkQueue

namespace Dispatcher

variable {σ : Type} (backend : Backend σ) (key : ResourceKey) (state : Dispatcher σ)

/-- The keys that are queued to hand over the name of the zone that a tombstone keeps, if its key
stands for `found` by now. -/
def bequests (found : Option Resource) : List ResourceKey :=
  match state.tombstones.get? key with
  | none => []
  | some gone =>
      if gone.kind = .zone ∧ ∀ resource ∈ found, gone.zoneName ≠ resource.zoneName then
        backend.heirs gone (backend.handle .deleted gone state.world).2
      else []

def handedOver : List ResourceKey :=
  match key.address, state.lookup backend key with
  | .ok _, (.ok found, asked) => asked.bequests backend key found
  | _, _ => []

theorem queue_handOver (gone : Resource) :
    (state.handOver backend gone).queue =
      (backend.heirs gone state.world).foldl WorkQueue.add state.queue := by
  unfold handOver Backend.heirs
  cases gone.space? with
  | none => rfl
  | some space =>
      dsimp only [list]
      cases (backend.list .zone space state.world).1 with
      | error fault => rfl
      | ok zones => exact queue_handOverAll _

theorem queue_handOver_if (condition : Prop) [Decidable condition] (gone : Resource) :
    (if condition then state.handOver backend gone else state).queue =
      (if condition then backend.heirs gone state.world else []).foldl WorkQueue.add
        state.queue := by
  split
  · exact queue_handOver backend state gone
  · rfl

theorem queue_retire (zones : List Resource) :
    (state.retire backend zones).2.queue = state.queue := by
  induction zones generalizing state with
  | nil => rfl
  | cons zone zones ih =>
      have called : (state.call backend .deleted zone).2.queue = state.queue := rfl
      rw [retire]
      split
      · rename_i answered
        rw [answered] at called
        exact called
      · rename_i answered
        rw [answered] at called
        rw [ih, called]

theorem queue_settleZone (zone : Resource) (zones : List Resource) :
    (state.settleZone backend key zone zones).2.queue = state.queue.forget key := by
  unfold settleZone
  generalize canonical zone zones = owner
  dsimp only
  have noted : (if owner.nameAny ≠ zone.nameAny then
      state.note (.claimedByOlderZone zone.zoneName owner.nameAny) else state).queue =
        state.queue := by
    split <;> rfl
  generalize (if owner.nameAny ≠ zone.nameAny then
      state.note (.claimedByOlderZone zone.zoneName owner.nameAny) else state) = begun at noted ⊢
  have called : (begun.call backend .created owner).2.queue = state.queue := noted
  split
  · rename_i answered
    rw [answered] at called
    exact congrArg (WorkQueue.forget · key) called
  · rename_i middle answered
    rw [answered] at called
    have retired := queue_retire backend middle (superseded zone owner zones)
    rw [called] at retired
    split
    · rename_i stopped
      rw [stopped] at retired
      exact congrArg (WorkQueue.forget · key) retired
    · rename_i finished
      rw [finished] at retired
      exact congrArg (WorkQueue.forget · key) retired

theorem queue_settle (address : Address) (resource : Resource) :
    (state.settle backend key address resource).2.queue = state.queue.forget key := by
  unfold settle
  have listed : (state.list backend key.kind address.space).2.queue = state.queue := rfl
  split
  · rename_i answered
    rw [answered] at listed
    exact congrArg (WorkQueue.forget · key) listed
  · rename_i others middle answered
    rw [answered] at listed
    split
    · rw [queue_settleZone, listed]
    · exact congrArg (WorkQueue.forget · key) listed

variable {backend key state} {other : ResourceKey}

theorem bequests_of_unburied (unburied : state.tombstones.get? key = none)
    (found : Option Resource) : state.bequests backend key found = [] := by
  simp only [bequests, unburied]

theorem queue_handleDeletion :
    (state.handleDeletion backend key).2.queue =
      ((state.bequests backend key none).foldl WorkQueue.add state.queue).forget key := by
  unfold handleDeletion
  cases buried : state.tombstones.get? key with
  | none =>
      rw [bequests_of_unburied buried]
      rfl
  | some gone =>
      have bequests : state.bequests backend key none =
          if gone.kind = .zone then backend.heirs gone (backend.handle .deleted gone state.world).2
          else [] := by
        simp [Dispatcher.bequests, buried]
      dsimp only
      generalize deleted : ((((state.note .deletionDetected).call backend .deleted
        gone).2.dropTombstone key).forget key) = asked
      have queue : asked.queue = state.queue.forget key := deleted ▸ rfl
      have world : asked.world = (backend.handle .deleted gone state.world).2 := deleted ▸ rfl
      have handed := queue_handOver_if backend asked (gone.kind = .zone) gone
      rw [queue, world, ← bequests, ← WorkQueue.forget_addAll] at handed
      split
      · exact handed
      · exact (congrArg (WorkQueue.forget · key) handed).trans (WorkQueue.forget_forget _ key)

/-- The failures of the key may have been forgotten already, and will be forgotten anyway. -/
theorem queue_settleRecreated (resource : Resource) :
    (state.settleRecreated backend key resource.zoneName).2.queue.forget key =
      ((state.bequests backend key (some resource)).foldl WorkQueue.add state.queue).forget
        key := by
  unfold settleRecreated
  cases buried : state.tombstones.get? key with
  | none =>
      rw [bequests_of_unburied buried]
      rfl
  | some gone =>
      have bequests : state.bequests backend key (some resource) =
          if (gone.kind = .zone && gone.zoneName ≠ resource.zoneName) = true then
            backend.heirs gone (backend.handle .deleted gone state.world).2
          else [] := by
        simp [Dispatcher.bequests, buried]
      dsimp only
      generalize deleted : (((state.dropTombstone key).note .recreated).call backend .deleted
        gone).2 = asked
      have queue : asked.queue = state.queue := deleted ▸ rfl
      have world : asked.world = (backend.handle .deleted gone state.world).2 := deleted ▸ rfl
      have handed := queue_handOver_if backend asked
        ((gone.kind = .zone && gone.zoneName ≠ resource.zoneName) = true) gone
      rw [queue, world, ← bequests] at handed
      split
      · exact congrArg (WorkQueue.forget · key) handed
      · exact (WorkQueue.forget_forget _ key).trans (congrArg (WorkQueue.forget · key) handed)

/-- A pass that ends here has forgotten the failures of its key. -/
theorem queue_settleRecreated_of_failed {zoneName : String} {failure : ReconcileError}
    (failed : (state.settleRecreated backend key zoneName).1 = .error failure) :
    (state.settleRecreated backend key zoneName).2.queue.forget key =
      (state.settleRecreated backend key zoneName).2.queue := by
  revert failed
  unfold settleRecreated
  cases state.tombstones.get? key with
  | none => exact nofun
  | some gone =>
      dsimp only
      split
      · exact nofun
      · exact fun _ => WorkQueue.forget_forget _ key

theorem queue_reconcile_of_answered {address : Address} {found : Option Resource}
    {asked : Dispatcher σ} (addressed : key.address = .ok address)
    (answered : state.lookup backend key = (.ok found, asked)) :
    (state.reconcile backend key).2.queue =
      ((state.handedOver backend key).foldl WorkQueue.add state.queue).forget key := by
  have sameQueue : asked.queue = state.queue :=
    congrArg (fun reply => reply.2.queue) answered.symm
  simp only [reconcile, handedOver, addressed, answered]
  rw [← sameQueue]
  cases found with
  | none => exact queue_handleDeletion
  | some resource =>
      have recreated : (asked.settleRecreated backend key resource.zoneName).2.queue.forget key =
          _ := queue_settleRecreated resource
      rw [← recreated]
      dsimp only
      split
      · rename_i failure after failed
        have forgotten := queue_settleRecreated_of_failed (congrArg Prod.fst failed)
        rw [forgotten, failed]
      · rename_i after settled
        rw [settled]
        exact queue_settle backend key after address resource

/-- Unless its object cannot be looked up, a pass queues the keys to which it hands over a name, and
forgets the failures of its key. -/
theorem queue_reconcile (answers : ∀ address source, key.address = .ok address →
      (state.lookup backend key).1 ≠ .error source) :
    (state.reconcile backend key).2.queue =
      ((state.handedOver backend key).foldl WorkQueue.add state.queue).forget key := by
  cases addressed : key.address with
  | error fault =>
      rw [reconcile_of_malformed addressed]
      simp only [handedOver, addressed]
      rfl
  | ok address =>
      cases answered : state.lookup backend key with
      | mk answer asked =>
          cases answer with
          | error source =>
              exact absurd (congrArg Prod.fst answered) (answers address source addressed)
          | ok found => exact queue_reconcile_of_answered addressed answered

/-- A pass that cannot look its object up puts its key back, as long as it has not failed too often
and there is a delay for it. -/
theorem queue_reconcile_of_unanswered {address : Address} {source : CacheError}
    (addressed : key.address = .ok address)
    (unanswered : (state.lookup backend key).1 = .error source) :
    (state.reconcile backend key).2.queue =
      if state.queue.requeues key < maxRequeues then
        if state.queue.canDelay key then state.queue.addRateLimited key else state.queue
      else state.queue.forget key := by
  rw [reconcile_of_unanswered addressed unanswered]
  unfold failLookup
  dsimp only
  rw [queue_lookup]
  split
  · dsimp only
    split
    · rfl
    · exact queue_lookup backend key state
  · rfl

theorem handedOver_of_unanswered {address : Address} {source : CacheError}
    (addressed : key.address = .ok address)
    (unanswered : (state.lookup backend key).1 = .error source) :
    state.handedOver backend key = [] := by
  have answered : state.lookup backend key = (.error source, (state.lookup backend key).2) :=
    Prod.ext unanswered rfl
  simp only [handedOver, addressed]
  rw [answered]

theorem handedOver_of_unburied (unburied : state.tombstones.get? key = none) :
    state.handedOver backend key = [] := by
  unfold handedOver
  split
  · rename_i found asked _ answered
    have same : asked.tombstones = state.tombstones :=
      congrArg (fun reply => reply.2.tombstones) answered.symm
    exact bequests_of_unburied (same ▸ unburied) found
  · rfl

theorem isBroken_failLookup (key : ResourceKey) (source : CacheError) (state : Dispatcher σ) :
    (state.failLookup key source).2.isBroken =
      (state.isBroken ||
        decide (state.queue.requeues key < maxRequeues) && !state.queue.canDelay key) := by
  unfold failLookup
  by_cases again : state.queue.requeues key < maxRequeues
  · cases delays : state.queue.canDelay key with
    | true => simp [again]
    | false => simp [again]
  · simp [again, Dispatcher.forget]

/-- A pass breaks off only if its key is to be put back and there is no delay for it. -/
theorem canDelay_of_unbroken {address : Address} {source : CacheError}
    (addressed : key.address = .ok address)
    (unanswered : (state.lookup backend key).1 = .error source)
    (unbroken : (state.process backend key).2.isBroken = false)
    (again : state.queue.requeues key < maxRequeues) : state.queue.canDelay key = true := by
  rw [process_isBroken, reconcile_of_unanswered addressed unanswered] at unbroken
  by_contra undelayed
  simp [failLookup, queue_lookup, again, undelayed] at unbroken

theorem process_queue_of_unbroken (unbroken : (state.process backend key).2.isBroken = false) :
    (state.process backend key).2.queue = (state.reconcile backend key).2.queue.done key := by
  rw [process_isBroken] at unbroken
  rw [process_queue, if_neg (by simp [unbroken])]

theorem requeues_process (backend : Backend σ) (key other : ResourceKey) (state : Dispatcher σ) :
    (state.process backend key).2.queue.requeues other =
      (state.reconcile backend key).2.queue.requeues other := by
  rw [process_queue]
  split <;> rfl

theorem requeues_process_of_answered (answers : ∀ address source, key.address = .ok address →
      (state.lookup backend key).1 ≠ .error source) (other : ResourceKey) :
    (state.process backend key).2.queue.requeues other =
      if key = other then 0 else state.queue.requeues other := by
  rw [requeues_process, queue_reconcile answers, WorkQueue.requeues_forget,
    WorkQueue.requeues_addAll]

/-- Before the shutdown, a pass that cannot look its object up counts one more failure of its key,
or forgets them all. -/
theorem requeues_process_of_unanswered {address : Address} {source : CacheError}
    (addressed : key.address = .ok address)
    (unanswered : (state.lookup backend key).1 = .error source)
    (unbroken : (state.process backend key).2.isBroken = false)
    (running : state.queue.shuttingDown = false) :
    (state.process backend key).2.queue.requeues key =
      if state.queue.requeues key < maxRequeues then state.queue.requeues key + 1 else 0 := by
  rw [requeues_process, queue_reconcile_of_unanswered addressed unanswered]
  by_cases again : state.queue.requeues key < maxRequeues
  · have delays := canDelay_of_unbroken addressed unanswered unbroken again
    rw [if_pos again, if_pos delays, if_pos again,
      WorkQueue.requeues_addRateLimited_self running delays]
    simp only [maxRequeues, largestCount] at again ⊢
    omega
  · rw [if_neg again, if_neg again, WorkQueue.requeues_forget, if_pos rfl]

theorem requeues_process_of_ne (apart : key ≠ other) :
    (state.process backend key).2.queue.requeues other = state.queue.requeues other := by
  rcases answers_or_unanswered backend key state with
    answers | ⟨address, source, addressed, unanswered⟩
  · rw [requeues_process_of_answered answers, if_neg apart]
  · rw [requeues_process, queue_reconcile_of_unanswered addressed unanswered]
    split
    · split
      · exact WorkQueue.requeues_addRateLimited_of_ne state.queue apart
      · rfl
    · rw [WorkQueue.requeues_forget, if_neg apart]

theorem outstanding_pos (held : key ∈ state.queue.processing) :
    0 < state.queue.outstanding key := by
  simp only [WorkQueue.outstanding, held, if_true]
  omega

/-- Before its key is given back, a pass has added the keys to which it hands over a name, and its
own key if it cannot look its object up. -/
theorem outstanding_reconcile_le (backend : Backend σ) (key other : ResourceKey)
    (state : Dispatcher σ) :
    (state.reconcile backend key).2.queue.outstanding other ≤
      state.queue.outstanding other + (state.handedOver backend key).count other +
        if key = other then 1 else 0 := by
  rcases answers_or_unanswered backend key state with
    answers | ⟨address, source, addressed, unanswered⟩
  · have added := WorkQueue.outstanding_addAll_le state.queue (state.handedOver backend key) other
    rw [queue_reconcile answers]
    exact added.trans (Nat.le_add_right _ _)
  · rw [handedOver_of_unanswered addressed unanswered, List.count_nil, Nat.add_zero,
      queue_reconcile_of_unanswered addressed unanswered]
    split
    · split
      · exact WorkQueue.outstanding_addRateLimited_le state.queue key other
      · exact Nat.le_add_right _ _
    · exact Nat.le_add_right _ _

theorem outstanding_process (held : key ∈ state.queue.processing)
    (unbroken : (state.process backend key).2.isBroken = false) (other : ResourceKey) :
    (state.process backend key).2.queue.outstanding other + (if key = other then 1 else 0) =
      (state.reconcile backend key).2.queue.outstanding other := by
  rw [process_queue_of_unbroken unbroken]
  exact WorkQueue.outstanding_done ((kept_reconcile backend key state).processing ▸ held) other

theorem allowance_process_le_of_ne (apart : key ≠ other) (held : key ∈ state.queue.processing)
    (unbroken : (state.process backend key).2.isBroken = false) :
    (state.process backend key).2.queue.allowance maxRequeues other ≤
      state.queue.allowance maxRequeues other +
        (maxRequeues + 1) * (state.handedOver backend key).count other := by
  have given := outstanding_process held unbroken other
  have added := outstanding_reconcile_le backend key other state
  rw [if_neg apart, Nat.add_zero] at given added
  exact WorkQueue.allowance_le_add maxRequeues (given ▸ added) (requeues_process_of_ne apart)

theorem allowance_process_lt (held : key ∈ state.queue.processing)
    (unbroken : (state.process backend key).2.isBroken = false) :
    (state.process backend key).2.queue.allowance maxRequeues key <
      state.queue.allowance maxRequeues key +
        (maxRequeues + 1) * (state.handedOver backend key).count key := by
  have given := outstanding_process held unbroken key
  rw [if_pos rfl] at given
  rcases answers_or_unanswered backend key state with
    answers | ⟨address, source, addressed, unanswered⟩
  · have added := WorkQueue.outstanding_addAll_le state.queue (state.handedOver backend key) key
    have asked := queue_reconcile answers
    apply WorkQueue.allowance_lt_add_of_worked maxRequeues
    rw [given, asked]
    exact added
  · have asked := queue_reconcile_of_unanswered addressed unanswered
    rw [handedOver_of_unanswered addressed unanswered, List.count_nil]
    -- The key is put back only before the shutdown, and only if it has not failed too often.
    by_cases back : state.queue.requeues key < maxRequeues ∧ state.queue.shuttingDown = false
    · obtain ⟨again, running⟩ := back
      have counted := requeues_process_of_unanswered addressed unanswered unbroken running
      have added := outstanding_reconcile_le backend key key state
      rw [handedOver_of_unanswered addressed unanswered, List.count_nil, if_pos rfl] at added
      rw [if_pos again] at counted
      exact WorkQueue.allowance_lt_of_put_back (by omega) (outstanding_pos held) counted again
    · have unchanged : (state.reconcile backend key).2.queue.outstanding key =
          state.queue.outstanding key := by
        rw [asked]
        split
        · rename_i again
          have stopped : state.queue.shuttingDown = true := by simpa [again] using back
          split
          · rw [WorkQueue.addRateLimited_of_shuttingDown stopped]
          · rfl
        · rfl
      have worked : (state.process backend key).2.queue.outstanding key + 1 ≤
          state.queue.outstanding key + 0 := by
        omega
      exact WorkQueue.allowance_lt_add_of_worked maxRequeues worked

end Dispatcher

end ZoneKeeper
