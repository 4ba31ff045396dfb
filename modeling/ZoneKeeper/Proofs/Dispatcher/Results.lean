import ZoneKeeper.Proofs.Dispatcher.Calls

/-!
# How passes end

A pass whose caches answer asks the handlers for what its tombstone keeps and for what it has found,
up to the first failure.  If a call fails, its failure is the failure of the pass; otherwise the end
of the pass only depends on what its key stands for.  So the calls of a pass tell how it ends.
-/

namespace ZoneKeeper

/-- How something ends that breaks off at the first call that fails. -/
def concluded {ε α : Type} (failing : HandlerError → ε) (ending : Except ε α) :
    List HandlerCall → Except ε α
  | [] => ending
  | call :: calls =>
      match call.result with
      | .ok () => concluded failing ending calls
      | .error error => .error (failing error)

section Concluded

variable {ε α : Type} {failing : HandlerError → ε} {ending : Except ε α}
  {calls : List HandlerCall}

theorem concluded_append_of_forall {early : List HandlerCall}
    (ok : ∀ call ∈ early, call.result = .ok ()) :
    concluded failing ending (early ++ calls) = concluded failing ending calls := by
  induction early with
  | nil => rfl
  | cons call early ih =>
      rw [List.cons_append, concluded, ok call List.mem_cons_self]
      exact ih fun other present => ok other (List.mem_cons_of_mem call present)

theorem concluded_of_forall (ok : ∀ call ∈ calls, call.result = .ok ()) :
    concluded failing ending calls = ending := by
  rw [← List.append_nil calls]
  exact concluded_append_of_forall ok

/-- An end without a failure means that no call has failed. -/
theorem forall_ok_of_concluded {value : α} (ended : concluded failing ending calls = .ok value) :
    (∀ call ∈ calls, call.result = .ok ()) ∧ ending = .ok value := by
  induction calls with
  | nil => exact ⟨by simp, ended⟩
  | cons call calls ih =>
      rw [concluded] at ended
      split at ended
      · rename_i ok
        obtain ⟨others, ending⟩ := ih ended
        exact ⟨List.forall_mem_cons.2 ⟨ok, others⟩, ending⟩
      · contradiction

/-- One failure is what any end comes to, unless all calls have succeeded. -/
theorem exists_concluded_of_failed (failed : ¬ ∀ call ∈ calls, call.result = .ok ()) :
    ∃ error, ∀ {ε α : Type} (failing : HandlerError → ε) (ending : Except ε α),
      concluded failing ending calls = .error (failing error) := by
  induction calls with
  | nil => exact absurd (by simp) failed
  | cons call calls ih =>
      obtain ⟨operation, resource, result⟩ := call
      cases result with
      | error error => exact ⟨error, fun _ _ => rfl⟩
      | ok =>
          apply ih
          intro ok
          exact failed (List.forall_mem_cons.2 ⟨rfl, ok⟩)

theorem failed_of_concluded {value : α} {failure : ε}
    (stopped : concluded failing (.ok value) calls = .error failure) :
    ¬ ∀ call ∈ calls, call.result = .ok () := by
  intro ok
  rw [concluded_of_forall ok] at stopped
  contradiction

end Concluded

namespace Dispatcher

namespace Attempts

variable {requests later : List (Operation × Resource)} {calls others : List HandlerCall}

theorem append (attempts : Attempts requests calls) (ok : ∀ call ∈ calls, call.result = .ok ())
    (rest : Attempts later others) : Attempts (requests ++ later) (calls ++ others) := by
  induction attempts with
  | done => exact rest
  | fail operation resource error =>
      have granted := ok _ List.mem_cons_self
      contradiction
  | next operation resource _ ih =>
      exact .next operation resource
        (ih fun call present => ok call (List.mem_cons_of_mem _ present))

/-- After a failure nothing more is asked for. -/
theorem append_of_failed (attempts : Attempts requests calls)
    (failed : ¬ ∀ call ∈ calls, call.result = .ok ()) (later : List (Operation × Resource)) :
    Attempts (requests ++ later) calls := by
  induction attempts with
  | done => exact absurd (by simp) failed
  | fail operation resource error requests => exact .fail operation resource error _
  | next operation resource _ ih =>
      apply Attempts.next operation resource
      apply ih
      intro ok
      exact failed (List.forall_mem_cons.2 ⟨rfl, ok⟩)

/-- Attempts at the same requests that get the same answers are the same. -/
theorem eq_of_answers (attempts : Attempts requests calls) (attemptsToo : Attempts requests others)
    (answers : ∀ (turn : Nat) (one other : HandlerCall), calls[turn]? = some one →
      others[turn]? = some other → one.request = other.request → one.result = other.result) :
    calls = others := by
  induction attempts generalizing others with
  | done =>
      cases attemptsToo
      rfl
  | fail operation resource error =>
      cases attemptsToo with
      | fail _ _ errorToo =>
          have same := answers 0 _ _ rfl rfl rfl
          rw [Except.error.inj same]
      | next =>
          have same := answers 0 _ _ rfl rfl rfl
          contradiction
  | next operation resource _ ih =>
      cases attemptsToo with
      | fail =>
          have same := answers 0 _ _ rfl rfl rfl
          contradiction
      | next _ _ rest =>
          congr 1
          exact ih rest fun turn => answers (turn + 1)

end Attempts

/-- What is asked of the handlers on behalf of what a key stands for. -/
def requestsFor (kind : Kind) (others : List Resource) :
    Option Resource → List (Operation × Resource)
  | none => []
  | some resource =>
      match kind with
      | .zone => settlingRequests resource others
      | .record => []

/-- What a pass asks of the handlers: that what its tombstone keeps be deleted, and then what it has
found be settled. -/
def passRequests (kind : Kind) (gone found : Option Resource) (others : List Resource) :
    List (Operation × Resource) :=
  gone.toList.map (fun gone => (.deleted, gone)) ++ requestsFor kind others found

/-- How a pass ends in which no call fails. -/
def endingOf (key : ResourceKey) (gone : Option Resource) :
    Option Resource → Except ReconcileError Outcome
  | some _ => .ok .synced
  | none =>
      match gone with
      | some _ => .ok .deleted
      | none => .error (.deletionUnresolvable key.path)

variable {σ : Type} {backend : Backend σ} {key : ResourceKey} {state : Dispatcher σ}

/-- What the caches tell a pass: what its key stands for, and, once it gets to ask, the objects of
the namespace. -/
structure Told (backend : Backend σ) (key : ResourceKey) (address : Address)
    (found : Option Resource) (others : List Resource) (state : Dispatcher σ) : Prop where
  addressed : key.address = .ok address
  answered : (state.lookup backend key).1 = .ok found
  listed : ∀ resource ∈ found,
    (((state.lookup backend key).2.settleRecreated backend key resource.zoneName).2.list backend
      key.kind address.space).1 = .ok others

/-- A part of a pass makes calls: they attempt some requests, and tell how this part ends. -/
structure Concludes {α : Type} (key : ResourceKey) (requests : List (Operation × Resource))
    (ending : Except ReconcileError α) (before : Dispatcher σ)
    (outcome : Except ReconcileError α × Dispatcher σ) (calls : List HandlerCall) : Prop where
  calls_eq : outcome.2.calls = before.calls ++ calls
  attempts : Attempts requests calls
  result : outcome.1 = concluded (.handler key.path) ending calls

theorem result_retire {zones : List Resource} {calls : List HandlerCall}
    (called : (state.retire backend zones).2.calls = state.calls ++ calls) :
    (state.retire backend zones).1 = concluded id (.ok ()) calls := by
  induction zones generalizing state calls with
  | nil =>
      obtain rfl : calls = [] := by simpa [retire] using called
      rfl
  | cons zone zones ih =>
      have asked := calls_call backend state .deleted zone
      revert called
      rw [retire]
      split
      · rename_i error after answered
        rw [answered] at asked
        intro called
        rw [List.append_cancel_left (called.symm.trans asked)]
        rfl
      · rename_i after answered
        rw [answered] at asked
        obtain ⟨later, calledLater, -⟩ := attempts_retire backend after zones
        rw [ih calledLater]
        rw [asked, List.append_assoc] at calledLater
        intro called
        rw [← List.append_cancel_left (calledLater.symm.trans called)]
        rfl

theorem result_settleZone {zone : Resource} {zones : List Resource} {calls : List HandlerCall}
    (called : (state.settleZone backend key zone zones).2.calls = state.calls ++ calls) :
    (state.settleZone backend key zone zones).1 =
      concluded (.handler key.path) (.ok .synced) calls := by
  revert called
  unfold settleZone
  generalize canonical zone zones = owner
  dsimp only
  have noted : (if owner.nameAny ≠ zone.nameAny then
      state.note (.claimedByOlderZone zone.zoneName owner.nameAny) else state).calls =
        state.calls := by
    split <;> rfl
  generalize (if owner.nameAny ≠ zone.nameAny then
      state.note (.claimedByOlderZone zone.zoneName owner.nameAny) else state) = begun at noted ⊢
  have asked := calls_call backend begun .created owner
  split
  · rename_i error after answered
    rw [answered, noted] at asked
    intro called
    rw [List.append_cancel_left (called.symm.trans asked)]
    rfl
  · rename_i middle answered
    rw [answered, noted] at asked
    obtain ⟨retired, calledLater, -⟩ :=
      attempts_retire backend middle (superseded zone owner zones)
    have result := result_retire calledLater
    rw [asked, List.append_assoc] at calledLater
    split
    · rename_i error after stopped
      rw [stopped] at calledLater result
      intro called
      rw [← List.append_cancel_left (calledLater.symm.trans called)]
      obtain ⟨failure, same⟩ := exists_concluded_of_failed (failed_of_concluded result.symm)
      rw [same] at result
      obtain rfl : error = failure := Except.error.inj result
      exact (same (ReconcileError.handler key.path) (Except.ok Outcome.synced)).symm
    · rename_i after finished
      rw [finished] at calledLater result
      intro called
      rw [← List.append_cancel_left (calledLater.symm.trans called)]
      exact (concluded_of_forall (forall_ok_of_concluded result.symm).1).symm

theorem result_settleRecreated {zoneName : String} {calls : List HandlerCall}
    (called : (state.settleRecreated backend key zoneName).2.calls = state.calls ++ calls) :
    (state.settleRecreated backend key zoneName).1 =
      concluded (.handler key.path) (.ok ()) calls := by
  revert called
  unfold settleRecreated
  cases state.tombstones.get? key with
  | none =>
      intro called
      obtain rfl : calls = [] := by simpa using called
      rfl
  | some gone =>
      dsimp only
      have asked := calls_call backend ((state.dropTombstone key).note .recreated) .deleted gone
      rw [← calls_handOver_if ((gone.kind = .zone && gone.zoneName ≠ zoneName) = true) gone]
        at asked
      split
      · rename_i answered
        rw [answered] at asked
        intro called
        rw [List.append_cancel_left (called.symm.trans asked)]
        rfl
      · rename_i failed
        rw [failed] at asked
        intro called
        rw [List.append_cancel_left (called.symm.trans asked)]
        rfl

theorem result_handleDeletion {calls : List HandlerCall}
    (called : (state.handleDeletion backend key).2.calls = state.calls ++ calls) :
    (state.handleDeletion backend key).1 =
      concluded (.handler key.path) (endingOf key (state.tombstones.get? key) none) calls := by
  revert called
  unfold handleDeletion
  cases state.tombstones.get? key with
  | none =>
      intro called
      obtain rfl : calls = [] := by simpa [forget] using called
      rfl
  | some gone =>
      dsimp only
      have asked := calls_call backend (state.note .deletionDetected) .deleted gone
      change (((state.note .deletionDetected).call backend .deleted gone).2.dropTombstone
        key |>.forget key).calls = state.calls ++ _ at asked
      rw [← calls_handOver_if (gone.kind = .zone) gone] at asked
      split
      · rename_i answered
        rw [answered] at asked
        intro called
        rw [List.append_cancel_left (called.symm.trans asked)]
        rfl
      · rename_i failed
        rw [failed] at asked
        intro called
        rw [List.append_cancel_left (called.symm.trans asked)]
        rfl

theorem Delivered.attempts {before after : Dispatcher σ} {calls : List HandlerCall}
    (delivered : Delivered key before after calls) :
    Attempts ((before.tombstones.get? key).toList.map fun gone => (.deleted, gone)) calls := by
  have requests := delivered.requests
  cases buried : before.tombstones.get? key with
  | none =>
      rw [buried] at requests
      obtain rfl : calls = [] := by simpa using requests
      exact .done
  | some gone =>
      rw [buried] at requests
      obtain ⟨call, rest, rfl, same, none⟩ := List.map_eq_cons_iff.1 requests
      obtain rfl : rest = [] := by simpa using none
      obtain ⟨operation, resource, result⟩ := call
      obtain ⟨rfl, rfl⟩ := Prod.mk.inj same
      cases result with
      | ok => exact .next _ _ .done
      | error error => exact .fail _ _ error []

theorem concludes_settle {address : Address} {others : List Resource} (resource : Resource)
    (listed : (state.list backend key.kind address.space).1 = .ok others) :
    ∃ calls, Concludes key (requestsFor key.kind others (some resource)) (.ok .synced) state
      (state.settle backend key address resource) calls := by
  have sameCalls : (state.list backend key.kind address.space).2.calls = state.calls := rfl
  unfold settle
  split
  · rename_i answered
    rw [answered] at listed
    contradiction
  · rename_i zones middle answered
    rw [answered] at listed sameCalls
    obtain rfl : zones = others := Except.ok.inj listed
    dsimp only at sameCalls
    cases key.kind with
    | zone =>
        obtain ⟨calls, called, attempts⟩ := attempts_settleZone backend key middle resource zones
        have result := result_settleZone called
        rw [sameCalls] at called
        exact ⟨calls, called, attempts, result⟩
    | record => exact ⟨[], by rw [List.append_nil]; exact sameCalls, .done, rfl⟩

theorem concludes_settle_of_unlisted {address : Address} {source : CacheError} (resource : Resource)
    (unlisted : (state.list backend key.kind address.space).1 = .error source) :
    Concludes key [] (.error (.listing key.path source)) state
      (state.settle backend key address resource) [] := by
  have sameCalls : (state.list backend key.kind address.space).2.calls = state.calls := rfl
  unfold settle
  split
  · rename_i answered
    rw [answered] at unlisted sameCalls
    cases unlisted
    exact ⟨by rw [List.append_nil]; exact sameCalls, .done, rfl⟩
  · rename_i answered
    rw [answered] at unlisted
    contradiction

theorem concludes_reconcile_of_absent {address : Address} {asked : Dispatcher σ}
    (addressed : key.address = .ok address)
    (absent : state.lookup backend key = (.ok none, asked)) :
    ∃ calls, Concludes key ((state.tombstones.get? key).toList.map fun gone => (.deleted, gone))
      (endingOf key (state.tombstones.get? key) none) state (state.reconcile backend key)
      calls := by
  obtain rfl : (state.lookup backend key).2 = asked := congrArg Prod.snd absent
  obtain ⟨calls, delivered⟩ :=
    delivered_handleDeletion backend key (state.lookup backend key).2
  rw [reconcile_of_absent addressed absent]
  exact ⟨calls, delivered.calls_eq, delivered.attempts, result_handleDeletion delivered.calls_eq⟩

/-- What has been found is dealt with once what the tombstone keeps is deleted. -/
theorem concludes_reconcile_of_found {address : Address} {resource : Resource}
    {asked : Dispatcher σ} {requests : List (Operation × Resource)}
    {ending : Except ReconcileError Outcome} (addressed : key.address = .ok address)
    (present : state.lookup backend key = (.ok (some resource), asked))
    (settles : ∃ calls, Concludes key requests ending
      (asked.settleRecreated backend key resource.zoneName).2
      ((asked.settleRecreated backend key resource.zoneName).2.settle backend key address resource)
      calls) :
    ∃ calls, Concludes key
      ((state.tombstones.get? key).toList.map (fun gone => (.deleted, gone)) ++ requests) ending
      state (state.reconcile backend key) calls := by
  have sameCalls : asked.calls = state.calls :=
    congrArg (fun reply => reply.2.calls) present.symm
  have sameTombstones : asked.tombstones = state.tombstones :=
    congrArg (fun reply => reply.2.tombstones) present.symm
  obtain ⟨early, delivered, -⟩ := delivered_settleRecreated backend key asked resource.zoneName
  have concluding := result_settleRecreated delivered.calls_eq
  have attempts := delivered.attempts
  have called := sameCalls ▸ delivered.calls_eq
  rw [sameTombstones] at attempts
  cases ended : asked.settleRecreated backend key resource.zoneName with
  | mk result middle =>
      rw [ended] at concluding called settles
      cases result with
      | error failure =>
          have failed := failed_of_concluded concluding.symm
          rw [reconcile_of_failed addressed present ended]
          refine ⟨early, called, attempts.append_of_failed failed _, ?_⟩
          obtain ⟨error, same⟩ := exists_concluded_of_failed failed
          rw [same] at concluding ⊢
          exact congrArg Except.error (Except.error.inj concluding)
      | ok =>
          obtain ⟨ok, -⟩ := forall_ok_of_concluded concluding.symm
          obtain ⟨later, settled⟩ := settles
          rw [reconcile_of_settled addressed present ended]
          refine ⟨early ++ later, ?_, attempts.append ok settled.attempts, ?_⟩
          · rw [← List.append_assoc, ← called]
            exact settled.calls_eq
          · rw [concluded_append_of_forall ok]
            exact settled.result

/-- What a pass calls for and how it ends, by what its tombstone keeps and what the caches tell. -/
theorem concludes_reconcile {address : Address} {found : Option Resource} {others : List Resource}
    (told : Told backend key address found others state) :
    ∃ calls, Concludes key (passRequests key.kind (state.tombstones.get? key) found others)
      (endingOf key (state.tombstones.get? key) found) state (state.reconcile backend key)
      calls := by
  obtain ⟨addressed, answer, listed⟩ := told
  have whole : state.lookup backend key = (.ok found, (state.lookup backend key).2) :=
    Prod.ext answer rfl
  cases found with
  | none =>
      rw [passRequests, requestsFor, List.append_nil]
      exact concludes_reconcile_of_absent addressed whole
  | some resource =>
      exact concludes_reconcile_of_found addressed whole
        (concludes_settle resource (listed resource rfl))

end Dispatcher

end ZoneKeeper
