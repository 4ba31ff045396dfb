import ZoneKeeper.Proofs.Dispatcher.Results
import ZoneKeeper.Proofs.Dispatcher.Retries
import ZoneKeeper.Proofs.Queue.Restriction

/-!
# What failed passes leave behind

A pass delivers the deletion that it knows of, lists the objects of the namespace, materializes the
owner of a name, and removes the other claimants, in this order, and stops at the first failure.  So
its failure tells what it has done by then: a pass that cannot make out what its key stands for has
done nothing, one that gets no listing has at most delivered the deletion, and one that cannot
materialize the owner has removed no other claimant.
-/

namespace ZoneKeeper

namespace Dispatcher

variable {σ : Type} {backend : Backend σ} {key : ResourceKey} {state : Dispatcher σ}
  {requests : List (Operation × Resource)} {calls : List HandlerCall}

/-- Attempts of which not all succeed end with the first that fails. -/
theorem Attempts.exists_last (attempts : Attempts requests calls)
    (failed : ¬ ∀ call ∈ calls, call.result = .ok ()) :
    ∃ early call error, calls = early ++ [call] ∧ call.result = .error error ∧
      ∀ earlier ∈ early, earlier.result = .ok () := by
  induction attempts with
  | done => exact absurd (by simp) failed
  | fail operation resource error => exact ⟨[], _, error, rfl, rfl, by simp⟩
  | next operation resource later ih =>
      obtain ⟨early, call, error, rfl, stopped, ok⟩ :=
        ih fun ok => failed (List.forall_mem_cons.2 ⟨rfl, ok⟩)
      exact ⟨_ :: early, call, error, rfl, stopped, List.forall_mem_cons.2 ⟨rfl, ok⟩⟩

theorem concluded_of_last {ε α : Type} {failing : HandlerError → ε} {ending : Except ε α}
    {early : List HandlerCall} {call : HandlerCall} {error : HandlerError}
    (ok : ∀ earlier ∈ early, earlier.result = .ok ()) (stopped : call.result = .error error) :
    concluded failing ending (early ++ [call]) = .error (failing error) := by
  rw [concluded_append_of_forall ok, concluded, stopped]

/-- What a pass asks of the handlers once it has delivered the deletion that it knows of, and how it
ends if no call fails, by what it has found. -/
inductive Remainder (key : ResourceKey) (gone : Option Resource) :
    Option Resource → List (Operation × Resource) → Except ReconcileError Outcome → Prop
  | absent : Remainder key gone none [] (endingOf key gone none)
  | unlisted (resource : Resource) (source : CacheError) :
      Remainder key gone (some resource) [] (.error (.listing key.path source))
  | listed (resource : Resource) (others : List Resource) :
      Remainder key gone (some resource) (requestsFor key.kind others (some resource))
        (.ok .synced)

namespace Remainder

variable {gone found : Option Resource} {ending : Except ReconcileError Outcome}

/-- Of what is left to do, only the first request can be for a creation. -/
theorem eq_nil_of_created (remainder : Remainder key gone found requests ending)
    {early : List HandlerCall} {call : HandlerCall}
    (asked : (early ++ [call]).map HandlerCall.request <+: requests)
    (created : call.operation = .created) : early = [] := by
  cases remainder with
  | absent | unlisted => simp at asked
  | listed resource others =>
      cases kindEq : key.kind with
      | record =>
          rw [kindEq] at asked
          simp [requestsFor] at asked
      | zone =>
          rw [kindEq] at asked
          cases early with
          | nil => rfl
          | cons first early =>
              have later := (List.cons_prefix_cons.1 asked).2
              have deleted : call.request ∈ _ := later.subset (by simp)
              obtain ⟨loser, -, same⟩ := List.mem_map.1 deleted
              have removal : Operation.deleted = call.operation := congrArg Prod.fst same
              rw [created] at removal
              contradiction

/-- A creation comes right after the delivery of the deletion that is known. -/
theorem early_of_created (remainder : Remainder key gone found requests ending)
    {early : List HandlerCall} {call : HandlerCall}
    (attempts : Attempts (gone.toList.map (fun gone => (.deleted, gone)) ++ requests)
      (early ++ [call]))
    (ok : ∀ earlier ∈ early, earlier.result = .ok ()) (created : call.operation = .created) :
    early = gone.toList.map deleting := by
  have asked := attempts.isPrefix
  cases gone with
  | none => exact remainder.eq_nil_of_created asked created
  | some gone =>
      cases early with
      | nil =>
          have same := (List.cons_prefix_cons.1 asked).1
          have removal : call.operation = .deleted := congrArg Prod.fst same
          rw [created] at removal
          contradiction
      | cons first early =>
          obtain ⟨same, later⟩ := List.cons_prefix_cons.1 asked
          obtain rfl : early = [] := remainder.eq_nil_of_created later created
          have delivered := HandlerCall.eq_map_granted ok
          rw [List.map_singleton, same] at delivered
          exact delivered

end Remainder

/-- A pass that can look its object up delivers the deletion that it knows of, and does what is
left to do. -/
theorem exists_remainder {address : Address} {found : Option Resource}
    (addressed : key.address = .ok address)
    (answered : (state.lookup backend key).1 = .ok found) :
    ∃ requests ending calls, Remainder key (state.tombstones.get? key) found requests ending ∧
      Concludes key
        ((state.tombstones.get? key).toList.map (fun gone => (.deleted, gone)) ++ requests) ending
        state (state.process backend key) calls := by
  have whole : state.lookup backend key = (.ok found, (state.lookup backend key).2) :=
    Prod.ext answered rfl
  suffices reconciled : ∃ requests ending calls,
      Remainder key (state.tombstones.get? key) found requests ending ∧
      Concludes key
        ((state.tombstones.get? key).toList.map (fun gone => (.deleted, gone)) ++ requests) ending
        state (state.reconcile backend key) calls by
    obtain ⟨requests, ending, calls, remainder, called, attempts, result⟩ := reconciled
    exact ⟨requests, ending, calls, remainder, (process_calls backend key state).trans called,
      attempts, (process_result backend key state).trans result⟩
  cases found with
  | none =>
      obtain ⟨calls, concludes⟩ := concludes_reconcile_of_absent addressed whole
      refine ⟨[], _, calls, .absent, ?_⟩
      rwa [List.append_nil]
  | some resource =>
      cases listed : (((state.lookup backend key).2.settleRecreated backend key
          resource.zoneName).2.list backend key.kind address.space).1 with
      | error source =>
          obtain ⟨calls, concludes⟩ := concludes_reconcile_of_found addressed whole
            ⟨[], concludes_settle_of_unlisted resource listed⟩
          exact ⟨_, _, calls, .unlisted resource source, concludes⟩
      | ok others =>
          obtain ⟨calls, concludes⟩ := concludes_reconcile_of_found addressed whole
            (concludes_settle resource listed)
          exact ⟨_, _, calls, .listed resource others, concludes⟩

/-- A pass that hands over no name leaves alone what the queue holds of other keys. -/
theorem sameBeside_process (nothing : state.handedOver backend key = []) :
    state.queue.SameBeside key (state.process backend key).2.queue := by
  obtain ⟨shadow, restricts⟩ :=
    WorkQueue.Restricts.exists_of_queue (fun other => other ≠ key) state.queue
  have foreign : (decide (key ≠ key)) = false := by simp
  have reconciled : (state.reconcile backend key).2.queue.Restricts (fun other => other ≠ key)
      shadow := by
    rcases answers_or_unanswered backend key state with
      answers | ⟨address, source, addressed, unanswered⟩
    · rw [queue_reconcile answers, nothing]
      exact restricts.forget_of_foreign foreign
    · rw [queue_reconcile_of_unanswered addressed unanswered]
      split
      · split
        · exact restricts.addRateLimited_of_foreign foreign
        · exact restricts
      · exact restricts.forget_of_foreign foreign
  refine ⟨shadow, restricts, ?_⟩
  rw [process_queue]
  split
  · exact reconciled
  · exact reconciled.done_of_foreign foreign

theorem untouched_of_unburied {address : Address} (addressed : key.address = .ok address)
    (absent : (state.lookup backend key).1 = .ok none)
    (unburied : state.tombstones.get? key = none) :
    Untouched state (state.process backend key).2 := by
  have whole : state.lookup backend key = (.ok none, (state.lookup backend key).2) :=
    Prod.ext absent rfl
  have sameTombstones : (state.lookup backend key).2.tombstones = state.tombstones := rfl
  have given := reconcile_of_absent addressed whole
  unfold handleDeletion at given
  rw [sameTombstones, unburied] at given
  exact ⟨by rw [process_calls, given]; rfl, by rw [process_tombstones, given]; rfl⟩

section Failures

variable (key) (before after : Dispatcher σ) (calls : List HandlerCall)

/-- Nothing has been asked of the handlers, all deletions that are known are still known, and
nothing has been done to the queue on behalf of another key. -/
structure Abstains : Prop where
  uncalled : calls = []
  tombstones : after.tombstones = before.tombstones
  queue : before.queue.SameBeside key after.queue

/-- The deletion that was known of the key, if any, has been delivered, and nothing else has been
asked of the handlers. -/
structure OnlyDelivers : Prop where
  calls_eq : calls = (before.tombstones.get? key).toList.map deleting
  tombstones : ∀ other, after.tombstones.get? other =
    if other = key then none else before.tombstones.get? other

/-- All calls have succeeded but the last one; if this was to materialize a zone, nothing else has
been asked of the handlers than to delete what was known to be gone. -/
def StopsAt (error : HandlerError) : Prop :=
  ∃ early call, calls = early ++ [call] ∧ call.result = .error error ∧
    (∀ earlier ∈ early, earlier.result = .ok ()) ∧
    (call.operation = .created → early = (before.tombstones.get? key).toList.map deleting)

/-- What a pass has done by the time that it fails. -/
def Leaves : ReconcileError → Prop
  | .malformedKey _ | .lookupRetrying .. | .lookupExhausted .. | .deletionUnresolvable _ =>
      Abstains key before after calls
  | .listing .. => OnlyDelivers key before after calls
  | .handler _ error => StopsAt key before calls error

end Failures

variable {failure : ReconcileError}

theorem abstains_of_untouched (called : (state.process backend key).2.calls = state.calls ++ calls)
    (untouched : Untouched state (state.process backend key).2)
    (nothing : state.handedOver backend key = []) :
    Abstains key state (state.process backend key).2 calls where
  uncalled := List.self_eq_append_right.1 (untouched.calls.symm.trans called)
  tombstones := untouched.tombstones
  queue := sameBeside_process nothing

theorem leaves_of_malformed {fault : KeyError} (malformed : key.address = .error fault)
    (failed : (state.process backend key).1 = .error failure)
    (called : (state.process backend key).2.calls = state.calls ++ calls) :
    Leaves key state (state.process backend key).2 calls failure := by
  rw [process_result, reconcile_of_malformed malformed] at failed
  obtain rfl := Except.error.inj failed
  refine abstains_of_untouched called (untouched_of_malformed malformed) ?_
  simp only [handedOver, malformed]

theorem leaves_of_unanswered {address : Address} {source : CacheError}
    (addressed : key.address = .ok address)
    (unanswered : (state.lookup backend key).1 = .error source)
    (failed : (state.process backend key).1 = .error failure)
    (called : (state.process backend key).2.calls = state.calls ++ calls) :
    Leaves key state (state.process backend key).2 calls failure := by
  have abstains := abstains_of_untouched called (untouched_of_unanswered addressed unanswered)
    (handedOver_of_unanswered addressed unanswered)
  rw [process_result_of_unanswered addressed unanswered] at failed
  obtain rfl := Except.error.inj failed
  unfold verdict
  split
  · exact abstains
  · exact abstains

/-- If no call fails, a pass fails because it knows of no deletion, or because it gets no
listing. -/
theorem leaves_of_granted {address : Address} {found : Option Resource}
    {ending : Except ReconcileError Outcome} (addressed : key.address = .ok address)
    (answered : (state.lookup backend key).1 = .ok found)
    (remainder : Remainder key (state.tombstones.get? key) found requests ending)
    (attempts : Attempts
      ((state.tombstones.get? key).toList.map (fun gone => (.deleted, gone)) ++ requests) calls)
    (ok : ∀ call ∈ calls, call.result = .ok ()) (failed : ending = .error failure)
    (called : (state.process backend key).2.calls = state.calls ++ calls) :
    Leaves key state (state.process backend key).2 calls failure := by
  have whole := attempts.eq_map_granted ok
  cases remainder with
  | absent =>
      cases buried : state.tombstones.get? key with
      | some gone =>
          rw [buried] at failed
          contradiction
      | none =>
          rw [buried] at failed
          obtain rfl := Except.error.inj failed
          exact abstains_of_untouched called (untouched_of_unburied addressed answered buried)
            (handedOver_of_unburied buried)
  | unlisted resource source =>
      obtain rfl := Except.error.inj failed
      rw [List.append_nil, map_granted_deletions] at whole
      refine ⟨whole, fun other => ?_⟩
      split
      · rename_i same
        obtain ⟨-, -, -, -, -, unburied⟩ := delivered_of_answered addressed answered
        rw [same]
        exact unburied
      · rename_i apart
        rw [process_tombstones]
        exact (kept_reconcile backend key state).others other apart
  | listed => contradiction

/-- A pass that fails has done nothing beyond what its failure tells.  If it could not make out what
its key stands for, it has not called a handler, and so no pass that is counted as dropped has; if
it got no listing, it has only delivered the deletion that it knew of; and if it could not
materialize a zone, it has removed no other zone for it. -/
theorem failures_harmless (failed : (state.process backend key).1 = .error failure)
    (called : (state.process backend key).2.calls = state.calls ++ calls) :
    Leaves key state (state.process backend key).2 calls failure ∧
      (failure.outcome = .dropped → calls = []) := by
  have leaves : Leaves key state (state.process backend key).2 calls failure := by
    cases addressed : key.address with
    | error fault => exact leaves_of_malformed addressed failed called
    | ok address =>
        cases answered : (state.lookup backend key).1 with
        | error source => exact leaves_of_unanswered addressed answered failed called
        | ok found =>
            obtain ⟨requests, ending, same, remainder, calls_eq, attempts, result⟩ :=
              exists_remainder addressed answered
            obtain rfl : same = calls := List.append_cancel_left (calls_eq.symm.trans called)
            rw [failed] at result
            by_cases ok : ∀ call ∈ same, call.result = .ok ()
            · rw [concluded_of_forall ok] at result
              exact leaves_of_granted addressed answered remainder attempts ok result.symm called
            · obtain ⟨early, call, error, rfl, stopped, ok⟩ := attempts.exists_last ok
              rw [concluded_of_last ok stopped] at result
              obtain rfl := Except.error.inj result
              exact ⟨early, call, rfl, stopped, ok, remainder.early_of_created attempts ok⟩
  refine ⟨leaves, fun dropped => ?_⟩
  cases failure with
  | malformedKey | lookupExhausted | deletionUnresolvable => exact leaves.uncalled
  | lookupRetrying | listing | handler => contradiction

/-- A zone was deleted and made again, and cannot be materialized; a younger zone claims its
name. -/
def unwritable : Dispatcher World :=
  let zones := [("a", Sample.zone "a" 2 "x"), ("b", Sample.zone "b" 3 "x")]
  let objects := Table.ofList (zones.map fun (name, zone) => (⟨name, some "team"⟩, zone))
  let world : World :=
    { zones := { store := { objects } }, faults := { calls := [(.created, "a")] } }
  let observed := Dispatcher.observe (.deleted (Sample.zone "a" 1 "x"))
    { queue := .withBackoff .standard, world }
  { observed with queue := WorkQueue.Call.run observed.queue .get }

/-- The younger zone stays as it is. -/
theorem failures_harmless_unwritable :
    ∃ calls owner error,
      (unwritable.process World.backend ⟨"team/a", .zone⟩).2.calls = unwritable.calls ++ calls ∧
      calls = [deleting (Sample.zone "a" 1 "x"), ⟨.created, owner, .error error⟩] ∧
      (unwritable.process World.backend ⟨"team/a", .zone⟩).1 =
        .error (.handler "team/a" error) := by
  obtain ⟨calls, called⟩ :=
    (kept_reconcile World.backend ⟨"team/a", .zone⟩ unwritable).calls
  rw [← process_calls] at called
  have failed : (unwritable.process World.backend ⟨"team/a", .zone⟩).1 =
      .error (.handler "team/a" (.render "a" (.reported "injected"))) := rfl
  obtain ⟨⟨early, call, rfl, stopped, -, created⟩, -⟩ := failures_harmless failed called.symm
  have creation : call.operation = .created := by
    have last : (unwritable.process World.backend ⟨"team/a", .zone⟩).2.calls.getLast?.map
        HandlerCall.operation = some .created := rfl
    rw [← called, ← List.append_assoc, List.getLast?_concat] at last
    exact Option.some.inj last
  obtain rfl : early = [deleting (Sample.zone "a" 1 "x")] := created creation
  obtain ⟨operation, owner, result⟩ := call
  obtain rfl : operation = .created := creation
  obtain rfl : result = .error _ := stopped
  exact ⟨_, owner, _, called.symm, rfl, failed⟩

end Dispatcher

end ZoneKeeper
