import ZoneKeeper.Proofs.Dispatcher.HandOver
import ZoneKeeper.Proofs.Dispatcher.Queueing
import ZoneKeeper.Proofs.Queue.Additions

/-!
# The heirs of a name

A pass that knows of the deletion of a zone hands over the name that the zone declared, unless the
zone is there again under this name.  The keys that it queues are exactly those of the other zones
that a listing shows to declare the name, whether or not the deletion succeeds; if there is no
listing there are none, and the pass ends as it would have ended.
-/

namespace ZoneKeeper

/-- The key of a listed zone that could take over the name of a zone that is gone: it declares the
name, and is named differently. -/
def IsHeir (gone : Resource) (zones : List Resource) (key : ResourceKey) : Prop :=
  ∃ zone ∈ zones, zone.zoneName = gone.zoneName ∧ zone.nameAny ≠ gone.nameAny ∧ zone.key = .ok key

namespace Dispatcher

variable {σ : Type} {backend : Backend σ} {key other : ResourceKey} {state : Dispatcher σ}
  {gone : Resource}

theorem mem_heirs_iff (gone : Resource) (world : σ) :
    other ∈ backend.heirs gone world ↔
      ∃ space zones, gone.space? = some space ∧
        (backend.list .zone space world).1 = .ok zones ∧ IsHeir gone zones other := by
  unfold Backend.heirs
  cases gone.space? with
  | none => simp
  | some space =>
      dsimp only
      cases listed : (backend.list .zone space world).1 with
      | error fault => simp [listed]
      | ok zones =>
          simp [listed, IsHeir, Resource.rivals_iff, Resource.toOption_key_eq_some_iff, and_assoc]

/-- A name is handed over to its heirs unless it is declared again under the key of the pass. -/
theorem mem_bequests_iff {found : Option Resource} (buried : state.tombstones.get? key = some gone)
    (ofZone : gone.kind = .zone) :
    other ∈ state.bequests backend key found ↔
      (∀ resource ∈ found, gone.zoneName ≠ resource.zoneName) ∧
        other ∈ backend.heirs gone (backend.handle .deleted gone state.world).2 := by
  simp only [bequests, buried, ofZone, true_and]
  split
  · rename_i released
    exact (and_iff_right released).symm
  · rename_i declared
    exact iff_of_false List.not_mem_nil fun heir => declared heir.1

/-- What a deletion makes of the end of a pass that would go on with something else. -/
def afterDeletion {α : Type} (key : ResourceKey) (reply : Reply)
    (ending : Except ReconcileError α) : Except ReconcileError α :=
  match reply.result with
  | .ok () => ending
  | .error error => .error (.handler key.path error)

theorem result_handleDeletion_of_buried (buried : state.tombstones.get? key = some gone) :
    (state.handleDeletion backend key).1 =
      afterDeletion key (backend.handle .deleted gone state.world).1 (.ok .deleted) := by
  have called : ((state.note .deletionDetected).call backend .deleted gone).1 =
      (backend.handle .deleted gone state.world).1.result := rfl
  unfold handleDeletion afterDeletion
  rw [buried]
  dsimp only
  rw [called]
  cases (backend.handle .deleted gone state.world).1.result <;> rfl

theorem result_settleRecreated_of_buried {zoneName : String}
    (buried : state.tombstones.get? key = some gone) :
    (state.settleRecreated backend key zoneName).1 =
      afterDeletion key (backend.handle .deleted gone state.world).1 (.ok ()) := by
  have called : (((state.dropTombstone key).note .recreated).call backend .deleted gone).1 =
      (backend.handle .deleted gone state.world).1.result := rfl
  unfold settleRecreated afterDeletion
  rw [buried]
  dsimp only
  rw [called]
  cases (backend.handle .deleted gone state.world).1.result <;> rfl

/-- How a pass ends once the deletion that it knew of has succeeded: an object that is gone is gone,
and one that is there is settled. -/
def endingAfterDeletion (backend : Backend σ) (key : ResourceKey) (address : Address)
    (state : Dispatcher σ) : Option Resource → Except ReconcileError Outcome
  | none => .ok .deleted
  | some resource =>
      ((state.settleRecreated backend key resource.zoneName).2.settle backend key address
        resource).1

theorem result_process_of_buried {address : Address} {found : Option Resource}
    {asked : Dispatcher σ} (addressed : key.address = .ok address)
    (answered : state.lookup backend key = (.ok found, asked))
    (buried : asked.tombstones.get? key = some gone) :
    (state.process backend key).1 =
      afterDeletion key (backend.handle .deleted gone asked.world).1
        (asked.endingAfterDeletion backend key address found) := by
  rw [process_result]
  cases found with
  | none =>
      rw [reconcile_of_absent addressed answered]
      exact result_handleDeletion_of_buried buried
  | some resource =>
      have deleted : (asked.settleRecreated backend key resource.zoneName).1 = _ :=
        result_settleRecreated_of_buried buried
      unfold afterDeletion at deleted ⊢
      cases replied : (backend.handle .deleted gone asked.world).1.result with
      | error error =>
          rw [replied] at deleted
          rw [reconcile_of_failed addressed answered (Prod.ext deleted rfl)]
      | ok =>
          rw [replied] at deleted
          rw [reconcile_of_settled addressed answered (Prod.ext deleted rfl)]
          rfl

/-- Whatever fails, a pass that finds its object takes in the keys to which it hands over a name,
and gives its key back. -/
theorem exists_takesIn_process {found : Option Resource}
    (running : state.queue.shuttingDown = false) (unbroken : state.isBroken = false)
    (answered : (state.lookup backend key).1 = .ok found) :
    ∃ fresh queue, WorkQueue.TakesIn fresh state.queue queue ∧
      (state.process backend key).2.queue = queue.done key ∧
      ∀ other, other ∈ fresh ↔
        other ∈ state.handedOver backend key ∧ other ∉ state.queue.dirty := by
  have answers : ∀ address source, key.address = .ok address →
      (state.lookup backend key).1 ≠ .error source := by
    rintro - source - failed
    rw [answered] at failed
    contradiction
  have stillUnbroken : (state.process backend key).2.isBroken = false := by
    rw [process_isBroken, isBroken_of_acts (acts_reconcile answers)]
    exact unbroken
  obtain ⟨fresh, taken, fresh_iff⟩ :=
    WorkQueue.exists_takesIn_addAll running (state.handedOver backend key)
  refine ⟨fresh, _, taken.forget key, ?_, fresh_iff⟩
  rw [process_queue_of_unbroken stillUnbroken, queue_reconcile answers]

theorem mem_handedOver_iff {address : Address} {found : Option Resource} {asked : Dispatcher σ}
    (addressed : key.address = .ok address)
    (answered : state.lookup backend key = (.ok found, asked))
    (buried : asked.tombstones.get? key = some gone) (ofZone : gone.kind = .zone) :
    other ∈ state.handedOver backend key ↔
      (∀ resource ∈ found, gone.zoneName ≠ resource.zoneName) ∧
        other ∈ backend.heirs gone (backend.handle .deleted gone asked.world).2 := by
  rw [← mem_bequests_iff buried ofZone]
  simp only [handedOver, addressed, answered]

/-- A pass that knows of the deletion of a zone hands over the name of this zone if there is no
object under its key any more, or one that declares another name.  Whether or not the deletion
succeeds, it takes in exactly the keys of the zones that a listing of the namespace shows to be
heirs, each once and unless it is dirty already; if the listing fails or there is nothing to hand
over, it takes in none.  Either way the pass ends as the deletion and what was found let it end, and
the deletion is not known any more. -/
theorem hands_over_exactly {address : Address} {found : Option Resource} {asked : Dispatcher σ}
    {reply : Reply} {world : σ} (running : state.queue.shuttingDown = false)
    (unbroken : state.isBroken = false) (addressed : key.address = .ok address)
    (buried : state.tombstones.get? key = some gone) (ofZone : gone.kind = .zone)
    (answered : state.lookup backend key = (.ok found, asked))
    (deleted : backend.handle .deleted gone asked.world = (reply, world)) :
    (∃ fresh queue, WorkQueue.TakesIn fresh state.queue queue ∧
      (state.process backend key).2.queue = queue.done key ∧
      ∀ other, other ∈ fresh ↔ other ∉ state.queue.dirty ∧
        (∀ resource ∈ found, gone.zoneName ≠ resource.zoneName) ∧
        ∃ space zones, gone.space? = some space ∧
          (backend.list .zone space world).1 = .ok zones ∧ IsHeir gone zones other) ∧
    (state.process backend key).1 =
      afterDeletion key reply (asked.endingAfterDeletion backend key address found) ∧
    (state.process backend key).2.tombstones.get? key = none := by
  have answer : (state.lookup backend key).1 = .ok found := congrArg Prod.fst answered
  have sameTombstones : (state.lookup backend key).2.tombstones = state.tombstones := rfl
  rw [answered] at sameTombstones
  rw [← sameTombstones] at buried
  refine ⟨?_, ?_, ?_⟩
  · obtain ⟨fresh, queue, taken, given, fresh_iff⟩ :=
      exists_takesIn_process running unbroken answer
    refine ⟨fresh, queue, taken, given, fun other => ?_⟩
    rw [fresh_iff, mem_handedOver_iff addressed answered buried ofZone, deleted, mem_heirs_iff,
      and_comm]
  · rw [result_process_of_buried addressed answered buried, deleted]
  · obtain ⟨-, -, -, -, -, unburied⟩ := delivered_of_answered addressed answer
    exact unburied

/-- A zone was deleted and made again under another name, its deletion fails, and of the two other
claimants of the old name one is queued already. -/
def refused : Dispatcher World :=
  let zones := [("a", Sample.zone "a" 4 "y"), ("b", Sample.zone "b" 2 "x"),
    ("c", Sample.zone "c" 3 "x")]
  let objects := Table.ofList (zones.map fun (name, zone) => (⟨name, some "team"⟩, zone))
  let world : World :=
    { zones := { store := { objects } }, faults := { calls := [(.deleted, "a")] } }
  let observed := Dispatcher.observe (.applied ⟨"team/b", .zone⟩) <|
    Dispatcher.observe (.deleted (Sample.zone "a" 1 "x"))
      { queue := .withBackoff .standard, world }
  { observed with queue := WorkQueue.Call.run observed.queue .get }

theorem hands_over_exactly_refused :
    ∃ fresh queue, WorkQueue.TakesIn fresh refused.queue queue ∧
      (refused.process World.backend ⟨"team/a", .zone⟩).2.queue = queue.done ⟨"team/a", .zone⟩ ∧
      ⟨"team/b", .zone⟩ ∉ fresh ∧ ⟨"team/c", .zone⟩ ∈ fresh ∧
      (refused.process World.backend ⟨"team/a", .zone⟩).1 =
        .error (.handler "team/a" (.render "a" (.reported "injected"))) := by
  have addressed : ResourceKey.address ⟨"team/a", .zone⟩ = .ok ⟨"team", "a"⟩ := by decide
  have buried : refused.tombstones.get? ⟨"team/a", .zone⟩ = some (Sample.zone "a" 1 "x") := by
    decide +kernel
  have answered : refused.lookup World.backend ⟨"team/a", .zone⟩ =
      (.ok (some (Sample.zone "a" 4 "y")), refused) := rfl
  obtain ⟨⟨fresh, queue, taken, given, fresh_iff⟩, result, -⟩ :=
    hands_over_exactly rfl rfl addressed buried rfl answered rfl
  refine ⟨fresh, queue, taken, given, ?_, ?_, result⟩
  · exact fun queued => ((fresh_iff _).1 queued).1 (by decide +kernel)
  · refine (fresh_iff _).2 ⟨by decide +kernel, by decide, "team", _, rfl, rfl, ?_⟩
    exact ⟨Sample.zone "c" 3 "x", by decide +kernel, by decide, by decide, by decide⟩

end Dispatcher

end ZoneKeeper
