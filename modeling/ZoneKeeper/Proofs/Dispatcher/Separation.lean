import ZoneKeeper.Proofs.Dispatcher.Deliveries
import ZoneKeeper.Proofs.Dispatcher.Reflection

/-!
# Records never influence zones

Zones and records share the queue with its limiter and its clock, and the tombstones.  Still a run
of the dispatcher stays a run if all that concerns records is left out of it: the events, the
changes of their cache and their handler, the firings and the passes.  What concerns zones stays as
it was, result by result and call by call.
-/

namespace ZoneKeeper

/-- The kind of the object that an event is about. -/
def WatchEvent.kind : WatchEvent → Kind
  | .applied key => key.kind
  | .deleted gone => gone.kind

namespace Dispatcher

/-- What happens to a dispatcher over two branches. -/
inductive Occurrence (σ τ : Type) where
  | observed (event : WatchEvent)
  | zonesChanged (world : σ)
  | recordsChanged (world : τ)
  | fired (timer : Timer ResourceKey)
  /-- The clock moves, and all that is due by then fires. -/
  | elapsed (instant : Duration)
  | stopped
  /-- A pass ends with a result, after some calls, and then its key counts some failures. -/
  | passed (key : ResourceKey) (result : Except ReconcileError Outcome) (failures : Nat)
      (calls : List HandlerCall)

/-- The kind that something concerns, unless it concerns both. -/
def Occurrence.kind? {σ τ : Type} : Occurrence σ τ → Option Kind
  | .observed event => some event.kind
  | .zonesChanged _ => some .zone
  | .recordsChanged _ => some .record
  | .fired timer => some timer.key.kind
  | .elapsed _ | .stopped => none
  | .passed key _ _ _ => some key.kind

/-- A trace from which all is left out that concerns records. -/
def withoutRecords {σ τ : Type} (trace : List (Occurrence σ τ)) : List (Occurrence σ τ) :=
  trace.filter fun occurrence => occurrence.kind? ≠ some .record

/-- What becomes of a new dispatcher: it observes events and runs a pass for the key that comes
first, the worlds of zones and of records change in any way, delayed additions fire, and the queue
is shut down. -/
inductive Run {σ τ : Type} (zones : Branch .zone σ) (records : Branch .record τ)
    (backoff : Backoff) (world : σ × τ) : List (Occurrence σ τ) → Dispatcher (σ × τ) → Prop
  | start : Run zones records backoff world [] { queue := .withBackoff backoff, world }
  | observe {trace : List (Occurrence σ τ)} {state : Dispatcher (σ × τ)}
      (earlier : Run zones records backoff world trace state) (event : WatchEvent) :
      Run zones records backoff world (trace ++ [.observed event]) (state.observe event)
  | changeZones {trace : List (Occurrence σ τ)} {state : Dispatcher (σ × τ)}
      (earlier : Run zones records backoff world trace state) (changed : σ) :
      Run zones records backoff world (trace ++ [.zonesChanged changed])
        { state with world := (changed, state.world.2) }
  | changeRecords {trace : List (Occurrence σ τ)} {state : Dispatcher (σ × τ)}
      (earlier : Run zones records backoff world trace state) (changed : τ) :
      Run zones records backoff world (trace ++ [.recordsChanged changed])
        { state with world := (state.world.1, changed) }
  | fire {trace : List (Occurrence σ τ)} {state : Dispatcher (σ × τ)}
      (earlier : Run zones records backoff world trace state) {timer : Timer ResourceKey}
      (pending : timer ∈ state.queue.timers) :
      Run zones records backoff world (trace ++ [.fired timer])
        { state with queue := state.queue.fire timer }
  | elapse {trace : List (Occurrence σ τ)} {state : Dispatcher (σ × τ)}
      (earlier : Run zones records backoff world trace state) (instant : Duration) :
      Run zones records backoff world (trace ++ [.elapsed instant])
        { state with queue := state.queue.advanceTo instant }
  | stop {trace : List (Occurrence σ τ)} {state : Dispatcher (σ × τ)}
      (earlier : Run zones records backoff world trace state) :
      Run zones records backoff world (trace ++ [.stopped])
        { state with queue := state.queue.shutDown }
  | pass {trace : List (Occurrence σ τ)} {state after : Dispatcher (σ × τ)}
      (earlier : Run zones records backoff world trace state) (unbroken : state.isBroken = false)
      {key : ResourceKey} {result : Except ReconcileError Outcome} {calls : List HandlerCall}
      (stepped : state.step (zones.beside records) = some (key, result, after))
      (called : after.calls = state.calls ++ calls) :
      Run zones records backoff world
        (trace ++ [.passed key result (after.queue.requeues key) calls]) after

section Steps

variable {σ : Type} {backend : Backend σ} {key : ResourceKey} {state after : Dispatcher σ}
  {result : Except ReconcileError Outcome}

/-- A step is a pass for the key that comes first. -/
theorem exists_take_of_step (stepped : state.step backend = some (key, result, after)) :
    ∃ rest, state.queue.take? = some (key, rest) ∧
      Dispatcher.process backend key { state with queue := rest } = (result, after) := by
  obtain ⟨⟨taken, rest⟩, takenEq, processed⟩ := Option.map_eq_some_iff.1 stepped
  obtain ⟨rfl, same⟩ := Prod.mk.inj processed
  exact ⟨rest, takenEq, same⟩

theorem step_of_take {rest : WorkQueue ResourceKey} (taken : state.queue.take? = some (key, rest)) :
    state.step backend =
      some (key, Dispatcher.process backend key { state with queue := rest }) := by
  rw [step, taken]
  rfl

end Steps

variable {σ τ : Type} {zones : Branch .zone σ} {records : Branch .record τ} {backoff : Backoff}
  {world : σ × τ} {trace : List (Occurrence σ τ)} {state shadow : Dispatcher (σ × τ)}

theorem withoutRecords_concat (trace : List (Occurrence σ τ)) {occurrence : Occurrence σ τ}
    (apart : occurrence.kind? ≠ some .record) :
    withoutRecords (trace ++ [occurrence]) = withoutRecords trace ++ [occurrence] := by
  simp [withoutRecords, apart]

theorem withoutRecords_concat_of_record (trace : List (Occurrence σ τ))
    {occurrence : Occurrence σ τ} (ofRecord : occurrence.kind? = some .record) :
    withoutRecords (trace ++ [occurrence]) = withoutRecords trace := by
  simp [withoutRecords, ofRecord]

/-- A run is a history. -/
theorem Run.history (run : Run zones records backoff world trace state) :
    ∃ moments, History (zones.beside records) moments state := by
  induction run with
  | start => exact ⟨[], .start backoff world⟩
  | observe _ event ih =>
      obtain ⟨moments, history⟩ := ih
      exact ⟨_, history.observe event⟩
  | changeZones | changeRecords =>
      rename_i ih
      obtain ⟨moments, history⟩ := ih
      exact ⟨moments, history.change _⟩
  | fire _ pending ih =>
      obtain ⟨moments, history⟩ := ih
      exact ⟨moments, history.ask (.fire _) pending (by simp)⟩
  | elapse _ instant ih =>
      obtain ⟨moments, history⟩ := ih
      exact ⟨moments, history.ask (.advanceTo instant) trivial (by simp)⟩
  | stop _ ih =>
      obtain ⟨moments, history⟩ := ih
      exact ⟨moments, history.ask .shutDown trivial (by simp)⟩
  | @pass _ state after _ unbroken key result calls stepped called ih =>
      obtain ⟨moments, history⟩ := ih
      obtain ⟨rest, taken, processed⟩ := exists_take_of_step stepped
      have handedOut : WorkQueue.Call.run state.queue .get = rest := by
        simp [WorkQueue.Call.run, taken]
      have asked := history.ask .get trivial (by simp)
      rw [handedOut] at asked
      have held : key ∈ rest.processing := by
        obtain ⟨line, -, rfl⟩ := WorkQueue.take?_eq_some_iff.1 taken
        exact List.mem_insert_self
      have afterEq := congrArg Prod.snd processed
      dsimp only at afterEq
      rw [← afterEq] at called ⊢
      exact ⟨_, asked.pass held unbroken called⟩

/-- What is kept under a key is of the kind of the key. -/
theorem Run.kind_of_buried (run : Run zones records backoff world trace state) {key : ResourceKey}
    {gone : Resource} (buried : state.tombstones.get? key = some gone) : gone.kind = key.kind := by
  obtain ⟨moments, history⟩ := run.history
  exact (Resource.key_kind (history.key_of_buried buried)).symm

namespace Reflects

theorem observe (reflects : Reflects state shadow) {event : WatchEvent}
    (ofZone : event.kind = .zone) : Reflects (state.observe event) (shadow.observe event) := by
  cases event with
  | applied key =>
      have enqueued := reflects.enqueue ofZone
      exact ⟨enqueued.queue, enqueued.world, enqueued.calls, enqueued.buried⟩
  | deleted gone =>
      cases keyed : gone.key with
      | error fault =>
          rw [observe_unaddressable keyed, observe_unaddressable keyed]
          exact ⟨reflects.queue, reflects.world, reflects.calls, reflects.buried⟩
      | ok key =>
          have isOwn := ResourceKey.isOfZone_of_zone ((Resource.key_kind keyed).trans ofZone)
          rw [observe_deleted keyed, observe_deleted keyed]
          refine ⟨reflects.queue.add isOwn, reflects.world, reflects.calls, ?_⟩
          intro other otherOfZone
          simp only [showDepth, Dispatcher.enqueue, Table.get?_insert,
            reflects.buried other otherOfZone]

theorem observe_of_record (reflects : Reflects state shadow) {event : WatchEvent}
    (ofRecord : event.kind = .record) : Reflects (state.observe event) shadow := by
  cases event with
  | applied key =>
      have foreign : key.isOfZone = false := ResourceKey.isOfZone_of_record ofRecord
      exact ⟨reflects.queue.add_of_foreign foreign, reflects.world, reflects.calls,
        reflects.buried⟩
  | deleted gone =>
      cases keyed : gone.key with
      | error fault =>
          rw [observe_unaddressable keyed]
          exact ⟨reflects.queue, reflects.world, reflects.calls, reflects.buried⟩
      | ok key =>
          have kindEq : key.kind = .record := (Resource.key_kind keyed).trans ofRecord
          have foreign := ResourceKey.isOfZone_of_record kindEq
          rw [observe_deleted keyed]
          refine ⟨reflects.queue.add_of_foreign foreign, reflects.world, reflects.calls, ?_⟩
          intro other ofZone
          have apart : key ≠ other := by
            rintro rfl
            rw [kindEq] at ofZone
            contradiction
          simp only [showDepth, Dispatcher.enqueue, Table.get?_insert, if_neg apart]
          exact reflects.buried other ofZone

end Reflects

theorem reflects_start (backoff : Backoff) (world : σ × τ) :
    Reflects { queue := .withBackoff backoff, world } { queue := .withBackoff backoff, world } :=
  ⟨WorkQueue.restricts_withBackoff _ backoff, rfl, rfl, fun _ _ => rfl⟩

theorem suits_of_step {after : Dispatcher (σ × τ)} {key : ResourceKey}
    {result : Except ReconcileError Outcome} {calls : List HandlerCall}
    (buried : ∀ gone, state.tombstones.get? key = some gone → gone.kind = key.kind)
    (stepped : state.step (zones.beside records) = some (key, result, after))
    (called : after.calls = state.calls ++ calls) : ∀ call ∈ calls, call.Suits key.kind := by
  obtain ⟨rest, -, processed⟩ := exists_take_of_step stepped
  have suited : Suited key.kind { state with queue := rest } _ :=
    suited_process zones records buried
  rw [processed] at suited
  obtain ⟨same, calledToo, suits⟩ := suited
  obtain rfl : same = calls := List.append_cancel_left (calledToo.symm.trans called)
  exact suits

/-- A step for a zone can be taken without the records as well. -/
theorem Reflects.step (reflects : Reflects state shadow) {after : Dispatcher (σ × τ)}
    {key : ResourceKey} {result : Except ReconcileError Outcome} (ofZone : key.kind = .zone)
    (buried : ∀ gone, state.tombstones.get? key = some gone → gone.kind = .zone)
    (unbroken : state.isBroken = false) (unbrokenToo : shadow.isBroken = false)
    (stepped : state.step (zones.beside records) = some (key, result, after)) :
    ∃ shadowAfter, shadow.step (zones.beside records) = some (key, result, shadowAfter) ∧
      Reflects after shadowAfter ∧ shadowAfter.isBroken = after.isBroken := by
  have isOwn := ResourceKey.isOfZone_of_zone ofZone
  obtain ⟨rest, taken, processed⟩ := exists_take_of_step stepped
  obtain ⟨shadowRest, shadowTaken, restricts⟩ := reflects.queue.take isOwn taken
  have taking : Reflects { state with queue := rest } { shadow with queue := shadowRest } :=
    ⟨restricts, reflects.world, reflects.calls, reflects.buried⟩
  have alike := taking.process zones records ofZone buried unbroken unbrokenToo
  have sameEnd := taking.isBroken_reconcile zones records ofZone unbroken unbrokenToo
  rw [← process_isBroken, ← process_isBroken, processed] at sameEnd
  rw [processed] at alike
  refine ⟨_, (step_of_take shadowTaken).trans ?_, alike.reflects, sameEnd⟩
  exact congrArg (fun outcome => some (key, outcome)) (Prod.ext alike.result rfl)

theorem Reflects.step_of_record (reflects : Reflects state shadow) {after : Dispatcher (σ × τ)}
    {key : ResourceKey} {result : Except ReconcileError Outcome} (ofRecord : key.kind = .record)
    (buried : ∀ gone, state.tombstones.get? key = some gone → gone.kind = .record)
    (stepped : state.step (zones.beside records) = some (key, result, after)) :
    Reflects after shadow := by
  have foreign := ResourceKey.isOfZone_of_record ofRecord
  obtain ⟨rest, taken, processed⟩ := exists_take_of_step stepped
  have taking : Reflects { state with queue := rest } shadow :=
    ⟨reflects.queue.take_of_foreign foreign taken, reflects.world, reflects.calls, reflects.buried⟩
  have reflectsAfter := taking.process_of_record zones records ofRecord buried
  rw [processed] at reflectsAfter
  exact reflectsAfter

/-- Without what concerns records a trace is that of a run, which ends with the same of the zones.
A pass for a record may break a dispatcher off, but not the one that runs no such pass. -/
def HasShadow (zones : Branch .zone σ) (records : Branch .record τ) (backoff : Backoff)
    (world : σ × τ) (trace : List (Occurrence σ τ)) (state : Dispatcher (σ × τ)) : Prop :=
  ∃ shadow, Run zones records backoff world (withoutRecords trace) shadow ∧
    Reflects state shadow ∧ (state.isBroken = false → shadow.isBroken = false)

namespace HasShadow

theorem observe (shadowed : HasShadow zones records backoff world trace state)
    (event : WatchEvent) :
    HasShadow zones records backoff world (trace ++ [.observed event]) (state.observe event) := by
  obtain ⟨shadow, run, reflects, unbroken⟩ := shadowed
  have sameEnd := (observed_observe event state).isBroken
  cases kindEq : event.kind with
  | zone =>
      have sameEndToo := (observed_observe event shadow).isBroken
      rw [HasShadow, withoutRecords_concat _ (by simp [Occurrence.kind?, kindEq])]
      refine ⟨_, run.observe event, reflects.observe kindEq, ?_⟩
      rw [sameEnd, sameEndToo]
      exact unbroken
  | record =>
      rw [HasShadow, withoutRecords_concat_of_record _ (by simp [Occurrence.kind?, kindEq])]
      refine ⟨shadow, run, reflects.observe_of_record kindEq, ?_⟩
      rw [sameEnd]
      exact unbroken

theorem changeZones (shadowed : HasShadow zones records backoff world trace state) (changed : σ) :
    HasShadow zones records backoff world (trace ++ [.zonesChanged changed])
      { state with world := (changed, state.world.2) } := by
  obtain ⟨shadow, run, reflects, unbroken⟩ := shadowed
  rw [HasShadow, withoutRecords_concat _ (by simp [Occurrence.kind?])]
  exact ⟨_, run.changeZones changed, ⟨reflects.queue, rfl, reflects.calls, reflects.buried⟩,
    unbroken⟩

theorem changeRecords (shadowed : HasShadow zones records backoff world trace state)
    (changed : τ) :
    HasShadow zones records backoff world (trace ++ [.recordsChanged changed])
      { state with world := (state.world.1, changed) } := by
  obtain ⟨shadow, run, reflects, unbroken⟩ := shadowed
  rw [HasShadow, withoutRecords_concat_of_record _ rfl]
  exact ⟨shadow, run, ⟨reflects.queue, reflects.world, reflects.calls, reflects.buried⟩, unbroken⟩

theorem fire (shadowed : HasShadow zones records backoff world trace state)
    {timer : Timer ResourceKey} (pending : timer ∈ state.queue.timers) :
    HasShadow zones records backoff world (trace ++ [.fired timer])
      { state with queue := state.queue.fire timer } := by
  obtain ⟨shadow, run, reflects, unbroken⟩ := shadowed
  cases kindEq : timer.key.kind with
  | zone =>
      have isOwn := ResourceKey.isOfZone_of_zone kindEq
      have pendingToo : timer ∈ shadow.queue.timers := by
        rw [reflects.queue.timers]
        exact List.mem_filter.2 ⟨pending, isOwn⟩
      rw [HasShadow, withoutRecords_concat _ (by simp [Occurrence.kind?, kindEq])]
      exact ⟨_, run.fire pendingToo,
        ⟨reflects.queue.fire isOwn, reflects.world, reflects.calls, reflects.buried⟩, unbroken⟩
  | record =>
      have foreign := ResourceKey.isOfZone_of_record kindEq
      rw [HasShadow, withoutRecords_concat_of_record _ (by simp [Occurrence.kind?, kindEq])]
      exact ⟨shadow, run, ⟨reflects.queue.fire_of_foreign foreign, reflects.world, reflects.calls,
        reflects.buried⟩, unbroken⟩

theorem elapse (shadowed : HasShadow zones records backoff world trace state)
    (instant : Duration) :
    HasShadow zones records backoff world (trace ++ [.elapsed instant])
      { state with queue := state.queue.advanceTo instant } := by
  obtain ⟨shadow, run, reflects, unbroken⟩ := shadowed
  rw [HasShadow, withoutRecords_concat _ (by simp [Occurrence.kind?])]
  exact ⟨_, run.elapse instant, ⟨reflects.queue.advanceTo instant, reflects.world, reflects.calls,
    reflects.buried⟩, unbroken⟩

theorem stop (shadowed : HasShadow zones records backoff world trace state) :
    HasShadow zones records backoff world (trace ++ [.stopped])
      { state with queue := state.queue.shutDown } := by
  obtain ⟨shadow, run, reflects, unbroken⟩ := shadowed
  rw [HasShadow, withoutRecords_concat _ (by simp [Occurrence.kind?])]
  exact ⟨_, run.stop, ⟨reflects.queue.shutDown, reflects.world, reflects.calls, reflects.buried⟩,
    unbroken⟩

theorem pass (shadowed : HasShadow zones records backoff world trace state)
    {after : Dispatcher (σ × τ)} {key : ResourceKey} {result : Except ReconcileError Outcome}
    {calls : List HandlerCall}
    (buried : ∀ gone, state.tombstones.get? key = some gone → gone.kind = key.kind)
    (unbroken : state.isBroken = false)
    (stepped : state.step (zones.beside records) = some (key, result, after))
    (called : after.calls = state.calls ++ calls) :
    HasShadow zones records backoff world
      (trace ++ [.passed key result (after.queue.requeues key) calls]) after := by
  obtain ⟨shadow, run, reflects, unbrokenToo⟩ := shadowed
  cases kindEq : key.kind with
  | zone =>
      have suits := suits_of_step buried stepped called
      rw [kindEq] at buried suits
      obtain ⟨shadowAfter, shadowStepped, reflectsAfter, sameEnd⟩ :=
        reflects.step kindEq buried unbroken (unbrokenToo unbroken) stepped
      have allOfZones : calls.filter HandlerCall.isOfZone = calls :=
        List.filter_eq_self.2 fun call present => decide_eq_true (suits call present).kind_eq
      have calledToo : shadowAfter.calls = shadow.calls ++ calls := by
        rw [reflectsAfter.calls, called, List.filter_append, allOfZones, reflects.calls]
      have passed := run.pass (unbrokenToo unbroken) shadowStepped calledToo
      rw [reflectsAfter.queue.requeues key (ResourceKey.isOfZone_of_zone kindEq)] at passed
      rw [HasShadow, withoutRecords_concat _ (by simp [Occurrence.kind?, kindEq])]
      exact ⟨shadowAfter, passed, reflectsAfter, sameEnd.trans⟩
  | record =>
      rw [kindEq] at buried
      rw [HasShadow, withoutRecords_concat_of_record _ (by simp [Occurrence.kind?, kindEq])]
      exact ⟨shadow, run, reflects.step_of_record kindEq buried stepped,
        fun _ => unbrokenToo unbroken⟩

end HasShadow

/-- Leaving out of a run what concerns records leaves a run. -/
theorem Run.hasShadow (run : Run zones records backoff world trace state) :
    HasShadow zones records backoff world trace state := by
  induction run with
  | start => exact ⟨_, .start, reflects_start backoff world, id⟩
  | observe _ event ih => exact ih.observe event
  | changeZones _ changed ih => exact ih.changeZones changed
  | changeRecords _ changed ih => exact ih.changeRecords changed
  | fire _ pending ih => exact ih.fire pending
  | elapse _ instant ih => exact ih.elapse instant
  | stop _ ih => exact ih.stop
  | pass earlier unbroken stepped called ih =>
      exact ih.pass (fun gone => earlier.kind_of_buried) unbroken stepped called

/-- Every pass of a run only calls the handler of the kind of its key. -/
theorem Run.suits (run : Run zones records backoff world trace state) {key : ResourceKey}
    {result : Except ReconcileError Outcome} {failures : Nat} {calls : List HandlerCall}
    (passed : .passed key result failures calls ∈ trace) : ∀ call ∈ calls, call.Suits key.kind := by
  induction run with
  | start => contradiction
  | pass earlier _ stepped called ih =>
      rcases List.mem_append.1 passed with before | last
      · exact ih before
      · obtain ⟨rfl, rfl, -, rfl⟩ := Occurrence.passed.inj (List.mem_singleton.1 last)
        exact suits_of_step (fun gone => earlier.kind_of_buried) stepped called
  | observe _ _ ih | changeZones _ _ ih | changeRecords _ _ ih | fire _ _ ih | elapse _ _ ih
  | stop _ ih =>
      rcases List.mem_append.1 passed with before | last
      · exact ih before
      · simp at last

/-- All that concerns records can be left out of a run.  What is left is a run with the same passes
for zones, which end alike after the same calls and leave the same failures counted; it ends with
the same failures and tombstones of zones, and has made the same calls for them.  And no pass for a
record calls the handler of the zones, or any handler for a creation. -/
theorem zones_undisturbed (run : Run zones records backoff world trace state) :
    (∃ shadow, Run zones records backoff world (withoutRecords trace) shadow ∧
      (∀ key : ResourceKey, key.kind = .zone →
        shadow.queue.requeues key = state.queue.requeues key ∧
          shadow.tombstones.get? key = state.tombstones.get? key) ∧
      shadow.calls = state.calls.filter HandlerCall.isOfZone) ∧
    ∀ key result failures calls, .passed key result failures calls ∈ trace →
      key.kind = .record → ∀ call ∈ calls,
        call.resource.kind = .record ∧ call.operation = .deleted := by
  obtain ⟨shadow, without, reflects, -⟩ := run.hasShadow
  refine ⟨⟨shadow, without, fun key ofZone => ?_, reflects.calls⟩, ?_⟩
  · exact ⟨reflects.queue.requeues key (ResourceKey.isOfZone_of_zone ofZone),
      reflects.buried key ofZone⟩
  · intro key result failures calls passed ofRecord call present
    have suits := run.suits passed call present
    exact ⟨suits.kind_eq.trans ofRecord, suits.deletes ofRecord⟩

end Dispatcher

namespace Sample

/-- A cache that holds some objects of a kind, and a handler that always replies the same. -/
def shelf (kind : Kind) (reply : Reply) : Branch kind (List (Resource.OfKind kind)) where
  lookup path objects :=
    (.ok (objects.find? fun object => object.1.path.toOption = some path), objects)
  list _ objects := (.ok objects, objects)
  handle _ _ objects := (reply, objects)
  hasSynced _ := true

abbrev zoneShelf : Branch .zone (List (Resource.OfKind .zone)) :=
  shelf .zone {}

/-- The handler of the records fails. -/
abbrev recordShelf : Branch .record (List (Resource.OfKind .record)) :=
  shelf .record (.failed (.template "none"))

def record (name : String) (created : Int) (zoneName : String) : Resource :=
  { zone name created zoneName with kind := .record }

abbrev Shelves : Type :=
  List (Resource.OfKind .zone) × List (Resource.OfKind .record)

def newcomer : Resource.OfKind .zone :=
  ⟨zone "a" 1 "x", rfl⟩

/-- A record is gone, and then a zone of the same namespace and name comes up. -/
def namesakes : Dispatcher Shelves :=
  let gone : Dispatcher Shelves := Dispatcher.observe (.deleted (record "a" 1 "x"))
    { queue := .withBackoff .standard, world := ([], []) }
  Dispatcher.observe (.applied ⟨"team/a", .zone⟩)
    { gone with world := ([newcomer], gone.world.2) }

/-- What is left when the next key has been served. -/
def served (state : Dispatcher Shelves) : Dispatcher Shelves :=
  (state.step (zoneShelf.beside recordShelf)).elim state fun step => step.2.2

/-- Serving a key continues a run. -/
theorem exists_run_served {trace : List (Dispatcher.Occurrence _ _)} {state : Dispatcher Shelves}
    {key : ResourceKey} {result : Except ReconcileError Outcome} {failures : Nat}
    (run : Dispatcher.Run zoneShelf recordShelf .standard ([], []) trace state)
    (unbroken : state.isBroken = false)
    (stepped : (state.step (zoneShelf.beside recordShelf)).map (fun step => (step.1, step.2.1)) =
      some (key, result))
    (counted : (served state).queue.requeues key = failures) :
    ∃ calls, Dispatcher.Run zoneShelf recordShelf .standard ([], [])
      (trace ++ [.passed key result failures calls]) (served state) := by
  obtain ⟨⟨taken, answer, after⟩, whole, same⟩ := Option.map_eq_some_iff.1 stepped
  obtain ⟨rfl, rfl⟩ := Prod.mk.inj same
  have servedEq : served state = after := by
    rw [served, whole]
    rfl
  obtain ⟨rest, processed⟩ := Dispatcher.exists_take_of_step whole
  obtain ⟨calls, called⟩ := (Dispatcher.kept_reconcile (zoneShelf.beside recordShelf) taken
    { state with queue := rest }).calls
  rw [← Dispatcher.process_calls, processed.2] at called
  rw [servedEq] at counted ⊢
  rw [← counted]
  exact ⟨calls, run.pass unbroken whole called.symm⟩

end Sample

namespace Dispatcher

/-- The failed pass for the record leaves no trace on the pass for the zone. -/
theorem zones_undisturbed_namesakes :
    ∃ failed settled shadow,
      Run Sample.zoneShelf Sample.recordShelf .standard ([], [])
        [.observed (.deleted (Sample.record "a" 1 "x")),
          .zonesChanged [Sample.newcomer], .observed (.applied ⟨"team/a", .zone⟩),
          .passed ⟨"team/a", .record⟩ (.error (.handler "team/a" (.template "none"))) 0 failed,
          .passed ⟨"team/a", .zone⟩ (.ok .synced) 0 settled]
        (Sample.served (Sample.served Sample.namesakes)) ∧
      Run Sample.zoneShelf Sample.recordShelf .standard ([], [])
        [.zonesChanged [Sample.newcomer], .observed (.applied ⟨"team/a", .zone⟩),
          .passed ⟨"team/a", .zone⟩ (.ok .synced) 0 settled] shadow ∧
      shadow.calls.map HandlerCall.request = [(.created, Sample.zone "a" 1 "x")] ∧
      ∀ call ∈ failed, call.resource.kind = .record ∧ call.operation = .deleted := by
  have begun : Run Sample.zoneShelf Sample.recordShelf .standard ([], []) _ Sample.namesakes :=
    ((Run.start.observe (.deleted (Sample.record "a" 1 "x"))).changeZones [Sample.newcomer]).observe
      (.applied ⟨"team/a", .zone⟩)
  have begunUnbroken : Sample.namesakes.isBroken = false := by decide +kernel
  have onceStepped : (Sample.namesakes.step (Sample.zoneShelf.beside Sample.recordShelf)).map
      (fun step => (step.1, step.2.1)) =
        some (⟨"team/a", .record⟩, .error (.handler "team/a" (.template "none"))) := by
    decide +kernel
  have onceCounted : (Sample.served Sample.namesakes).queue.requeues ⟨"team/a", .record⟩ = 0 := by
    decide +kernel
  have onceUnbroken : (Sample.served Sample.namesakes).isBroken = false := by decide +kernel
  have twiceStepped : ((Sample.served Sample.namesakes).step
      (Sample.zoneShelf.beside Sample.recordShelf)).map (fun step => (step.1, step.2.1)) =
        some (⟨"team/a", .zone⟩, .ok .synced) := by
    decide +kernel
  have twiceCounted : (Sample.served (Sample.served Sample.namesakes)).queue.requeues
      ⟨"team/a", .zone⟩ = 0 := by
    decide +kernel
  have created : ((Sample.served (Sample.served Sample.namesakes)).calls.filter
      HandlerCall.isOfZone).map HandlerCall.request = [(.created, Sample.zone "a" 1 "x")] := by
    decide +kernel
  obtain ⟨failed, once⟩ :=
    Sample.exists_run_served begun begunUnbroken onceStepped onceCounted
  obtain ⟨settled, twice⟩ :=
    Sample.exists_run_served once onceUnbroken twiceStepped twiceCounted
  generalize Sample.served (Sample.served Sample.namesakes) = final at twice created ⊢
  obtain ⟨⟨shadow, without, -, calls⟩, records⟩ := zones_undisturbed twice
  refine ⟨failed, settled, shadow, twice, without, ?_, ?_⟩
  · rw [calls]
    exact created
  · exact records ⟨"team/a", .record⟩ _ 0 failed
      (List.mem_append_left _ (List.mem_append_right _ List.mem_cons_self)) rfl

end Dispatcher

end ZoneKeeper
