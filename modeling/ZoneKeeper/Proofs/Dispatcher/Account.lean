import ZoneKeeper.Proofs.Dispatcher.HandOver
import ZoneKeeper.Proofs.Metrics.Counters

/-!
# The metrics of a history

A pass that ends is counted once, with how it ended; a failure of a handler and a key that is put
back are counted besides, wherever in the pass they come up.  So the metrics of a history are an
account of its passes: every counter is the number of the passes that ended in some way.
-/

namespace ZoneKeeper

namespace Dispatcher

/-- A pass that has ended: its key, and how it ended. -/
abbrev Ending := ResourceKey × Except ReconcileError Outcome

/-- What the parts of a pass for a key of some kind record, by how the pass ends after them: one
failure of a handler, one requeue, or nothing. -/
inductive Records (kind : Kind) (before : Metrics) :
    Except ReconcileError Outcome → Metrics → Prop
  | synced : Records kind before (.ok .synced) before
  | deleted : Records kind before (.ok .deleted) before
  | dropped {failure : ReconcileError} (drops : failure.outcome = .dropped) :
      Records kind before (.error failure) before
  | unlisted (path : String) (source : CacheError) :
      Records kind before (.error (.listing path source)) before
  | requeued (path : String) (attempt : Nat) (source : CacheError) :
      Records kind before (.error (.lookupRetrying path attempt source))
        (before.recordRequeue kind.name)
  | unhandled (path : String) (source : HandlerError) (operation : Operation) :
      Records kind before (.error (.handler path source))
        (before.recordHandlerError kind.name operation.name)

/-- A part that ends well records nothing. -/
theorem Records.eq_of_ok {kind : Kind} {before after : Metrics} {outcome : Outcome}
    (records : Records kind before (.ok outcome) after) : after = before := by
  generalize ended : Except.ok outcome = result at records
  cases records <;> first | rfl | contradiction

section Parts

variable {σ : Type} {backend : Backend σ} {key : ResourceKey} {state : Dispatcher σ}

theorem metrics_handOver_if (condition : Prop) [Decidable condition] (gone : Resource) :
    (if condition then state.handOver backend gone else state).metrics = state.metrics := by
  obtain ⟨queue, notices, world, same⟩ := exists_handOver_if_eq backend state condition gone
  rw [same]

theorem records_failHandler {before : Metrics} (same : state.metrics = before)
    (operation : Operation) (error : HandlerError) :
    Records key.kind before (.error (state.failHandler key operation error).1)
      (state.failHandler key operation error).2.metrics := by
  subst same
  exact .unhandled key.path error operation

theorem records_handleDeletion (backend : Backend σ) (key : ResourceKey) (state : Dispatcher σ) :
    Records key.kind state.metrics (state.handleDeletion backend key).1
      (state.handleDeletion backend key).2.metrics := by
  unfold handleDeletion
  split
  · exact .dropped rfl
  · rename_i gone _
    dsimp only
    generalize asked_eq : (((state.note .deletionDetected).call backend .deleted
      gone).2.dropTombstone key).forget key = asked
    have handed : (if gone.kind = .zone then asked.handOver backend gone else asked).metrics =
        state.metrics := by
      rw [metrics_handOver_if, ← asked_eq]
      rfl
    split
    · rw [handed]
      exact .deleted
    · exact records_failHandler handed .deleted _

/-- What was there before the object of the key is dealt with, as if the pass were to end well. -/
theorem records_settleRecreated (backend : Backend σ) (key : ResourceKey) (state : Dispatcher σ)
    (zoneName : String) :
    Records key.kind state.metrics
      ((state.settleRecreated backend key zoneName).1.map fun _ => .synced)
      (state.settleRecreated backend key zoneName).2.metrics := by
  unfold settleRecreated
  split
  · exact .synced
  · rename_i gone _
    dsimp only
    generalize asked_eq :
      (((state.dropTombstone key).note .recreated).call backend .deleted gone).2 = asked
    have handed : (if (gone.kind = .zone && gone.zoneName ≠ zoneName) = true then
        asked.handOver backend gone else asked).metrics = state.metrics := by
      rw [metrics_handOver_if, ← asked_eq]
      rfl
    split
    · rw [handed]
      exact .synced
    · exact records_failHandler handed .deleted _

theorem metrics_retire (zones : List Resource) :
    (state.retire backend zones).2.metrics = state.metrics := by
  induction zones generalizing state with
  | nil => rfl
  | cons zone zones ih =>
      have called : (state.call backend .deleted zone).2.metrics = state.metrics := rfl
      rw [retire]
      split
      · rename_i answered
        rw [answered] at called
        exact called
      · rename_i answered
        rw [answered] at called
        exact ih.trans called

theorem records_settleZone (backend : Backend σ) (key : ResourceKey) (state : Dispatcher σ)
    (zone : Resource) (zones : List Resource) :
    Records key.kind state.metrics (state.settleZone backend key zone zones).1
      (state.settleZone backend key zone zones).2.metrics := by
  unfold settleZone
  generalize canonical zone zones = owner
  dsimp only
  have called : ((if owner.nameAny ≠ zone.nameAny then
      state.note (.claimedByOlderZone zone.zoneName owner.nameAny) else state).call backend
        .created owner).2.metrics = state.metrics := by
    split <;> rfl
  split
  · rename_i answered
    rw [answered] at called
    exact records_failHandler called .created _
  · rename_i middle answered
    rw [answered] at called
    have retired : (middle.retire backend (superseded zone owner zones)).2.metrics =
      middle.metrics := metrics_retire _
    split
    · rename_i stopped
      rw [stopped] at retired
      exact records_failHandler (retired.trans called) .deleted _
    · rename_i after finished
      rw [finished] at retired
      have kept : (after.forget key).metrics = state.metrics := retired.trans called
      rw [kept]
      exact .synced

theorem records_settle (backend : Backend σ) (key : ResourceKey) (state : Dispatcher σ)
    (address : Address) (resource : Resource) :
    Records key.kind state.metrics (state.settle backend key address resource).1
      (state.settle backend key address resource).2.metrics := by
  have listed : (state.list backend key.kind address.space).2.metrics = state.metrics := rfl
  unfold settle
  split
  · rename_i source after answered
    rw [answered] at listed
    have kept : (after.forget key).metrics = state.metrics := listed
    rw [kept]
    exact .unlisted key.path source
  · rename_i others after answered
    rw [answered] at listed
    rw [← listed]
    split
    · exact records_settleZone backend key after resource others
    · exact .synced

/-- A pass that is not to be broken off counts it if it puts its key back. -/
theorem records_failLookup {source : CacheError}
    (unbroken : (state.failLookup key source).2.isBroken = false) :
    Records key.kind state.metrics (.error (state.failLookup key source).1)
      (state.failLookup key source).2.metrics := by
  unfold failLookup at unbroken ⊢
  dsimp only at unbroken ⊢
  split
  · rename_i again
    rw [if_pos again] at unbroken
    split
    · exact .requeued key.path _ source
    · rename_i undelayed
      rw [if_neg undelayed] at unbroken
      contradiction
  · exact .dropped rfl

theorem metrics_failLookup_of_broken {source : CacheError} (unbroken : state.isBroken = false)
    (broken : (state.failLookup key source).2.isBroken = true) :
    (state.failLookup key source).2.metrics = state.metrics := by
  unfold failLookup at broken ⊢
  dsimp only at broken ⊢
  split
  · rename_i again
    rw [if_pos again] at broken
    split
    · rename_i delayed
      rw [if_pos delayed] at broken
      exact absurd (unbroken.symm.trans broken) (by decide)
    · rfl
  · rfl

/-- A pass that does not break off records how it ends, besides that it has ended. -/
theorem records_reconcile (unbroken : (state.reconcile backend key).2.isBroken = false) :
    Records key.kind state.metrics (state.reconcile backend key).1
      (state.reconcile backend key).2.metrics := by
  cases addressed : key.address with
  | error fault =>
      rw [reconcile_of_malformed addressed]
      exact .dropped rfl
  | ok address =>
      have asked : (state.lookup backend key).2.metrics = state.metrics := rfl
      cases answered : state.lookup backend key with
      | mk answer after =>
          rw [answered] at asked
          cases answer with
          | error source =>
              have unanswered := congrArg Prod.fst answered
              rw [reconcile_of_unanswered addressed unanswered, answered] at unbroken ⊢
              exact asked ▸ records_failLookup unbroken
          | ok found =>
              cases found with
              | none =>
                  rw [reconcile_of_absent addressed answered, ← asked]
                  exact records_handleDeletion backend key after
              | some resource =>
                  have recreated := records_settleRecreated backend key after resource.zoneName
                  cases ended : after.settleRecreated backend key resource.zoneName with
                  | mk result middle =>
                      rw [ended, asked] at recreated
                      cases result with
                      | error failure =>
                          rw [reconcile_of_failed addressed answered ended]
                          exact recreated
                      | ok =>
                          rw [reconcile_of_settled addressed answered ended]
                          rw [← recreated.eq_of_ok]
                          exact records_settle backend key middle address resource

/-- A pass that breaks off records nothing. -/
theorem metrics_process_of_broken (unbroken : state.isBroken = false)
    (broken : (state.process backend key).2.isBroken = true) :
    (state.process backend key).2.metrics = state.metrics := by
  rw [process_isBroken] at broken
  unfold process
  dsimp only
  rw [if_pos broken]
  rcases acts_or_unanswered backend key state with acts | ⟨address, source, addressed, unanswered⟩
  · exact absurd ((isBroken_of_acts acts).symm.trans broken) (by simp [unbroken])
  · rw [reconcile_of_unanswered addressed unanswered] at broken ⊢
    have asked : (state.lookup backend key).2.isBroken = false := unbroken
    exact metrics_failLookup_of_broken asked broken

/-- A pass that ends is counted, and the number of waiting keys is published after it. -/
theorem metrics_process (unbroken : (state.process backend key).2.isBroken = false) :
    (state.process backend key).2.metrics =
      ((state.reconcile backend key).2.metrics.recordPass key.kind.name
        (outcomeOf (state.process backend key).1).name .zero).setQueueDepth
          (state.process backend key).2.queue.size := by
  rw [process_isBroken] at unbroken
  rw [process_result]
  unfold process
  dsimp only
  rw [if_neg (by simp [unbroken])]
  rfl

end Parts

def failedHandling : Except ReconcileError Outcome → Bool
  | .error (.handler ..) => true
  | _ => false

def failedListing : Except ReconcileError Outcome → Bool
  | .error (.listing ..) => true
  | _ => false

/-- How many passes for keys of a kind ended in some way. -/
def tally (kind : Kind) (ended : Except ReconcileError Outcome → Bool)
    (endings : List Ending) : Nat :=
  endings.countP fun ending => ending.1.kind = kind && ended ending.2

theorem tally_concat (kind : Kind) (ended : Except ReconcileError Outcome → Bool)
    (endings : List Ending) (key : ResourceKey) (result : Except ReconcileError Outcome) :
    tally kind ended (endings ++ [(key, result)]) =
      tally kind ended endings + if key.kind = kind && ended result then 1 else 0 := by
  simp [tally, List.countP_append, List.countP_singleton]

/-- Passes that ended in one of two ways are counted way by way. -/
theorem tally_add_tally {one other either : Except ReconcileError Outcome → Bool}
    {endings : List Ending} (kind : Kind)
    (apart : ∀ ending ∈ endings, (one ending.2 && other ending.2) = false)
    (covered : ∀ ending ∈ endings, (one ending.2 || other ending.2) = either ending.2) :
    tally kind one endings + tally kind other endings = tally kind either endings := by
  induction endings with
  | nil => rfl
  | cons ending endings ih =>
      have rest := ih (fun later present => apart later (List.mem_cons_of_mem ending present))
        fun later present => covered later (List.mem_cons_of_mem ending present)
      have once : ∀ here one other : Bool, (one && other) = false →
          (if here && one then 1 else 0) + (if here && other then 1 else 0) =
            if here && (one || other) then 1 else 0 := by
        decide
      have first := once (ending.1.kind = kind) _ _ (apart ending List.mem_cons_self)
      rw [covered ending List.mem_cons_self] at first
      unfold tally at rest ⊢
      simp only [List.countP_cons]
      omega

namespace Records

variable {kind : Kind} {before after : Metrics} {result : Except ReconcileError Outcome}

theorem passes_eq (records : Records kind before result after) : after.passes = before.passes := by
  cases records <;> rfl

theorem durations_eq (records : Records kind before result after) :
    after.durations = before.durations := by
  cases records <;> rfl

theorem filed (records : Records kind before result after)
    (filed : Metrics.Filed Metrics.handlerLabels before.handlerErrors) :
    Metrics.Filed Metrics.handlerLabels after.handlerErrors := by
  cases records with
  | synced | deleted | dropped | unlisted | requeued => exact filed
  | unhandled path source operation =>
      exact filed.incrementPair Metrics.distinct_handlerLabels
        (Metrics.mem_handlerLabels kind operation)

theorem requeuesOf (records : Records kind before result after) (other : Kind) :
    after.requeuesOf other = before.requeuesOf other +
      if kind = other && outcomeOf result = .retrying then 1 else 0 := by
  have kept (own operation : String) :
      (before.recordHandlerError own operation).requeuesOf other = before.requeuesOf other := rfl
  cases records with
  | synced | deleted | unlisted | unhandled => simp [outcomeOf, ReconcileError.outcome, kept]
  | dropped drops => simp [outcomeOf, drops]
  | requeued =>
      simp [outcomeOf, ReconcileError.outcome, Metrics.requeuesOf_recordRequeue]

theorem handlerErrorsOf (records : Records kind before result after)
    (filed : Metrics.Filed Metrics.handlerLabels before.handlerErrors) (other : Kind) :
    after.handlerErrorsOf other = before.handlerErrorsOf other +
      if kind = other && failedHandling result then 1 else 0 := by
  have kept (own : String) :
      (before.recordRequeue own).handlerErrorsOf other = before.handlerErrorsOf other := rfl
  cases records with
  | synced | deleted | unlisted | requeued => simp [failedHandling, kept]
  | @dropped failure drops =>
      cases failure <;> first | contradiction | simp [failedHandling]
  | unhandled path source operation =>
      simp [failedHandling, Metrics.handlerErrorsOf_recordHandlerError filed]

end Records

/-- The metrics tell how many passes have ended in which way, and nothing else. -/
structure Accounts (endings : List Ending) (metrics : Metrics) : Prop where
  passesFiled : Metrics.Filed Metrics.passLabels metrics.passes
  errorsFiled : Metrics.Filed Metrics.handlerLabels metrics.handlerErrors
  passes : ∀ chosen, Metrics.total metrics.passes chosen =
    endings.countP fun ending => chosen ending.1.kind.name (outcomeOf ending.2).name
  durations : ∀ kind, metrics.durationsOf kind = tally kind (fun _ => true) endings
  requeues : ∀ kind, metrics.requeuesOf kind =
    tally kind (fun result => outcomeOf result = .retrying) endings
  handlerErrors : ∀ kind, metrics.handlerErrorsOf kind = tally kind failedHandling endings
  /-- A pass that ends well has synced or deleted its object. -/
  endsWell : ∀ ending ∈ endings, ∀ outcome, ending.2 = .ok outcome →
    outcome = .synced ∨ outcome = .deleted

namespace Accounts

variable {endings : List Ending} {before after metrics : Metrics} {key : ResourceKey}
  {result : Except ReconcileError Outcome}

theorem empty : Accounts [] {} where
  passesFiled := Metrics.filed_empty _
  errorsFiled := Metrics.filed_empty _
  passes := fun _ => rfl
  durations := fun _ => rfl
  requeues := fun _ => rfl
  handlerErrors := fun _ => rfl
  endsWell := by simp

theorem setQueueDepth (accounts : Accounts endings metrics) (depth : Nat) :
    Accounts endings (metrics.setQueueDepth depth) :=
  ⟨accounts.passesFiled, accounts.errorsFiled, accounts.passes, accounts.durations,
    accounts.requeues, accounts.handlerErrors, accounts.endsWell⟩

/-- One more pass ends, and is counted with what its parts have recorded. -/
theorem concat (accounts : Accounts endings before) (records : Records key.kind before result after)
    (elapsed : Duration) : Accounts (endings ++ [(key, result)])
      (after.recordPass key.kind.name (outcomeOf result).name elapsed) where
  passesFiled := by
    have filed := records.passes_eq ▸ accounts.passesFiled
    exact filed.incrementPair Metrics.distinct_passLabels (Metrics.mem_passLabels _ _)
  errorsFiled := records.filed accounts.errorsFiled
  passes chosen := by
    rw [Metrics.total_recordPass (records.passes_eq ▸ accounts.passesFiled), records.passes_eq,
      accounts.passes, List.countP_append, List.countP_singleton]
  durations kind := by
    have counted : after.durationsOf kind = before.durationsOf kind := by
      rw [Metrics.durationsOf, records.durations_eq, Metrics.durationsOf]
    rw [Metrics.durationsOf_recordPass, counted, accounts.durations, tally_concat]
    simp
  requeues kind := by
    rw [tally_concat, ← accounts.requeues kind]
    exact records.requeuesOf kind
  handlerErrors kind := by
    rw [tally_concat, ← accounts.handlerErrors kind]
    exact records.handlerErrorsOf accounts.errorsFiled kind
  endsWell := by
    refine List.forall_mem_append.2 ⟨accounts.endsWell, ?_⟩
    rw [List.forall_mem_singleton]
    rintro outcome rfl
    cases records with
    | synced => exact Or.inl rfl
    | deleted => exact Or.inr rfl

variable (accounts : Accounts endings metrics) (kind : Kind)

include accounts

theorem passesOf_eq : metrics.passesOf kind = tally kind (fun _ => true) endings := by
  rw [Metrics.passesOf, accounts.passes]
  simp [tally, Metrics.kindName_inj]

theorem passesWith_eq (outcome : Outcome) : metrics.passesWith kind outcome =
    tally kind (fun result => outcomeOf result = outcome) endings := by
  rw [Metrics.passesWith, accounts.passes]
  simp [tally, Metrics.kindName_inj, Metrics.outcomeName_inj]

/-- A pass fails if its handler does, or if the objects of its namespace cannot be listed. -/
theorem handlerErrorsOf_add_tally :
    metrics.handlerErrorsOf kind + tally kind failedListing endings =
      metrics.passesWith kind .failed := by
  rw [accounts.handlerErrors, accounts.passesWith_eq]
  apply tally_add_tally
  · rintro ⟨key, result⟩ -
    cases result with
    | ok => rfl
    | error failure => cases failure <;> rfl
  · rintro ⟨key, result⟩ present
    cases result with
    | ok outcome =>
        rcases accounts.endsWell _ present outcome rfl with rfl | rfl <;> rfl
    | error failure => cases failure <;> rfl

theorem passesWith_synced_add_deleted :
    metrics.passesWith kind .synced + metrics.passesWith kind .deleted =
      tally kind Except.isOk endings := by
  rw [accounts.passesWith_eq, accounts.passesWith_eq]
  apply tally_add_tally
  · rintro ⟨key, result⟩ -
    cases outcomeOf result <;> rfl
  · rintro ⟨key, result⟩ present
    cases result with
    | ok outcome =>
        rcases accounts.endsWell _ present outcome rfl with rfl | rfl <;> rfl
    | error failure => cases failure <;> rfl

end Accounts

def Moment.ended? : Moment → Option Ending
  | .observed _ => none
  | .passed key result _ => some (key, result)

section History

variable {σ : Type} {backend : Backend σ} {trace : List Moment} {state : Dispatcher σ}

/-- The passes of a trace that have ended: one that has broken off is the last of them. -/
def endings (trace : List Moment) (state : Dispatcher σ) : List Ending :=
  let passes := trace.filterMap Moment.ended?
  if state.isBroken then passes.dropLast else passes

theorem endings_of_unbroken (unbroken : state.isBroken = false) :
    endings trace state = trace.filterMap Moment.ended? := by
  simp [endings, unbroken]

theorem endings_of_broken {key : ResourceKey} {result : Except ReconcileError Outcome}
    {calls : List HandlerCall} (broken : state.isBroken = true) :
    endings (trace ++ [.passed key result calls]) state = trace.filterMap Moment.ended? := by
  simp [endings, broken, Moment.ended?]

/-- After an event the number of waiting keys is published. -/
theorem metrics_observe (event : WatchEvent) (state : Dispatcher σ) :
    (state.observe event).metrics =
      state.metrics.setQueueDepth (state.observe event).queue.size := by
  cases event with
  | applied key => rfl
  | deleted gone =>
      cases keyed : gone.key with
      | error fault =>
          rw [observe_unaddressable keyed]
          rfl
      | ok key =>
          rw [observe_deleted keyed]
          rfl

theorem accounts_process {endings : List Ending} {key : ResourceKey}
    (accounts : Accounts endings state.metrics)
    (unbroken : (state.process backend key).2.isBroken = false) :
    Accounts (endings ++ [(key, (state.process backend key).1)])
      (state.process backend key).2.metrics := by
  have records := records_reconcile (process_isBroken backend key state ▸ unbroken)
  rw [metrics_process unbroken, process_result]
  exact (accounts.concat records .zero).setQueueDepth _

theorem History.accounts (history : History backend trace state) :
    Accounts (endings trace state) state.metrics := by
  induction history with
  | start => exact .empty
  | @observe trace state earlier event ih =>
      have same : endings (trace ++ [.observed event]) (state.observe event) =
          endings trace state := by
        have silent : [Moment.observed event].filterMap Moment.ended? = [] := rfl
        simp [endings, silent, (observed_observe event state).isBroken]
      rw [same, metrics_observe]
      exact ih.setQueueDepth _
  | ask _ _ _ _ ih => exact ih
  | change _ _ ih => exact ih
  | @pass trace state earlier key held unbroken calls called ih =>
      rw [endings_of_unbroken unbroken] at ih
      cases broken : (state.process backend key).2.isBroken with
      | true =>
          -- The pass counts for nothing, and it is not among the endings either.
          rw [metrics_process_of_broken unbroken broken, endings_of_broken broken]
          exact ih
      | false =>
          rw [endings_of_unbroken broken, List.filterMap_append]
          exact accounts_process ih broken

/-- For either kind, the passes are counted by their outcomes and by their durations, each once; a
requeue is counted exactly for the passes that put their key back, and a failure of a handler
exactly for those that ended with it, which together with those that could not list the objects of a
namespace are the failed ones; and the passes that ended well are those with which an object was
synced or deleted.  After every event and every pass, the published number of waiting keys is
right. -/
theorem History.metrics_add_up (history : History backend trace state) :
    (∀ kind,
      state.metrics.passesOf kind = tally kind (fun _ => true) (endings trace state) ∧
      state.metrics.durationsOf kind = tally kind (fun _ => true) (endings trace state) ∧
      (∀ outcome, state.metrics.passesWith kind outcome =
        tally kind (fun result => outcomeOf result = outcome) (endings trace state)) ∧
      state.metrics.requeuesOf kind = state.metrics.passesWith kind .retrying ∧
      state.metrics.handlerErrorsOf kind = tally kind failedHandling (endings trace state) ∧
      state.metrics.handlerErrorsOf kind + tally kind failedListing (endings trace state) =
        state.metrics.passesWith kind .failed ∧
      state.metrics.passesWith kind .synced + state.metrics.passesWith kind .deleted =
        tally kind Except.isOk (endings trace state)) ∧
    (∀ event, (state.observe event).metrics.queueDepth = (state.observe event).queue.size) ∧
    ∀ key, (state.process backend key).2.isBroken = false →
      (state.process backend key).2.metrics.queueDepth =
        (state.process backend key).2.queue.size := by
  have accounts := history.accounts
  refine ⟨fun kind => ⟨accounts.passesOf_eq kind, accounts.durations kind,
    accounts.passesWith_eq kind, ?_, accounts.handlerErrors kind,
    accounts.handlerErrorsOf_add_tally kind, accounts.passesWith_synced_add_deleted kind⟩, ?_, ?_⟩
  · rw [accounts.requeues, accounts.passesWith_eq]
  · intro event
    rw [metrics_observe]
    rfl
  · intro key unbroken
    rw [metrics_process unbroken]
    rfl

end History

/-- An event of a zone is observed, and its key is handed out, while something is made to fail. -/
def servedDespite (faults : Faults) (state : Dispatcher World) : Dispatcher World :=
  passedNext ⟨"team/a", .zone⟩
    { state.observe (.applied ⟨"team/a", .zone⟩) with world := { claimed with faults } }

theorem exists_history_servedDespite {trace : List Moment} {state : Dispatcher World}
    (history : History World.backend trace state) (faults : Faults)
    (next : ⟨"team/a", .zone⟩ ∈ (WorkQueue.Call.run
      (state.observe (.applied ⟨"team/a", .zone⟩)).queue .get).processing)
    (unbroken : state.isBroken = false) :
    ∃ longer, History World.backend longer (servedDespite faults state) :=
  exists_history_passedNext ((history.observe _).change { claimed with faults }) _ next
    ((observed_observe (.applied ⟨"team/a", .zone⟩) state).isBroken.trans unbroken)

/-- A zone can first not be looked up, then not be listed, then not be created, and is then
synced. -/
def troubled : Dispatcher World :=
  servedDespite {} <| servedDespite { calls := [(.created, "a")] } <|
    servedDespite { listings := [.zone] } <| servedDespite { lookups := [.zone] }
      { queue := .withBackoff .standard, world := claimed }

theorem exists_history_troubled : ∃ trace, History World.backend trace troubled := by
  have start : History World.backend [] _ := .start .standard claimed
  obtain ⟨_, unseen⟩ := exists_history_servedDespite start { lookups := [.zone] }
    (by decide +kernel) rfl
  obtain ⟨_, unlisted⟩ := exists_history_servedDespite unseen { listings := [.zone] }
    (by decide +kernel) (by decide +kernel)
  obtain ⟨_, uncreated⟩ := exists_history_servedDespite unlisted { calls := [(.created, "a")] }
    (by decide +kernel) (by decide +kernel)
  exact exists_history_servedDespite uncreated {} (by decide +kernel) (by decide +kernel)

/-- The metrics tell of four passes, and how each of them ended. -/
theorem metrics_add_up_troubled : ∃ trace, History World.backend trace troubled ∧
    tally .zone (fun _ => true) (endings trace troubled) = 4 ∧
    tally .zone (fun result => outcomeOf result = .retrying) (endings trace troubled) = 1 ∧
    tally .zone failedListing (endings trace troubled) = 1 ∧
    tally .zone failedHandling (endings trace troubled) = 1 ∧
    tally .zone Except.isOk (endings trace troubled) = 1 ∧
    troubled.metrics.requeuesOf .zone = 1 ∧
    tally .record (fun _ => true) (endings trace troubled) = 0 := by
  obtain ⟨trace, history⟩ := exists_history_troubled
  obtain ⟨whole, -, outcomes, requeues, errors, failed, succeeded⟩ :=
    history.metrics_add_up.1 .zone
  have ofRecord := (history.metrics_add_up.1 .record).1
  have failures : troubled.metrics.passesWith .zone .failed = 2 := by decide +kernel
  have handlerErrors : troubled.metrics.handlerErrorsOf .zone = 1 := by decide +kernel
  refine ⟨trace, history, ?_, ?_, ?_, ?_, ?_, ?_, ?_⟩
  · rw [← whole]
    decide +kernel
  · rw [← outcomes]
    decide +kernel
  · omega
  · rw [← errors, handlerErrors]
  · rw [← succeeded]
    decide +kernel
  · rw [requeues]
    decide +kernel
  · rw [← ofRecord]
    decide +kernel

end Dispatcher

end ZoneKeeper
