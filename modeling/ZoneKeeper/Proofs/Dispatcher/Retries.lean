import ZoneKeeper.Proofs.Dispatcher.Quiescence
import Mathlib.Data.List.DropRight

/-!
# Retries are bounded

A pass whose object cannot be looked up reports how many passes for its key have failed in a row,
and puts the key back, until it is given up.  Events and firings may add a key while other additions
of it are pending, and the failures of a key may be forgotten while some are pending: still the
passes for a key can be charged to the times that it was added from outside.
-/

namespace ZoneKeeper.Dispatcher

/-- What is told of a dispatcher: the events, and the passes with the answer of the look-up, the
result, and the keys to which a name was handed over. -/
inductive Incident where
  | observed (event : WatchEvent)
  | passed (key : ResourceKey) (answer : Except CacheError (Option Resource))
      (result : Except ReconcileError Outcome) (heirs : List ResourceKey)

namespace Incident

def result? (key : ResourceKey) : Incident → Option (Except ReconcileError Outcome)
  | .passed other _ result _ => if other = key then some result else none
  | .observed _ => none

/-- The keys that an event adds, or that a pass adds to hand over a name. -/
def added : Incident → List ResourceKey
  | .observed event => event.key?.toList
  | .passed _ _ _ heirs => heirs

end Incident

def results (key : ResourceKey) (trace : List Incident) : List (Except ReconcileError Outcome) :=
  trace.filterMap (Incident.result? key)

/-- How often a key is added by events and to hand over a name. -/
def additions (key : ResourceKey) (trace : List Incident) : Nat :=
  (trace.flatMap Incident.added).count key

/-- How many of the last passes in a row have put their key back. -/
def streak (results : List (Except ReconcileError Outcome)) : Nat :=
  (results.rtakeWhile fun result => outcomeOf result = .retrying).length

theorem results_concat (key : ResourceKey) (trace : List Incident) (incident : Incident) :
    results key (trace ++ [incident]) = results key trace ++ (incident.result? key).toList := by
  cases result : incident.result? key <;> simp [results, result]

theorem additions_concat (key : ResourceKey) (trace : List Incident) (incident : Incident) :
    additions key (trace ++ [incident]) = additions key trace + incident.added.count key := by
  simp [additions, List.flatMap_append]

theorem streak_concat (results : List (Except ReconcileError Outcome))
    (result : Except ReconcileError Outcome) :
    streak (results ++ [result]) =
      if outcomeOf result = .retrying then streak results + 1 else 0 := by
  unfold streak
  rw [List.rtakeWhile_concat]
  by_cases retrying : outcomeOf result = .retrying
  · simp [retrying]
  · simp [retrying]

variable {σ : Type}

/-- A dispatcher with a new queue that is never shut down: it observes events, its keys move on,
passes are run for the keys that are out, and the world changes in any way. -/
inductive Service (backend : Backend σ) : List Incident → Dispatcher σ → Prop
  | start (state : Dispatcher σ) {backoff : Backoff} (fresh : state.queue = .withBackoff backoff) :
      Service backend [] state
  | observe {trace : List Incident} {state : Dispatcher σ} (earlier : Service backend trace state)
      (event : WatchEvent) : Service backend (trace ++ [.observed event]) (state.observe event)
  | move {trace : List Incident} {state : Dispatcher σ} (earlier : Service backend trace state)
      (call : WorkQueue.Call ResourceKey) (moves : call.MovesOn state.queue) :
      Service backend trace { state with queue := call.run state.queue }
  | pass {trace : List Incident} {state : Dispatcher σ} (earlier : Service backend trace state)
      {key : ResourceKey} (held : key ∈ state.queue.processing)
      (unbroken : state.isBroken = false) :
      Service backend
        (trace ++ [.passed key (state.lookup backend key).1 (state.process backend key).1
          (state.handedOver backend key)])
        (state.process backend key).2
  | change {trace : List Incident} {state : Dispatcher σ} (earlier : Service backend trace state)
      (world : σ) : Service backend trace { state with world }

variable {backend : Backend σ} {key : ResourceKey} {state : Dispatcher σ} {trace : List Incident}

/-- What is said of a failed look-up after some failures in a row. -/
def verdict (key : ResourceKey) (failures : Nat) (source : CacheError) : ReconcileError :=
  if failures < maxRequeues then .lookupRetrying key.path (failures + 1) source
  else .lookupExhausted key.path failures source

theorem outcomeOf_verdict (key : ResourceKey) (failures : Nat) (source : CacheError) :
    outcomeOf (.error (verdict key failures source)) = .retrying ↔ failures < maxRequeues := by
  unfold verdict
  split
  · rename_i again
    simpa [outcomeOf, ReconcileError.outcome] using again
  · rename_i spent
    simpa [outcomeOf, ReconcileError.outcome] using spent

theorem process_result_of_unanswered {address : Address} {source : CacheError}
    (addressed : key.address = .ok address)
    (unanswered : (state.lookup backend key).1 = .error source) :
    (state.process backend key).1 = .error (verdict key (state.queue.requeues key) source) := by
  rw [process_result, reconcile_of_unanswered addressed unanswered]
  unfold failLookup verdict
  dsimp only
  rw [queue_lookup]
  split <;> rfl

theorem outcomeOf_handleDeletion :
    outcomeOf (state.handleDeletion backend key).1 ≠ .retrying := by
  unfold handleDeletion
  split
  · exact nofun
  · dsimp only
    split <;> exact nofun

theorem outcomeOf_settleRecreated {zoneName : String} {failure : ReconcileError}
    (failed : (state.settleRecreated backend key zoneName).1 = .error failure) :
    failure.outcome ≠ .retrying := by
  revert failed
  unfold settleRecreated
  split
  · exact nofun
  · dsimp only
    split
    · exact nofun
    · rintro ⟨⟩
      exact nofun

theorem outcomeOf_settleZone (zone : Resource) (zones : List Resource) :
    outcomeOf (state.settleZone backend key zone zones).1 ≠ .retrying := by
  unfold settleZone
  dsimp only
  split
  · exact nofun
  · split <;> exact nofun

theorem outcomeOf_settle (address : Address) (resource : Resource) :
    outcomeOf (state.settle backend key address resource).1 ≠ .retrying := by
  unfold settle
  split
  · exact nofun
  · split
    · exact outcomeOf_settleZone _ _
    · exact nofun

/-- Only a pass that cannot look its object up puts its key back. -/
theorem outcomeOf_process (answers : ∀ address source, key.address = .ok address →
      (state.lookup backend key).1 ≠ .error source) :
    outcomeOf (state.process backend key).1 ≠ .retrying := by
  rw [process_result]
  unfold reconcile
  split
  · exact nofun
  · rename_i address addressed
    split
    · rename_i answered
      exact absurd (congrArg Prod.fst answered) (answers address _ addressed)
    · exact outcomeOf_handleDeletion
    · split
      · rename_i failed
        exact outcomeOf_settleRecreated (congrArg Prod.fst failed)
      · exact outcomeOf_settle _ _

/-- What a pass reports, by what the passes for its key have reported before. -/
def Reports (key : ResourceKey) (earlier : List (Except ReconcileError Outcome))
    (answer : Except CacheError (Option Resource)) (result : Except ReconcileError Outcome) :
    Prop :=
  (∀ address source, key.address = .ok address → answer = .error source →
    result = .error (verdict key (streak earlier) source)) ∧
  ((∀ address source, key.address = .ok address → answer ≠ .error source) →
    outcomeOf result ≠ .retrying)

theorem reports_process {earlier : List (Except ReconcileError Outcome)}
    (counted : state.queue.requeues key = streak earlier) :
    Reports key earlier (state.lookup backend key).1 (state.process backend key).1 :=
  ⟨fun _ _ addressed unanswered => counted ▸ process_result_of_unanswered addressed unanswered,
    outcomeOf_process⟩

/-- Before the shutdown the failures that are counted are those in a row. -/
theorem requeues_process_self {earlier : List (Except ReconcileError Outcome)}
    (running : state.queue.shuttingDown = false)
    (unbroken : (state.process backend key).2.isBroken = false)
    (counted : state.queue.requeues key = streak earlier) :
    (state.process backend key).2.queue.requeues key =
      streak (earlier ++ [(state.process backend key).1]) := by
  rw [streak_concat]
  rcases answers_or_unanswered backend key state with
    answers | ⟨address, source, addressed, unanswered⟩
  · rw [requeues_process_of_answered answers, if_pos rfl, if_neg (outcomeOf_process answers)]
  · rw [requeues_process_of_unanswered addressed unanswered unbroken running,
      process_result_of_unanswered addressed unanswered]
    simp only [outcomeOf_verdict, counted]

/-- Whether or not it breaks off, a pass does not count beyond the limit. -/
theorem requeues_process_le (within : state.queue.requeues key ≤ maxRequeues) :
    (state.process backend key).2.queue.requeues key ≤ maxRequeues := by
  rcases answers_or_unanswered backend key state with
    answers | ⟨address, source, addressed, unanswered⟩
  · rw [requeues_process_of_answered answers, if_pos rfl]
    exact Nat.zero_le _
  · rw [requeues_process, queue_reconcile_of_unanswered addressed unanswered]
    split
    · rename_i again
      split
      · exact (WorkQueue.requeues_addRateLimited_le state.queue key).trans again
      · exact within
    · rw [WorkQueue.requeues_forget, if_pos rfl]
      exact Nat.zero_le _

namespace Service

theorem isSound (service : Service backend trace state) : state.queue.IsSound := by
  induction service with
  | start _ fresh =>
      rw [fresh]
      exact WorkQueue.isSound_withBackoff _
  | observe _ event sound => exact (observed_observe event _).sound sound
  | move _ call moves sound => exact sound.call call moves.isAllowed
  | pass _ held _ sound => exact isSound_process sound held
  | change _ _ sound => exact sound

theorem running (service : Service backend trace state) : state.queue.shuttingDown = false := by
  induction service with
  | start _ fresh =>
      rw [fresh]
      rfl
  | observe _ event running => exact (observed_observe event _).shuttingDown.trans running
  | move _ call moves running => exact (WorkQueue.shuttingDown_call moves).trans running
  | @pass _ state _ key _ _ running =>
      rw [process_queue]
      have kept := (kept_reconcile backend key state).shuttingDown
      split <;> exact kept.trans running
  | change _ _ running => exact running

theorem requeues_le (service : Service backend trace state) (key : ResourceKey) :
    state.queue.requeues key ≤ maxRequeues := by
  induction service with
  | start _ fresh =>
      rw [fresh]
      exact Nat.zero_le _
  | observe _ event within =>
      rw [queue_observe, WorkQueue.requeues_addAll]
      exact within
  | move _ call moves within => exact (WorkQueue.requeues_call moves key).trans_le within
  | @pass _ _ _ other _ _ within =>
      by_cases same : other = key
      · subst same
        exact requeues_process_le within
      · exact (requeues_process_of_ne same).trans_le within
  | change _ _ within => exact within

theorem results_passed_of_ne {other : ResourceKey} (apart : other ≠ key)
    (answer : Except CacheError (Option Resource)) (result : Except ReconcileError Outcome)
    (heirs : List ResourceKey) :
    results key (trace ++ [.passed other answer result heirs]) = results key trace := by
  simp [results_concat, Incident.result?, apart]

theorem results_passed (answer : Except CacheError (Option Resource))
    (result : Except ReconcileError Outcome) (heirs : List ResourceKey) :
    results key (trace ++ [.passed key answer result heirs]) = results key trace ++ [result] := by
  simp [results_concat, Incident.result?]

theorem results_observed (event : WatchEvent) :
    results key (trace ++ [.observed event]) = results key trace := by
  simp [results_concat, Incident.result?]

/-- As long as no pass has broken off, the failures of a key that are counted are those in a
row. -/
theorem requeues_eq (service : Service backend trace state) (unbroken : state.isBroken = false)
    (key : ResourceKey) : state.queue.requeues key = streak (results key trace) := by
  induction service with
  | start _ fresh =>
      rw [fresh]
      rfl
  | @observe _ state earlier event ih =>
      rw [(observed_observe event state).isBroken] at unbroken
      rw [queue_observe, WorkQueue.requeues_addAll, results_observed]
      exact ih unbroken
  | move _ call moves ih => exact (WorkQueue.requeues_call moves key).trans (ih unbroken)
  | @pass _ _ earlier other _ wasUnbroken ih =>
      by_cases same : other = key
      · subst same
        rw [results_passed]
        exact requeues_process_self earlier.running unbroken (ih wasUnbroken)
      · rw [results_passed_of_ne same]
        exact (requeues_process_of_ne same).trans (ih wasUnbroken)
  | change _ _ ih => exact ih unbroken

theorem reports (service : Service backend trace state) {key : ResourceKey}
    {before after : List Incident} {answer : Except CacheError (Option Resource)}
    {result : Except ReconcileError Outcome} {heirs : List ResourceKey}
    (split : trace = before ++ .passed key answer result heirs :: after) :
    Reports key (results key before) answer result := by
  induction service generalizing after with
  | start => simp at split
  | observe _ event ih =>
      rcases WorkQueue.concat_eq_append_cons_iff.1 split with ⟨-, last, -⟩ | ⟨rest, -, earlier⟩
      · cases last
      · exact ih earlier
  | move _ _ _ ih => exact ih split
  | pass earlier held unbroken ih =>
      rcases WorkQueue.concat_eq_append_cons_iff.1 split with ⟨-, last, rfl⟩ | ⟨rest, -, earlier⟩
      · cases last
        exact reports_process (earlier.requeues_eq unbroken key)
      · exact ih earlier
  | change _ _ ih => exact ih split

/-- As long as no pass has broken off, the passes for a key and its allowance are paid by the times
that it was added. -/
theorem passes_add_allowance_le (service : Service backend trace state)
    (unbroken : state.isBroken = false) (key : ResourceKey) :
    (results key trace).length + state.queue.allowance maxRequeues key ≤
      (maxRequeues + 1) * additions key trace := by
  induction service with
  | start _ fresh =>
      rw [fresh]
      exact Nat.zero_le _
  | @observe _ state earlier event ih =>
      rw [(observed_observe event state).isBroken] at unbroken
      have paid := ih unbroken
      have added := WorkQueue.outstanding_addAll_le state.queue event.key?.toList key
      have charged := WorkQueue.allowance_le_add maxRequeues added
        (WorkQueue.requeues_addAll state.queue _ key)
      rw [queue_observe, results_observed, additions_concat, Nat.mul_add]
      simp only [Incident.added]
      omega
  | move earlier call moves ih =>
      have spent := WorkQueue.allowance_le maxRequeues
        (WorkQueue.outstanding_call_le earlier.isSound moves key)
        (WorkQueue.requeues_call moves key)
      exact (Nat.add_le_add_left spent _).trans (ih unbroken)
  | @pass _ state earlier other held wasUnbroken ih =>
      have paid := ih wasUnbroken
      rw [additions_concat, Nat.mul_add]
      by_cases same : other = key
      · subst same
        have spent := allowance_process_lt held unbroken
        rw [results_passed, List.length_append, List.length_singleton]
        simp only [Incident.added]
        omega
      · have spent := allowance_process_le_of_ne same held unbroken
        rw [results_passed_of_ne same]
        simp only [Incident.added]
        omega
  | change _ _ ih => exact ih unbroken

theorem passes_le (service : Service backend trace state) (key : ResourceKey) :
    (results key trace).length ≤ (maxRequeues + 1) * additions key trace := by
  induction service with
  | start => exact Nat.zero_le _
  | observe _ event ih =>
      rw [results_observed, additions_concat, Nat.mul_add]
      exact ih.trans (Nat.le_add_right _ _)
  | move _ _ _ ih | change _ _ ih => exact ih
  | @pass _ state earlier other held unbroken ih =>
      rw [additions_concat, Nat.mul_add]
      by_cases same : other = key
      · -- A key that is out has an allowance left, which pays for its pass even if that breaks off.
        subst same
        have paid := earlier.passes_add_allowance_le unbroken other
        have left := WorkQueue.allowance_pos maxRequeues (outstanding_pos held)
        rw [results_passed, List.length_append, List.length_singleton]
        omega
      · rw [results_passed_of_ne same]
        exact ih.trans (Nat.le_add_right _ _)

end Service

def Incident.leavesUnanswered (key : ResourceKey) : Incident → Bool
  | .passed other (.ok _) _ _ => other ≠ key
  | _ => true

/-- No pass for a key can look its object up. -/
def Unanswered (key : ResourceKey) (trace : List Incident) : Prop :=
  ∀ incident ∈ trace, incident.leavesUnanswered key = true

instance (key : ResourceKey) (trace : List Incident) : Decidable (Unanswered key trace) :=
  inferInstanceAs (Decidable (∀ incident ∈ trace, incident.leavesUnanswered key = true))

theorem Unanswered.exists_error (unanswered : Unanswered key trace)
    {answer : Except CacheError (Option Resource)} {result : Except ReconcileError Outcome}
    {heirs : List ResourceKey} (present : .passed key answer result heirs ∈ trace) :
    ∃ source, answer = .error source := by
  have left := unanswered _ present
  cases answer with
  | error source => exact ⟨source, rfl⟩
  | ok => simp [Incident.leavesUnanswered] at left

theorem succ_turn (count : Nat) :
    (if count % (maxRequeues + 1) < maxRequeues then count % (maxRequeues + 1) + 1 else 0) =
      (count + 1) % (maxRequeues + 1) := by
  unfold maxRequeues
  split <;> omega

/-- The passes for a key that is never answered fail in turn, and start again when they have given
the key up. -/
theorem verdict_of_unanswered {address : Address} (addressed : key.address = .ok address)
    (reports : ∀ before answer result heirs after,
      trace = before ++ .passed key answer result heirs :: after →
        Reports key (results key before) answer result)
    (unanswered : Unanswered key trace) :
    streak (results key trace) = (results key trace).length % (maxRequeues + 1) ∧
      ∀ (turn : Nat) (result : Except ReconcileError Outcome),
        (results key trace)[turn]? = some result →
          ∃ source, result = .error (verdict key (turn % (maxRequeues + 1)) source) := by
  induction trace using List.reverseRecOn with
  | nil => exact ⟨rfl, by simp [results]⟩
  | append_singleton trace incident ih =>
      obtain ⟨inTurn, verdicts⟩ := ih
        (fun before answer result heirs after split =>
          reports before answer result heirs (after ++ [incident]) (by simp [split]))
        fun earlier present => unanswered earlier (List.mem_append_left _ present)
      cases passed : incident.result? key with
      | none => simpa [results_concat, passed] using ⟨inTurn, verdicts⟩
      | some result =>
          obtain ⟨answer, heirs, rfl⟩ :
              ∃ answer heirs, incident = .passed key answer result heirs := by
            cases incident with
            | observed => contradiction
            | passed other answer last heirs =>
                simp only [Incident.result?, Option.ite_none_right_eq_some, Option.some.injEq]
                  at passed
                exact ⟨answer, heirs, by rw [passed.1, passed.2]⟩
          obtain ⟨source, rfl⟩ := unanswered.exists_error
            (List.mem_append_right trace List.mem_cons_self)
          have failed := (reports trace _ result heirs [] rfl).1 address source addressed rfl
          rw [inTurn] at failed
          rw [Service.results_passed, streak_concat, List.length_append, List.length_singleton,
            inTurn, failed]
          simp only [outcomeOf_verdict]
          constructor
          · exact succ_turn _
          · intro turn last found
            rcases Nat.lt_or_ge turn (results key trace).length with early | late
            · rw [List.getElem?_append_left early] at found
              exact verdicts turn last found
            · rw [List.getElem?_append_right late, List.getElem?_singleton] at found
              obtain rfl : turn = (results key trace).length := by
                by_contra apart
                have beyond : turn - (results key trace).length ≠ 0 := by omega
                simp [beyond] at found
              simp only [Nat.sub_self, if_true, Option.some.injEq] at found
              exact ⟨source, found.symm⟩

/-- In every service of a new queue, a pass that puts its key back reports one attempt more than
passes for the key have put it back in a row before; the failures that are counted are never more
than five; and there are at most six passes for each time that an event adds the key or a name is
handed over to it.  If the object of a well-formed key can never be looked up, its passes report
the attempts one to five and then give the key up after five, again and again. -/
theorem Service.retries_bounded (service : Service backend trace state) (key : ResourceKey) :
    (∀ before answer path attempt source heirs after,
      trace = before ++
        .passed key answer (.error (.lookupRetrying path attempt source)) heirs :: after →
      path = key.path ∧ attempt = 1 + streak (results key before)) ∧
    state.queue.requeues key ≤ 5 ∧
    (results key trace).length ≤ 6 * additions key trace ∧
    ∀ address, key.address = .ok address → Unanswered key trace →
      ∀ (turn : Nat) (result : Except ReconcileError Outcome),
        (results key trace)[turn]? = some result → ∃ source,
          result = .error (if turn % 6 < 5 then .lookupRetrying key.path (turn % 6 + 1) source
            else .lookupExhausted key.path 5 source) := by
  refine ⟨?_, service.requeues_le key, service.passes_le key, ?_⟩
  · intro before answer path attempt source heirs after split
    obtain ⟨failing, answered⟩ := service.reports split
    have unanswered := mt answered (not_not_intro rfl)
    push Not at unanswered
    obtain ⟨address, fault, addressed, failed⟩ := unanswered
    have same := failing address fault addressed failed
    unfold verdict at same
    split at same
    · cases same
      exact ⟨rfl, Nat.add_comm _ _⟩
    · cases same
  · intro address addressed unanswered turn result found
    obtain ⟨source, rfl⟩ := (verdict_of_unanswered addressed
      (fun before answer result heirs after split => service.reports split) unanswered).2 turn
        result found
    refine ⟨source, congrArg Except.error ?_⟩
    by_cases again : turn % 6 < 5
    · rw [if_pos again]
      exact if_pos again
    · have last : turn % (maxRequeues + 1) = 5 := by
        simp only [maxRequeues]
        omega
      rw [if_neg again, last]
      rfl

def nextIncidents (backend : Backend σ) (state : Dispatcher σ) : List Incident :=
  match state.queue.processing with
  | [] => []
  | key :: _ =>
      [.passed key (state.lookup backend key).1 (state.process backend key).1
        (state.handedOver backend key)]

theorem Service.goOn (service : Service backend trace state) (unbroken : state.isBroken = false) :
    Service backend (trace ++ state.nextIncidents backend) (state.goOn backend) := by
  unfold nextIncidents Dispatcher.goOn
  cases processing : state.queue.processing with
  | cons key rest => exact service.pass (by simp [processing]) unbroken
  | nil =>
      rw [List.append_nil]
      cases line : state.queue.line with
      | cons first behind => exact service.move .get trivial
      | nil =>
          cases timers : state.queue.timers with
          | nil => exact service
          | cons timer later =>
              have pending : timer ∈ state.queue.timers := by simp [timers]
              exact service.move (.fire timer) pending

def forward (backend : Backend σ) (told : List Incident × Dispatcher σ) :
    List Incident × Dispatcher σ :=
  if told.2.isBroken then told
  else (told.1 ++ told.2.nextIncidents backend, told.2.goOn backend)

theorem Service.forward (service : Service backend trace state) (steps : Nat) :
    Service backend ((Dispatcher.forward backend)^[steps] (trace, state)).1
      ((Dispatcher.forward backend)^[steps] (trace, state)).2 := by
  induction steps with
  | zero => exact service
  | succ steps ih =>
      rw [Function.iterate_succ_apply', Dispatcher.forward]
      split
      · exact ih
      · rename_i unbroken
        exact ih.goOn (by simpa using unbroken)

/-- No zone can ever be looked up. -/
def blinded : Dispatcher World where
  queue := .withBackoff .standard
  world := { faults := { lookups := [.zone] } }

/-- A zone is applied, and again while it waits to be retried. -/
def beset : List Incident × Dispatcher World :=
  let event : WatchEvent := .applied ⟨"team/a", .zone⟩
  let begun := (forward World.backend)^[2] ([.observed event], blinded.observe event)
  (forward World.backend)^[32] (begun.1 ++ [.observed event], begun.2.observe event)

/-- The key is added twice and passed twelve times, which is as often as possible. -/
theorem retries_bounded_beset :
    additions ⟨"team/a", .zone⟩ beset.1 = 2 ∧
      (results ⟨"team/a", .zone⟩ beset.1).length = 6 * 2 ∧
      beset.2.queue.requeues ⟨"team/a", .zone⟩ ≤ 5 ∧
      ∃ source, (results ⟨"team/a", .zone⟩ beset.1)[11]? =
        some (.error (.lookupExhausted "team/a" 5 source)) := by
  have service : Service World.backend beset.1 beset.2 := by
    have fresh : Service World.backend [] blinded := .start blinded rfl
    have begun := (fresh.observe (.applied ⟨"team/a", .zone⟩)).forward 2
    exact (begun.observe (.applied ⟨"team/a", .zone⟩)).forward 32
  obtain ⟨-, requeues, -, inTurn⟩ := service.retries_bounded ⟨"team/a", .zone⟩
  have passes : (results ⟨"team/a", .zone⟩ beset.1).length = 6 * 2 := by decide +kernel
  obtain ⟨last, isLast⟩ : ∃ last, (results ⟨"team/a", .zone⟩ beset.1)[11]? = some last :=
    Option.isSome_iff_exists.1 (by simp [passes])
  have addressed : ResourceKey.address ⟨"team/a", .zone⟩ = .ok ⟨"team", "a"⟩ := by decide
  have unanswered : Unanswered ⟨"team/a", .zone⟩ beset.1 := by decide +kernel
  obtain ⟨source, given⟩ := inTurn _ addressed unanswered 11 last isLast
  rw [given] at isLast
  exact ⟨by decide +kernel, passes, requeues, source, isLast⟩

end ZoneKeeper.Dispatcher
