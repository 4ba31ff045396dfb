import ZoneKeeper.Proofs.Queue.Timeline

/-!
# Runs without delays

On a clock that is never turned back, every run can be spelled out as one without delays, in which
each delayed addition is made by an ordinary one at its own instant, and which hands out the same
keys.  So what becomes of the failures of a key is told by their number and by the clock.
-/

namespace ZoneKeeper.WorkQueue

variable {κ : Type} [DecidableEq κ]

/-- A run is spelled out by one without delays, in which time runs forward too: it leads to the same
line and the same keys that are out, at the same time, and the keys handed out on the way are the
same.  It makes all ordinary additions of the run, and all delayed ones that have come due, each
once and at its own instant; the others are still to come. -/
structure Spells (backoff : Backoff) (calls plain : List (Call κ)) : Prop where
  agrees : ((withBackoff backoff).runAll plain).Agrees ((withBackoff backoff).runAll calls)
  clock_eq : clock plain = clock calls
  inTime : InTime plain
  atOnce : ∀ call ∈ plain, call.isDelayed = false
  answers_eq : (withBackoff backoff).answers plain = (withBackoff backoff).answers calls
  additions_perm : (additions plain).Perm
    (additions calls ++ (orders backoff calls).filter fun order => order.due ≤ clock calls)
  timers_eq : ((withBackoff backoff).runAll calls).timers =
    (orders backoff calls).filter fun order => ¬ order.due ≤ clock calls

namespace Spells

variable {backoff : Backoff} {calls plain : List (Call κ)} {call : Call κ}

theorem nil (backoff : Backoff) : Spells backoff ([] : List (Call κ)) [] where
  agrees := .refl _
  clock_eq := rfl
  inTime := ⟨by simp, .nil⟩
  atOnce := by simp
  answers_eq := rfl
  additions_perm := .refl _
  timers_eq := rfl

/-- A call that asks neither for a delay nor for the time is spelled out by itself. -/
theorem ordinary (spells : Spells backoff calls plain) (atOnce : call.isDelayed = false)
    (still : call.instant? = none) : Spells backoff (calls ++ [call]) (plain ++ [call]) := by
  have sameOrders : orders backoff (calls ++ [call]) = orders backoff calls := by
    have unordered : call.order? backoff calls = none := by
      cases call <;> first | rfl | contradiction
    rw [orders_concat, unordered, Option.toList_none, List.append_nil]
  have sameClock : clock (calls ++ [call]) = clock calls := by
    rw [clock_concat, still, Option.getD_none]
  have sameAddition : call.addition? plain = call.addition? calls := by
    cases call <;> simp [Call.addition?, spells.clock_eq]
  obtain ⟨agrees, answer⟩ := spells.agrees.run atOnce still
  constructor
  case agrees =>
    rw [runAll_concat, runAll_concat]
    exact agrees
  case clock_eq =>
    rw [sameClock, clock_concat, still, Option.getD_none, spells.clock_eq]
  case inTime =>
    exact spells.inTime.concat (by rintro timer rfl; contradiction) (by simp [still])
  case atOnce =>
    exact List.forall_mem_append.2 ⟨spells.atOnce, List.forall_mem_singleton.2 atOnce⟩
  case answers_eq =>
    rw [answers_append, answers_append, spells.answers_eq, answers, answers, answer]
    rfl
  case additions_perm =>
    rw [additions_concat, additions_concat, sameOrders, sameClock, sameAddition,
      List.append_assoc]
    refine (spells.additions_perm.append_right _).trans ?_
    rw [List.append_assoc]
    exact List.perm_append_comm.append_left _
  case timers_eq =>
    rw [runAll_concat, timers_run atOnce still, sameOrders, sameClock, spells.timers_eq]

omit [DecidableEq κ] in
/-- A call that has to do with timers leaves the clock as it is, is given no key, and makes no
addition of its own. -/
theorem clock_of_isDelayed (isDelayed : call.isDelayed = true) :
    clock (calls ++ [call]) = clock calls := by
  rw [clock_concat]
  cases call <;> first | rfl | contradiction

theorem answers_of_isDelayed (isDelayed : call.isDelayed = true) (queue : WorkQueue κ) :
    queue.answers [call] = [] := by
  cases call <;> first | rfl | contradiction

omit [DecidableEq κ] in
theorem additions_of_isDelayed (isDelayed : call.isDelayed = true) :
    additions (calls ++ [call]) = additions calls := by
  rw [additions_concat]
  cases call <;> first | exact List.append_nil _ | contradiction

/-- A call that asks for nothing is spelled out by none. -/
theorem void (spells : Spells backoff calls plain) (isDelayed : call.isDelayed = true)
    (unordered : call.order? backoff calls = none)
    (same : call.run ((withBackoff backoff).runAll calls) = (withBackoff backoff).runAll calls) :
    Spells backoff (calls ++ [call]) plain := by
  have sameOrders : orders backoff (calls ++ [call]) = orders backoff calls := by
    rw [orders_concat, unordered, Option.toList_none, List.append_nil]
  constructor
  case agrees =>
    rw [runAll_concat, same]
    exact spells.agrees
  case clock_eq =>
    rw [clock_of_isDelayed isDelayed, spells.clock_eq]
  case inTime =>
    exact spells.inTime
  case atOnce =>
    exact spells.atOnce
  case answers_eq =>
    rw [answers_append, answers_of_isDelayed isDelayed, List.append_nil, spells.answers_eq]
  case additions_perm =>
    rw [additions_of_isDelayed isDelayed, sameOrders, clock_of_isDelayed isDelayed]
    exact spells.additions_perm
  case timers_eq =>
    rw [runAll_concat, same, sameOrders, clock_of_isDelayed isDelayed, spells.timers_eq]

/-- What is asked for after no delay is asked for at once. -/
theorem undelayed (spells : Spells backoff calls plain) (isDelayed : call.isDelayed = true)
    {key : κ} (ordered : call.order? backoff calls = some ⟨clock calls, key⟩)
    (run : (call.run ((withBackoff backoff).runAll calls)).Agrees
      (((withBackoff backoff).runAll calls).add key))
    (timers : (call.run ((withBackoff backoff).runAll calls)).timers =
      ((withBackoff backoff).runAll calls).timers) :
    Spells backoff (calls ++ [call]) (plain ++ [.add key]) := by
  have atOnce : Spells backoff (calls ++ [.add key]) (plain ++ [.add key]) :=
    spells.ordinary rfl rfl
  have agrees := atOnce.agrees
  have added := atOnce.additions_perm
  have due : clock calls ≤ clock calls := Nat.le_refl _
  rw [runAll_concat _ calls] at agrees
  constructor
  case agrees =>
    rw [runAll_concat _ calls]
    exact agrees.trans run.symm
  case clock_eq =>
    rw [clock_of_isDelayed isDelayed, atOnce.clock_eq, clock_concat]
    rfl
  case inTime =>
    exact atOnce.inTime
  case atOnce =>
    exact atOnce.atOnce
  case answers_eq =>
    rw [atOnce.answers_eq, answers_append, answers_append, answers_of_isDelayed isDelayed]
    rfl
  case additions_perm =>
    -- The order is due at once, and so takes the place of the addition.
    simp only [additions_concat, orders_concat, clock_concat, Call.addition?, Call.order?,
      Call.instant?, Option.toList_some, Option.toList_none, Option.getD_none, List.append_nil,
      List.append_assoc] at added
    rw [additions_of_isDelayed isDelayed, orders_concat, ordered, clock_of_isDelayed isDelayed,
      additions_concat, List.filter_append, Option.toList_some, List.filter_singleton]
    simp only [due, decide_true, cond_true]
    exact added.trans (List.perm_append_comm.append_left _)
  case timers_eq =>
    rw [runAll_concat, timers, orders_concat, ordered, clock_of_isDelayed isDelayed,
      spells.timers_eq]
    simp [due]

/-- What is asked for after a delay is still to come. -/
theorem delayed (spells : Spells backoff calls plain) (isDelayed : call.isDelayed = true)
    {order : Timer κ} (ordered : call.order? backoff calls = some order)
    (pending : ¬ order.due ≤ clock calls)
    (run : (call.run ((withBackoff backoff).runAll calls)).Agrees
      ((withBackoff backoff).runAll calls))
    (timers : (call.run ((withBackoff backoff).runAll calls)).timers =
      ((withBackoff backoff).runAll calls).timers ++ [order]) :
    Spells backoff (calls ++ [call]) plain := by
  constructor
  case agrees =>
    rw [runAll_concat]
    exact spells.agrees.trans run.symm
  case clock_eq =>
    rw [clock_of_isDelayed isDelayed, spells.clock_eq]
  case inTime =>
    exact spells.inTime
  case atOnce =>
    exact spells.atOnce
  case answers_eq =>
    rw [answers_append, answers_of_isDelayed isDelayed, List.append_nil, spells.answers_eq]
  case additions_perm =>
    rw [additions_of_isDelayed isDelayed, orders_concat, ordered, clock_of_isDelayed isDelayed]
    simpa [pending] using spells.additions_perm
  case timers_eq =>
    rw [runAll_concat, timers, orders_concat, ordered, clock_of_isDelayed isDelayed,
      spells.timers_eq]
    simp [pending]

omit [DecidableEq κ] in
/-- What is due by an instant was due before or comes due. -/
theorem filter_due_perm {earlier instant : Duration} (later : earlier ≤ instant)
    (orders : List (Timer κ)) :
    ((orders.filter fun order => order.due ≤ earlier) ++
      (orders.filter fun order => ¬ order.due ≤ earlier).filter fun order =>
        order.due ≤ instant).Perm (orders.filter fun order => order.due ≤ instant) := by
  have parted := List.filter_append_perm (fun order : Timer κ => order.due ≤ earlier)
    (orders.filter fun order => order.due ≤ instant)
  have before : ((orders.filter fun order => order.due ≤ instant).filter fun order =>
      order.due ≤ earlier) = orders.filter fun order => order.due ≤ earlier := by
    rw [List.filter_filter]
    congr 1
    funext order
    have dueLater : order.due ≤ earlier → order.due ≤ instant := fun due =>
      Nat.le_trans due later
    simpa using dueLater
  rw [before, List.filter_comm] at parted
  simpa using parted

omit [DecidableEq κ] in
/-- What is not due by an instant was not due before. -/
theorem filter_pending_eq {earlier instant : Duration} (later : earlier ≤ instant)
    (orders : List (Timer κ)) :
    ((orders.filter fun order => ¬ order.due ≤ earlier).filter fun order =>
      ¬ order.due ≤ instant) = orders.filter fun order => ¬ order.due ≤ instant := by
  rw [List.filter_filter]
  congr 1
  funext order
  simpa using fun (pending : ¬ order.due ≤ instant) (due : order.due ≤ earlier) =>
    pending (Nat.le_trans due later)

theorem comingDue_eq_dueBy (spells : Spells backoff calls plain) (instant : Duration) :
    comingDue backoff calls instant = ((withBackoff backoff).runAll calls).dueBy instant := by
  rw [comingDue, dueBy, spells.timers_eq]

/-- If the clock moves, the additions that come due by then are spelled out at their own
instants. -/
theorem advance (spells : Spells backoff calls plain) {instant : Duration}
    (later : clock calls ≤ instant) :
    Spells backoff (calls ++ [.advanceTo instant]) (plain ++
      ((comingDue backoff calls instant).flatMap spelledOut ++ [.advanceTo instant])) := by
  have sameOrders : orders backoff (calls ++ [.advanceTo instant]) = orders backoff calls := by
    rw [orders_concat]
    exact List.append_nil _
  have sameAdditions : additions (calls ++ [.advanceTo instant]) = additions calls := by
    rw [additions_concat]
    exact List.append_nil _
  have sameClock : clock (calls ++ [.advanceTo instant]) = instant := clock_concat _ _
  have untimed : ((withBackoff backoff).runAll plain).timers = [] :=
    timers_runAll_of_plain rfl spells.atOnce
  have spelled : ∀ call ∈ (comingDue backoff calls instant).flatMap spelledOut,
      call.isDelayed = false ∧ call ≠ .get := by
    intro call present
    obtain ⟨order, -, spelt⟩ := List.mem_flatMap.1 present
    simp only [spelledOut, List.mem_cons, List.not_mem_nil, or_false] at spelt
    rcases spelt with rfl | rfl <;> exact ⟨rfl, by simp⟩
  rw [← List.append_assoc]
  constructor
  case agrees =>
    -- The timers that fire together here are fired one by one there: the same keys are added, in
    -- the same order.
    have stillUntimed := timers_runAll_of_plain untimed fun call present => (spelled call present).1
    rw [runAll_concat, runAll_concat, runAll_append]
    refine (advanceTo_agrees_of_untimed stillUntimed instant).trans ?_
    refine (runAll_spelledOut_agrees untimed _).trans ?_
    rw [spells.comingDue_eq_dueBy]
    exact (spells.agrees.addAll _).trans (advanceTo_agrees _ instant).symm
  case clock_eq =>
    rw [sameClock, clock_concat]
    rfl
  case inTime =>
    -- What is coming due was not due before, so no instant is earlier than the clock.
    have coming : ∀ order ∈ comingDue backoff calls instant,
        clock plain ≤ order.due ∧ order.due ≤ instant := by
      intro order present
      have filtered := (sortBy_perm _ _).mem_iff.1 present
      simp only [List.mem_filter, decide_eq_true_eq] at filtered
      rw [spells.clock_eq]
      exact ⟨Nat.le_of_not_le filtered.1.2, filtered.2⟩
    have sorted := pairwise_sortBy due_trans due_total
      (((orders backoff calls).filter fun order => ¬ order.due ≤ clock calls).filter
        fun order => order.due ≤ instant)
    simp only [decide_eq_true_eq] at sorted
    rw [List.append_assoc]
    exact spells.inTime.spelledOut sorted (fun order present => (coming order present).1)
      (fun order present => (coming order present).2) (spells.clock_eq ▸ later)
  case atOnce =>
    rw [List.forall_mem_append, List.forall_mem_append]
    exact ⟨⟨spells.atOnce, fun call present => (spelled call present).1⟩, by simp [Call.isDelayed]⟩
  case answers_eq =>
    rw [answers_append, answers_append, answers_append, spells.answers_eq,
      answers_of_no_get fun call present => (spelled call present).2, List.append_nil]
    rfl
  case additions_perm =>
    have made : additions (plain ++ (comingDue backoff calls instant).flatMap spelledOut ++
        [.advanceTo instant]) = additions plain ++ comingDue backoff calls instant := by
      rw [additions_concat, additions, gather_append, List.nil_append, gather_additions_spelledOut]
      exact List.append_nil _
    rw [made, sameAdditions, sameOrders, sameClock]
    refine (spells.additions_perm.append (sortBy_perm _ _)).trans ?_
    rw [List.append_assoc]
    exact (filter_due_perm later _).append_left _
  case timers_eq =>
    have fired : (((withBackoff backoff).runAll calls).advanceTo instant).timers =
        ((withBackoff backoff).runAll calls).timers.filter fun timer => ¬ timer.due ≤ instant := rfl
    rw [runAll_concat, sameOrders, sameClock, Call.run, fired, spells.timers_eq,
      filter_pending_eq later]

end Spells

variable {backoff : Backoff} {calls : List (Call κ)}

/-- An addition after a delay is spelled out, whatever its delay is. -/
theorem Spells.addAfter {plain : List (Call κ)} {call : Call κ}
    (spells : Spells backoff calls plain) (isDelayed : call.isDelayed = true) {key : κ}
    {delay : Duration}
    (ordered : call.order? backoff calls = some ⟨clock calls + delay.bounded, key⟩)
    (run : (call.run ((withBackoff backoff).runAll calls)).Agrees
      (((withBackoff backoff).runAll calls).addAfter key delay))
    (timers : (call.run ((withBackoff backoff).runAll calls)).timers =
      (((withBackoff backoff).runAll calls).addAfter key delay).timers) :
    Spells backoff (calls ++ [call]) (plain ++
      ((call.order? backoff calls).toList.filter fun order => order.due ≤ clock calls).map
        fun order => .add order.key) := by
  rw [ordered]
  unfold WorkQueue.addAfter at run timers
  cases zero : delay.isZero with
  | true =>
      have due : clock calls + delay.bounded ≤ clock calls := Duration.add_bounded_le_iff.2 zero
      rw [if_pos zero] at run timers
      rw [timers_add] at timers
      rw [Duration.add_bounded_of_isZero zero] at ordered
      simpa [due] using spells.undelayed isDelayed ordered run timers
  | false =>
      have pending : ¬ clock calls + delay.bounded ≤ clock calls := by
        rw [Duration.add_bounded_le_iff]
        simp [zero]
      rw [if_neg (by simp [zero])] at run timers
      rw [now_runAll] at timers
      have unchanged : (call.run ((withBackoff backoff).runAll calls)).Agrees
          ((withBackoff backoff).runAll calls) := run.trans ⟨rfl, rfl, rfl, rfl⟩
      simpa [pending] using spells.delayed isDelayed ordered pending unchanged timers

/-- Every run is spelled out. -/
theorem spells_spellOut (returns : (withBackoff backoff).Returns calls) (inTime : InTime calls) :
    Spells backoff calls (spellOut backoff calls) := by
  -- What a call asks for depends on the calls before it, so one call is added at the end.
  induction calls using List.reverseRecOn with
  | nil => exact .nil backoff
  | append_singleton calls call ih =>
      obtain ⟨earlier, returnsNow⟩ := returns_concat_iff.1 returns
      have spells := ih earlier inTime.of_concat
      rw [spellOut, gather_concat, ← spellOut]
      cases call with
      | add | get | done | forget | shutDown => exact spells.ordinary rfl rfl
      | fire timer => exact absurd (List.mem_append_right _ (by simp)) (inTime.unfired timer)
      | advanceTo instant => exact spells.advance inTime.clock_le
      | addAfter key delay => exact spells.addAfter rfl rfl (.refl _) rfl
      | addRateLimited key =>
          by_cases stopped : .shutDown ∈ calls
          · have unordered : Call.order? backoff calls (.addRateLimited key) = none := by
              rw [Call.order?, if_pos stopped]
            simp only [Call.spellOut, unordered, Option.toList_none, List.filter_nil, List.map_nil,
              List.append_nil]
            exact spells.void rfl unordered
              (addRateLimited_of_shuttingDown (shuttingDown_runAll_iff.2 stopped) key)
          · have running := shuttingDown_runAll_eq_false backoff stopped
            obtain ⟨delay, delayed⟩ :
                ∃ delay, ((withBackoff backoff).runAll calls).limiter.delay key = some delay := by
              rwa [Call.Returns, canDelay, running, Bool.false_or, Option.isSome_iff_exists]
                at returnsNow
            have counted :=
              (addRateLimited_of_delay running delayed).trans (addAfter_count _ key delay)
            have ordered : Call.order? backoff calls (.addRateLimited key) =
                some ⟨clock calls + delay.bounded, key⟩ := by
              rw [Call.order?, if_neg stopped, ← delay_runAll earlier, delayed, Option.map_some]
            apply spells.addAfter rfl ordered
            · rw [Call.run, counted]
              exact ⟨rfl, rfl, rfl, rfl⟩
            · rw [Call.run, counted]

/-- A queue counts for each key the failures that were reported before the shutdown, since the key
was last forgotten, by calls that returned; nothing else bears on the count.  The next report, if it
comes before the shutdown, asks for one addition of its key after the delay for the count, or after
as much of it as a timer runs; whatever is called later leaves this as it is.  If the clock is never
turned back, and delayed additions fire when they are due, then every addition that was asked for is
made exactly once, at its instant, or is still to come: in the run in which they are all made by
ordinary additions at these instants, the same keys are handed out, and the same keys wait and are
out in the end. -/
theorem accounts_for_failures (backoff : Backoff) (calls : List (Call κ)) :
    let queue := (withBackoff backoff).runAll calls
    let made := (withBackoff backoff).returned calls
    (∀ key, queue.requeues key = min (reported key made) largestCount ∧
      reported key (made.filter (Call.concerns key)) = reported key made ∧
      queue.limiter.delay key = backoff.delay (min (reported key made) largestCount) ∧
      orders backoff (made ++ [.addRateLimited key]) = orders backoff made ++
        if .shutDown ∈ made then []
        else (queue.limiter.delay key).toList.map fun delay =>
          ⟨clock made + delay.bounded, key⟩) ∧
    (∀ later, orders backoff made <+: orders backoff (made ++ later)) ∧
    (InTime calls →
      (∀ call ∈ spellOut backoff made, call.isDelayed = false) ∧
      InTime (spellOut backoff made) ∧
      (additions (spellOut backoff made)).Perm
        (additions made ++ (orders backoff made).filter fun order => order.due ≤ clock made) ∧
      queue.timers = ((orders backoff made).filter fun order => ¬ order.due ≤ clock made) ∧
      (withBackoff backoff).answers (spellOut backoff made) =
        (withBackoff backoff).answers calls ∧
      ((withBackoff backoff).runAll (spellOut backoff made)).Agrees queue) := by
  intro queue made
  have returns : (withBackoff backoff).Returns made := returns_returned _ calls
  have same : (withBackoff backoff).runAll made = queue := runAll_returned _ calls
  rw [← same]
  refine ⟨fun key => ⟨requeues_runAll returns key, reported_filter key made,
    delay_runAll returns key, ?_⟩, fun later => ?_, fun inTime => ?_⟩
  · rw [orders_concat, Call.order?, delay_runAll returns]
    split
    · rfl
    · rw [Option.toList_map]
  · rw [orders, orders, gather_append]
    exact List.prefix_append _ _
  · have spells := spells_spellOut returns (inTime.sublist (returned_sublist _ calls))
    exact ⟨spells.atOnce, spells.inTime, spells.additions_perm, spells.timers_eq,
      spells.answers_eq.trans (answers_returned _ calls), spells.agrees⟩

/-- A key fails twice, is forgotten, and fails twice more. -/
def forgottenBetween : List (Call Nat) :=
  [ .addRateLimited 7, .addRateLimited 7, .forget 7, .addRateLimited 7, .get,
    .advanceTo (.ofMillis 5), .get, .addRateLimited 7, .advanceTo (.ofMillis 12), .done 7, .get ]

/-- The additions from before the forgetting are made all the same, and those from after it come
sooner than they would without it. -/
theorem accounts_for_failures_forgotten :
    ((withBackoff .standard).runAll forgottenBetween).requeues 7 = 2 ∧
      orders .standard forgottenBetween = [⟨.ofMillis 5, 7⟩, ⟨.ofMillis 10, 7⟩, ⟨.ofMillis 5, 7⟩,
        ⟨.ofMillis 15, 7⟩] ∧
      ((withBackoff .standard).runAll forgottenBetween).timers = [⟨.ofMillis 15, 7⟩] ∧
      (withBackoff .standard).answers (spellOut .standard forgottenBetween) =
        [none, some 7, some 7] := by
  have made : (withBackoff .standard).returned forgottenBetween = forgottenBetween := by
    decide +kernel
  have asked : orders .standard forgottenBetween = [⟨.ofMillis 5, 7⟩, ⟨.ofMillis 10, 7⟩,
      ⟨.ofMillis 5, 7⟩, ⟨.ofMillis 15, 7⟩] := by
    decide +kernel
  have inTime : InTime forgottenBetween := ⟨by simp [forgottenBetween], by decide⟩
  obtain ⟨counts, -, spelled⟩ := accounts_for_failures .standard forgottenBetween
  obtain ⟨-, -, -, timers, answered, -⟩ := spelled inTime
  rw [made] at answered
  refine ⟨?_, asked, ?_, ?_⟩
  · rw [(counts 7).1, made]
    decide
  · rw [timers, made, asked]
    decide
  · rw [answered]
    decide +kernel

/-- More than thirty years, after every failure. -/
def patient : Backoff :=
  ⟨.ofSeconds 978000000, .ofSeconds 978000000, 1⟩

/-- Below zero after one failure, so that there is no delay for the second. -/
def alternating : Backoff :=
  ⟨.ofMillis 5, .ofSeconds 1, -2⟩

/-- No timer runs longer than thirty years: then a key is handed out before the delay for its
failures is over.  And a failure for which there is no delay is not counted, as its report breaks
off. -/
theorem not_answers_none_of_delay_nor_counts_all :
    (¬ ∀ (backoff : Backoff) (key : Nat) (delay instant : Duration),
      backoff.delay 0 = some delay → ¬ delay ≤ instant →
        (withBackoff backoff).answers [.addRateLimited key, .advanceTo instant, .get] = [none]) ∧
    ¬ ∀ (backoff : Backoff) (key : Nat) (calls : List (Call Nat)),
      ((withBackoff backoff).runAll calls).requeues key =
        min (reported key calls) largestCount := by
  constructor
  · intro waits
    have nothing := waits patient 7 (.ofSeconds 978000000) .longest (by decide +kernel) (by decide)
    exact absurd nothing (by decide +kernel)
  · intro counts
    have both := counts alternating 7 [.addRateLimited 7, .addRateLimited 7]
    exact absurd both (by decide +kernel)

end ZoneKeeper.WorkQueue
