import ZoneKeeper.Proofs.Queue.Failures

/-!
# Delayed additions in time

The clock of a queue shows the last instant that it was moved to.  A call for a delayed addition
determines the instant at which it comes due.  So the addition can be spelled out: the clock is
moved to this instant, and the key is added just as if somebody had added it.
-/

namespace ZoneKeeper

namespace Duration

variable {delay instant : Duration}

theorem nanoseconds_add (left right : Duration) :
    (left + right).nanoseconds = left.nanoseconds + right.nanoseconds :=
  rfl

theorem le_iff {left right : Duration} : left ≤ right ↔ left.nanoseconds ≤ right.nanoseconds :=
  Iff.rfl

/-- As long as a timer runs is no time at all exactly if the whole delay is none. -/
theorem nanoseconds_bounded_eq_zero_iff : delay.bounded.nanoseconds = 0 ↔ delay.isZero = true := by
  unfold bounded isZero
  split
  · simp
  · rename_i long
    have positive : longest.nanoseconds = 946080000000000000 := rfl
    simp only [le_iff, not_le] at long
    simp only [positive, decide_eq_true_eq]
    omega

/-- Only what is asked for after no delay is due at once. -/
theorem add_bounded_le_iff : instant + delay.bounded ≤ instant ↔ delay.isZero = true := by
  rw [le_iff, nanoseconds_add, ← nanoseconds_bounded_eq_zero_iff]
  omega

theorem add_bounded_of_isZero (zero : delay.isZero = true) : instant + delay.bounded = instant :=
  congrArg Duration.mk (Nat.add_eq_left.2 (nanoseconds_bounded_eq_zero_iff.2 zero))

end Duration

namespace WorkQueue

variable {κ : Type} [DecidableEq κ]

section Clock

variable {calls : List (Call κ)} {call : Call κ}

/-- The instant that a call moves the clock to. -/
def Call.instant? : Call κ → Option Duration
  | .advanceTo instant => some instant
  | _ => none

/-- What the clock shows after some calls. -/
def clock (calls : List (Call κ)) : Duration :=
  (calls.filterMap Call.instant?).getLast?.getD .zero

/-- Time runs forward, and a delayed addition fires when it is due. -/
structure InTime (calls : List (Call κ)) : Prop where
  unfired : ∀ timer, .fire timer ∉ calls
  forward : (calls.filterMap Call.instant?).Pairwise fun early late => early ≤ late

omit [DecidableEq κ] in
theorem clock_concat (calls : List (Call κ)) (call : Call κ) :
    clock (calls ++ [call]) = call.instant?.getD (clock calls) := by
  unfold clock
  cases moved : call.instant? with
  | none => simp [moved]
  | some instant => simp [moved]

omit [DecidableEq κ] in
theorem InTime.of_concat (inTime : InTime (calls ++ [call])) : InTime calls where
  unfired timer fired := inTime.unfired timer (List.mem_append_left _ fired)
  forward := by
    have forward := inTime.forward
    rw [List.filterMap_append, List.pairwise_append] at forward
    exact forward.1

omit [DecidableEq κ] in
theorem InTime.sublist {made : List (Call κ)} (inTime : InTime calls) (part : made.Sublist calls) :
    InTime made where
  unfired timer fired := inTime.unfired timer (part.subset fired)
  forward := inTime.forward.sublist (part.filterMap Call.instant?)

omit [DecidableEq κ] in
theorem InTime.clock_le {instant : Duration} (inTime : InTime (calls ++ [.advanceTo instant])) :
    clock calls ≤ instant := by
  have forward := inTime.forward
  rw [List.filterMap_append, List.pairwise_append] at forward
  unfold clock
  cases last : (calls.filterMap Call.instant?).getLast? with
  | none => exact Nat.zero_le _
  | some latest =>
      exact forward.2.2 latest (List.mem_of_getLast? last) instant (by simp [Call.instant?])

omit [DecidableEq κ] in
theorem InTime.le_clock (inTime : InTime calls) :
    ∀ instant ∈ calls.filterMap Call.instant?, instant ≤ clock calls := by
  intro instant present
  obtain ⟨earlier, latest, whole⟩ := (List.eq_nil_or_concat _).resolve_left
    (List.ne_nil_of_mem present)
  have forward := inTime.forward
  rw [List.concat_eq_append] at whole
  rw [whole, List.pairwise_append] at forward
  rw [clock, whole, List.getLast?_concat, Option.getD_some]
  rw [whole, List.mem_append, List.mem_singleton] at present
  rcases present with before | rfl
  · exact forward.2.2 instant before latest (List.mem_singleton_self latest)
  · exact Nat.le_refl _

omit [DecidableEq κ] in
theorem InTime.concat (inTime : InTime calls) (unfired : ∀ timer, call ≠ .fire timer)
    (later : ∀ instant, call.instant? = some instant → clock calls ≤ instant) :
    InTime (calls ++ [call]) where
  unfired timer fired := by
    rw [List.mem_append, List.mem_singleton] at fired
    rcases fired with before | rfl
    · exact inTime.unfired timer before
    · exact unfired timer rfl
  forward := by
    rw [List.filterMap_append, List.pairwise_append]
    refine ⟨inTime.forward, ?_, fun early present late last => ?_⟩
    · cases moved : call.instant? <;> simp [moved]
    · have moved : call.instant? = some late := by simpa using last
      exact Nat.le_trans (inTime.le_clock early present) (later late moved)

@[simp]
theorem now_add (queue : WorkQueue κ) (key : κ) : (queue.add key).now = queue.now := by
  unfold add
  split <;> rfl

@[simp]
theorem now_addAfter (queue : WorkQueue κ) (key : κ) (delay : Duration) :
    (queue.addAfter key delay).now = queue.now := by
  unfold addAfter
  split
  · exact now_add queue key
  · rfl

theorem now_run (queue : WorkQueue κ) (call : Call κ) :
    (call.run queue).now = call.instant?.getD queue.now := by
  cases call with
  | add key => exact now_add queue key
  | get =>
      obtain ⟨line, dirty, processing, moved⟩ := exists_run_get_eq queue
      rw [moved]
      rfl
  | done | forget | shutDown | advanceTo => rfl
  | addRateLimited key =>
      rw [Call.run, addRateLimited]
      split
      · rfl
      · split
        · exact now_addAfter _ key _
        · rfl
  | addAfter key delay => exact now_addAfter queue key delay
  | fire timer => exact now_add _ timer.key

theorem now_runAll (backoff : Backoff) (calls : List (Call κ)) :
    ((withBackoff backoff).runAll calls).now = clock calls := by
  induction calls using List.reverseRecOn with
  | nil => rfl
  | append_singleton calls call ih => rw [runAll_concat, now_run, clock_concat, ih]

end Clock

section Gather

variable {α : Type}

/-- What some calls give, each by the calls that were made before it. -/
def gather (give : List (Call κ) → Call κ → List α) (before : List (Call κ)) :
    List (Call κ) → List α
  | [] => []
  | call :: calls => give before call ++ gather give (before ++ [call]) calls

omit [DecidableEq κ] in
theorem gather_append (give : List (Call κ) → Call κ → List α)
    (before calls later : List (Call κ)) : gather give before (calls ++ later) =
      gather give before calls ++ gather give (before ++ calls) later := by
  induction calls generalizing before with
  | nil => simp [gather]
  | cons call calls ih => simp [gather, ih]

omit [DecidableEq κ] in
theorem gather_concat (give : List (Call κ) → Call κ → List α) (calls : List (Call κ))
    (call : Call κ) :
    gather give [] (calls ++ [call]) = gather give [] calls ++ give calls call := by
  simp [gather_append, gather]

end Gather

variable (backoff : Backoff)

/-- The addition that a call asks for after a delay, by the calls before it: the delay is the one
for the failures reported so far, or the given one, but no longer than a timer runs. -/
def Call.order? (before : List (Call κ)) : Call κ → Option (Timer κ)
  | .addRateLimited key =>
      if .shutDown ∈ before then none
      else (backoff.delay (min (reported key before) largestCount)).map fun delay =>
        ⟨clock before + delay.bounded, key⟩
  | .addAfter key delay => some ⟨clock before + delay.bounded, key⟩
  | _ => none

/-- The additions that some calls ask for after a delay, those after no delay among them. -/
def orders (calls : List (Call κ)) : List (Timer κ) :=
  gather (fun before call => (call.order? backoff before).toList) [] calls

theorem orders_concat (calls : List (Call κ)) (call : Call κ) :
    orders backoff (calls ++ [call]) = orders backoff calls ++ (call.order? backoff calls).toList :=
  gather_concat _ calls call

/-- The additions that come due if the clock is moved to an instant, in the order of their own
instants. -/
def comingDue (before : List (Call κ)) (instant : Duration) : List (Timer κ) :=
  sortBy (fun first second => first.due ≤ second.due)
    (((orders backoff before).filter fun order => ¬ order.due ≤ clock before).filter
      fun order => order.due ≤ instant)

/-- A delayed addition is spelled out at its instant: the clock is moved there, and the key is
added. -/
def spelledOut (order : Timer κ) : List (Call κ) :=
  [.advanceTo order.due, .add order.key]

/-- A call without delays: what is asked for after no delay is asked for at once, what is asked for
after a delay when it comes due. -/
def Call.spellOut (before : List (Call κ)) (call : Call κ) : List (Call κ) :=
  match call with
  | .addRateLimited _ | .addAfter _ _ =>
      ((call.order? backoff before).toList.filter fun order => order.due ≤ clock before).map
        fun order => .add order.key
  | .advanceTo instant =>
      (comingDue backoff before instant).flatMap spelledOut ++ [.advanceTo instant]
  | call => [call]

/-- The run without delays. -/
def spellOut (calls : List (Call κ)) : List (Call κ) :=
  gather (Call.spellOut backoff) [] calls

omit [DecidableEq κ] in
/-- The addition that a call makes at once, and the instant. -/
def Call.addition? (before : List (Call κ)) : Call κ → Option (Timer κ)
  | .add key => some ⟨clock before, key⟩
  | _ => none

omit [DecidableEq κ] in
/-- The ordinary additions among some calls, each with its instant. -/
def additions (calls : List (Call κ)) : List (Timer κ) :=
  gather (fun before call => (call.addition? before).toList) [] calls

omit [DecidableEq κ] in
theorem additions_concat (calls : List (Call κ)) (call : Call κ) :
    additions (calls ++ [call]) = additions calls ++ (call.addition? calls).toList :=
  gather_concat _ calls call

omit [DecidableEq κ] in
/-- The calls that have to do with timers. -/
def Call.isDelayed : Call κ → Bool
  | .addRateLimited _ | .addAfter _ _ | .fire _ => true
  | _ => false

section Plain

variable {queue plain : WorkQueue κ} {calls : List (Call κ)} {call : Call κ}

omit [DecidableEq κ] in
/-- Delayed additions are spelled out in the order of their instants. -/
theorem InTime.spelledOut {orders : List (Timer κ)} {instant : Duration} (inTime : InTime calls)
    (sorted : orders.Pairwise fun first second => first.due ≤ second.due)
    (pending : ∀ order ∈ orders, clock calls ≤ order.due)
    (due : ∀ order ∈ orders, order.due ≤ instant) (later : clock calls ≤ instant) :
    InTime (calls ++ (orders.flatMap spelledOut ++ [.advanceTo instant])) := by
  induction orders generalizing calls with
  | nil => exact inTime.concat nofun (by rintro _ ⟨⟩; exact later)
  | cons order orders ih =>
      have moved : InTime (calls ++ [.advanceTo order.due]) :=
        inTime.concat nofun (by rintro _ ⟨⟩; exact pending order List.mem_cons_self)
      have added : InTime (calls ++ [.advanceTo order.due] ++ [.add order.key]) :=
        moved.concat nofun nofun
      have now : clock (calls ++ [.advanceTo order.due] ++ [.add order.key]) = order.due := by
        rw [clock_concat, clock_concat]
        rfl
      obtain ⟨first, rest⟩ := List.pairwise_cons.1 sorted
      have whole := ih added rest (by rwa [now])
        (fun other present => due other (List.mem_cons_of_mem order present))
        (by rw [now]; exact due order List.mem_cons_self)
      simpa [WorkQueue.spelledOut] using whole

/-- Queues that agree are alike to everybody who asks neither for a delay nor for the time. -/
theorem Agrees.run (alike : plain.Agrees queue) (atOnce : call.isDelayed = false)
    (still : call.instant? = none) :
    (call.run plain).Agrees (call.run queue) ∧ call.answer? plain = call.answer? queue := by
  obtain ⟨line, dirty, processing, shuttingDown⟩ := alike
  cases call with
  | add key => exact ⟨Agrees.add ⟨line, dirty, processing, shuttingDown⟩ key, rfl⟩
  | get =>
      rw [Call.run, Call.run, Call.answer?, Call.answer?, take?, take?, line, dirty, processing]
      cases queue.line with
      | nil => exact ⟨⟨line, dirty, processing, shuttingDown⟩, rfl⟩
      | cons key rest => exact ⟨⟨rfl, rfl, rfl, shuttingDown⟩, rfl⟩
  | done key =>
      rw [Call.run, Call.run, WorkQueue.done, WorkQueue.done, line, dirty, processing]
      exact ⟨⟨rfl, rfl, rfl, shuttingDown⟩, rfl⟩
  | forget => exact ⟨⟨line, dirty, processing, shuttingDown⟩, rfl⟩
  | shutDown => exact ⟨⟨line, dirty, processing, rfl⟩, rfl⟩
  | addRateLimited | addAfter | fire | advanceTo => contradiction

/-- Only calls that have to do with timers, and the clock, change the timers. -/
theorem timers_run (atOnce : call.isDelayed = false) (still : call.instant? = none) :
    (call.run queue).timers = queue.timers := by
  cases call with
  | add key => exact timers_add queue key
  | get =>
      obtain ⟨line, dirty, processing, moved⟩ := exists_run_get_eq queue
      rw [moved]
  | done | forget | shutDown => rfl
  | addRateLimited | addAfter | fire | advanceTo => contradiction

theorem timers_runAll_of_plain (untimed : queue.timers = [])
    (atOnce : ∀ call ∈ calls, call.isDelayed = false) : (queue.runAll calls).timers = [] := by
  induction calls generalizing queue with
  | nil => exact untimed
  | cons call calls ih =>
      refine ih ?_ fun later present => atOnce later (List.mem_cons_of_mem call present)
      cases moved : call.instant? with
      | none => rw [timers_run (atOnce call List.mem_cons_self) moved, untimed]
      | some instant =>
          cases call with
          | advanceTo => simp [Call.run, advanceTo, untimed]
          | _ => contradiction

/-- Without timers, nothing happens when the clock moves. -/
theorem advanceTo_agrees_of_untimed (untimed : queue.timers = []) (instant : Duration) :
    (queue.advanceTo instant).Agrees queue := by
  have agrees := advanceTo_agrees queue instant
  rwa [dueBy, untimed] at agrees

/-- Delayed additions that are spelled out add their keys. -/
theorem runAll_spelledOut_agrees (untimed : queue.timers = []) (orders : List (Timer κ)) :
    (queue.runAll (orders.flatMap spelledOut)).Agrees
      ((orders.map Timer.key).foldl WorkQueue.add queue) := by
  induction orders generalizing queue with
  | nil => exact .refl queue
  | cons order orders ih =>
      have moved := (advanceTo_agrees_of_untimed untimed order.due).add order.key
      have stillUntimed : ((queue.advanceTo order.due).add order.key).timers = [] := by
        rw [timers_add]
        simp [advanceTo, untimed]
      exact (ih stillUntimed).trans (moved.addAll (orders.map Timer.key))

omit [DecidableEq κ] in
/-- Delayed additions that are spelled out are made at their own instants. -/
theorem gather_additions_spelledOut (before : List (Call κ)) (orders : List (Timer κ)) :
    gather (fun before call => (call.addition? before).toList) before (orders.flatMap spelledOut) =
      orders := by
  induction orders generalizing before with
  | nil => rfl
  | cons order orders ih =>
      rw [List.flatMap_cons, gather_append, ih]
      simp [spelledOut, gather, Call.addition?, clock_concat, Call.instant?]

end Plain

end WorkQueue

end ZoneKeeper
