import ZoneKeeper.Proofs.Dispatcher.Deliveries
import ZoneKeeper.Proofs.Dispatcher.Queueing
import Mathlib.Data.List.Perm.Subperm
import Mathlib.Data.Prod.Lex
import Mathlib.Order.OrderIsoNat

/-!
# A dispatcher comes to rest

A pass may queue any number of keys, or put its own key back.  But only a tombstone that it uses up
lets it hand over a name, and without a tombstone to use up it lives on the allowances of the keys.
So a dispatcher that observes nothing more cannot keep itself busy, whatever the caches and the
handlers answer, and in whatever order the delayed additions come due.
-/

namespace ZoneKeeper

namespace Table

variable {κ α : Type} [DecidableEq κ] {before after : Table κ α}

theorem mem_keys_of_get? {table : Table κ α} {key : κ} {value : α}
    (held : table.get? key = some value) : key ∈ table.keys :=
  List.mem_map.2 ⟨_, get?_eq_some_iff.1 held, rfl⟩

theorem keys_subset (kept : ∀ key value, after.get? key = some value →
    before.get? key = some value) : after.keys ⊆ before.keys := by
  intro key present
  obtain ⟨⟨_, value⟩, entry, rfl⟩ := List.mem_map.1 present
  exact mem_keys_of_get? (kept _ value (get?_eq_some_iff.2 entry))

omit [DecidableEq κ] in
theorem size_eq_length_keys (table : Table κ α) : table.size = table.keys.length := by
  simp [size, keys]

theorem size_le_of_kept (kept : ∀ key value, after.get? key = some value →
    before.get? key = some value) : after.size ≤ before.size := by
  rw [size_eq_length_keys, size_eq_length_keys]
  exact (after.keys_nodup.subperm (keys_subset kept)).length_le

theorem size_lt_of_erased {key : κ} {value : α} (kept : ∀ key value,
      after.get? key = some value → before.get? key = some value)
    (held : before.get? key = some value) (erased : after.get? key = none) :
    after.size < before.size := by
  have outside : key ∉ after.keys := get?_eq_none_iff.1 erased
  have larger : key :: after.keys ⊆ before.keys :=
    List.cons_subset.2 ⟨mem_keys_of_get? held, keys_subset kept⟩
  have nodup : (key :: after.keys).Nodup := List.nodup_cons.2 ⟨outside, after.keys_nodup⟩
  rw [size_eq_length_keys, size_eq_length_keys]
  exact (nodup.subperm larger).length_le

end Table

namespace WorkQueue

variable {κ : Type} [DecidableEq κ]

theorem length_line_add_le (queue : WorkQueue κ) (key : κ) :
    (queue.add key).line.length ≤ queue.line.length + 1 := by
  unfold WorkQueue.add
  split
  · exact Nat.le_add_right _ _
  · dsimp only
    split
    · exact Nat.le_add_right _ _
    · simp

theorem length_line_addAll_le (queue : WorkQueue κ) (keys : List κ) :
    (keys.foldl WorkQueue.add queue).line.length ≤ queue.line.length + keys.length := by
  induction keys generalizing queue with
  | nil => exact Nat.le_refl _
  | cons key keys ih =>
      have head := length_line_add_le queue key
      have tail := ih (queue.add key)
      rw [List.foldl_cons, List.length_cons]
      omega

end WorkQueue

namespace Dispatcher

variable {σ : Type} {backend : Backend σ} {before after state : Dispatcher σ}

/-- What a dispatcher does by itself: it hands a key out, a delayed addition fires, in any order, or
a pass is run for a key that is out. -/
inductive Stirs (backend : Backend σ) : Dispatcher σ → Dispatcher σ → Prop
  | handOut {state : Dispatcher σ} (waiting : state.queue.line ≠ []) :
      Stirs backend state { state with queue := WorkQueue.Call.run state.queue .get }
  | fire {state : Dispatcher σ} {timer : Timer ResourceKey} (pending : timer ∈ state.queue.timers) :
      Stirs backend state { state with queue := state.queue.fire timer }
  | pass {state : Dispatcher σ} {key : ResourceKey} (held : key ∈ state.queue.processing)
      (unbroken : state.isBroken = false) : Stirs backend state (state.process backend key).2

/-- What happens to a dispatcher that is left alone: the world changes in any way, the clock moves,
the queue is shut down. -/
inductive Idles : Dispatcher σ → Dispatcher σ → Prop
  | change (state : Dispatcher σ) (world : σ) : Idles state { state with world }
  | advanceTo (state : Dispatcher σ) (instant : Duration) :
      Idles state { state with queue := state.queue.advanceTo instant }
  | shutDown (state : Dispatcher σ) : Idles state { state with queue := state.queue.shutDown }

/-- Nothing waits, nothing is handed out, and nothing will be added. -/
def AtRest (state : Dispatcher σ) : Prop :=
  state.queue.line = [] ∧ state.queue.processing = [] ∧ state.queue.timers = []

instance : Decidable state.AtRest :=
  inferInstanceAs (Decidable (_ ∧ _ ∧ _))

theorem Stirs.isSound (stirs : Stirs backend before after) (sound : before.queue.IsSound) :
    after.queue.IsSound := by
  cases stirs with
  | handOut => exact sound.call .get trivial
  | fire pending => exact sound.call (.fire _) pending
  | pass held => exact isSound_process sound held

theorem Idles.isSound (idles : Idles before after) (sound : before.queue.IsSound) :
    after.queue.IsSound := by
  cases idles with
  | change => exact sound
  | advanceTo instant => exact sound.call (.advanceTo instant) trivial
  | shutDown => exact sound.call .shutDown trivial

/-- Does what comes first: a pass for a key that is out, or else a hand-out, or else a firing. -/
def goOn (backend : Backend σ) (state : Dispatcher σ) : Dispatcher σ :=
  match state.queue.processing, state.queue.line, state.queue.timers with
  | key :: _, _, _ => (state.process backend key).2
  | [], _ :: _, _ => { state with queue := WorkQueue.Call.run state.queue .get }
  | [], [], timer :: _ => { state with queue := state.queue.fire timer }
  | [], [], [] => state

/-- As long as a dispatcher has not broken off, it can do something until it is at rest. -/
theorem stirs_goOn (unbroken : state.isBroken = false) (restless : ¬ state.AtRest) :
    Stirs backend state (state.goOn backend) := by
  unfold goOn
  split
  · rename_i processing
    exact .pass (by simp [processing]) unbroken
  · rename_i line
    exact .handOut (by simp [line])
  · rename_i timers
    exact .fire (by simp [timers])
  · rename_i processing line timers
    exact absurd ⟨line, processing, timers⟩ restless

theorem goOn_of_atRest (rest : state.AtRest) : state.goOn backend = state := by
  obtain ⟨line, processing, timers⟩ := rest
  simp [goOn, line, processing, timers]

def budget (state : Dispatcher σ) : Nat :=
  state.queue.totalAllowance maxRequeues

/-- How much is still to be done before and between the passes that are to come. -/
def backlog (state : Dispatcher σ) : Nat :=
  2 * state.queue.timers.length + state.queue.line.length

/-- What is left to be done, most important first: the deletions that are kept, then the unspent
allowances, then the backlog.  A dispatcher that has broken off does less than any other. -/
def unrest (state : Dispatcher σ) : ℕ ×ₗ ℕ ×ₗ ℕ ×ₗ ℕ :=
  toLex (if state.isBroken then 0 else 1,
    toLex (state.tombstones.size, toLex (state.budget, state.backlog)))

theorem unrest_lt_of_backlog (isBroken : after.isBroken = before.isBroken)
    (tombstones : after.tombstones = before.tombstones) (budget : after.budget ≤ before.budget)
    (backlog : after.backlog < before.backlog) : after.unrest < before.unrest := by
  simp only [unrest, Prod.Lex.toLex_lt_toLex', isBroken, tombstones]
  exact ⟨le_rfl, fun _ => ⟨le_rfl, fun _ => ⟨budget, fun _ => backlog⟩⟩⟩

theorem unrest_le_of_backlog (isBroken : after.isBroken = before.isBroken)
    (tombstones : after.tombstones = before.tombstones) (budget : after.budget ≤ before.budget)
    (backlog : after.backlog ≤ before.backlog) : after.unrest ≤ before.unrest := by
  simp only [unrest, Prod.Lex.toLex_le_toLex', isBroken, tombstones]
  exact ⟨le_rfl, fun _ => ⟨le_rfl, fun _ => ⟨budget, fun _ => backlog⟩⟩⟩

theorem unrest_lt_of_tombstones (isBroken : after.isBroken = before.isBroken)
    (tombstones : after.tombstones.size < before.tombstones.size) :
    after.unrest < before.unrest := by
  simp only [unrest, Prod.Lex.toLex_lt_toLex', isBroken]
  exact ⟨le_rfl, fun _ => ⟨tombstones.le, fun same => absurd same tombstones.ne⟩⟩

theorem unrest_lt_of_budget (isBroken : after.isBroken = before.isBroken)
    (tombstones : after.tombstones.size ≤ before.tombstones.size)
    (budget : after.budget < before.budget) : after.unrest < before.unrest := by
  simp only [unrest, Prod.Lex.toLex_lt_toLex', isBroken]
  exact ⟨le_rfl, fun _ => ⟨tombstones, fun _ => ⟨budget.le, fun same => absurd same budget.ne⟩⟩⟩

theorem unrest_lt_of_broken (unbroken : before.isBroken = false) (broken : after.isBroken = true) :
    after.unrest < before.unrest := by
  simp [unrest, Prod.Lex.toLex_lt_toLex', unbroken, broken]

theorem budget_le_of_movesOn (call : WorkQueue.Call ResourceKey) (sound : before.queue.IsSound)
    (moves : call.MovesOn before.queue) (queue : after.queue = call.run before.queue) :
    after.budget ≤ before.budget := by
  unfold budget
  rw [queue]
  exact WorkQueue.totalAllowance_le fun key => WorkQueue.allowance_le maxRequeues
    (WorkQueue.outstanding_call_le sound moves key) (WorkQueue.requeues_call moves key)

theorem unrest_handOut_lt (sound : state.queue.IsSound) (waiting : state.queue.line ≠ []) :
    unrest { state with queue := WorkQueue.Call.run state.queue .get } < state.unrest := by
  obtain ⟨key, line, lineEq⟩ := List.exists_cons_of_ne_nil waiting
  obtain ⟨rest, taken⟩ : ∃ rest, state.queue.take? = some (key, rest) := by
    simp [WorkQueue.take?, lineEq]
  have given : WorkQueue.Call.run state.queue .get = rest := by simp [WorkQueue.Call.run, taken]
  have shorter : rest.line.length < state.queue.line.length ∧
      rest.timers = state.queue.timers := by
    obtain ⟨tail, behind, rfl⟩ := WorkQueue.take?_eq_some_iff.1 taken
    simp [behind]
  refine unrest_lt_of_backlog rfl rfl (budget_le_of_movesOn .get sound trivial rfl) ?_
  simp only [backlog, given, shorter.2]
  omega

/-- A timer that fires may make the line longer, but then there is one timer less. -/
theorem unrest_fire_lt {timer : Timer ResourceKey} (sound : state.queue.IsSound)
    (pending : timer ∈ state.queue.timers) :
    unrest { state with queue := state.queue.fire timer } < state.unrest := by
  refine unrest_lt_of_backlog rfl rfl
    (budget_le_of_movesOn (.fire timer) sound pending rfl) ?_
  have longer := WorkQueue.length_line_add_le
    { state.queue with timers := state.queue.timers.erase timer } timer.key
  have fewer := List.length_erase_of_mem pending
  have some_pending := List.length_pos_of_mem pending
  simp only [backlog, WorkQueue.fire, WorkQueue.timers_add] at longer ⊢
  omega

theorem unrest_advanceTo_le (sound : state.queue.IsSound) (instant : Duration) :
    unrest { state with queue := state.queue.advanceTo instant } ≤ state.unrest := by
  refine unrest_le_of_backlog rfl rfl
    (budget_le_of_movesOn (.advanceTo instant) sound trivial rfl) ?_
  have longer :=
    WorkQueue.length_line_addAll_le state.queue ((state.queue.dueBy instant).map Timer.key)
  have due : (state.queue.dueBy instant).length =
      (state.queue.timers.filter fun timer => timer.due ≤ instant).length :=
    (sortBy_perm _ _).length_eq
  have parted := List.length_eq_length_filter_add (l := state.queue.timers)
    fun timer => decide (timer.due ≤ instant)
  have left : (state.queue.advanceTo instant).timers.length =
      (state.queue.timers.filter fun timer => !decide (timer.due ≤ instant)).length := by
    simp [WorkQueue.advanceTo]
  simp only [backlog, left, (WorkQueue.advanceTo_agrees state.queue instant).line]
  rw [List.length_map] at longer
  omega

theorem buried_process (backend : Backend σ) (key : ResourceKey) (state : Dispatcher σ)
    (other : ResourceKey) (gone : Resource)
    (buried : (state.process backend key).2.tombstones.get? other = some gone) :
    state.tombstones.get? other = some gone := by
  rw [process_tombstones] at buried
  exact (kept_reconcile backend key state).buried other gone buried

/-- A pass that hands over nothing spends from the allowances. -/
theorem budget_process_lt {key : ResourceKey} (held : key ∈ state.queue.processing)
    (unbroken : (state.process backend key).2.isBroken = false)
    (nothing : state.handedOver backend key = []) :
    (state.process backend key).2.budget < state.budget := by
  have spent : (state.process backend key).2.queue.allowance maxRequeues key <
      state.queue.allowance maxRequeues key := by
    simpa [nothing] using allowance_process_lt held unbroken
  refine WorkQueue.totalAllowance_lt (fun other => ?_) spent
  by_cases same : key = other
  · exact same ▸ spent.le
  · simpa [nothing] using allowance_process_le_of_ne same held unbroken

/-- A pass uses up a tombstone, or else it spends from the allowances, unless it breaks off. -/
theorem unrest_process_lt {key : ResourceKey} (held : key ∈ state.queue.processing)
    (unbroken : state.isBroken = false) :
    (state.process backend key).2.unrest < state.unrest := by
  cases broken : (state.process backend key).2.isBroken with
  | true => exact unrest_lt_of_broken unbroken broken
  | false =>
      have same := broken.trans unbroken.symm
      have fewer := Table.size_le_of_kept (buried_process backend key state)
      have spends (nothing : state.handedOver backend key = []) :
          (state.process backend key).2.unrest < state.unrest :=
        unrest_lt_of_budget same fewer (budget_process_lt held broken nothing)
      cases buried : state.tombstones.get? key with
      | none => exact spends (handedOver_of_unburied buried)
      | some gone =>
          cases addressed : key.address with
          | error fault => exact spends (by simp only [handedOver, addressed])
          | ok address =>
              cases answered : (state.lookup backend key).1 with
              | error source => exact spends (handedOver_of_unanswered addressed answered)
              | ok found =>
                  obtain ⟨-, -, -, -, -, unburied⟩ := delivered_of_answered addressed answered
                  exact unrest_lt_of_tombstones same
                    (Table.size_lt_of_erased (buried_process backend key state) buried unburied)

theorem Stirs.unrest_lt (stirs : Stirs backend before after) (sound : before.queue.IsSound) :
    after.unrest < before.unrest := by
  cases stirs with
  | handOut waiting => exact unrest_handOut_lt sound waiting
  | fire pending => exact unrest_fire_lt sound pending
  | pass held unbroken => exact unrest_process_lt held unbroken

theorem Idles.unrest_le (idles : Idles before after) (sound : before.queue.IsSound) :
    after.unrest ≤ before.unrest := by
  cases idles with
  | change => exact le_rfl
  | advanceTo instant => exact unrest_advanceTo_le sound instant
  | shutDown => exact le_rfl

section Runs

variable {run : ℕ → Dispatcher σ}
  (alone : ∀ time,
    Stirs backend (run time) (run (time + 1)) ∨ Idles (run time) (run (time + 1)))

include alone

theorem isSound_of_alone (sound : (run 0).queue.IsSound) (time : ℕ) :
    (run time).queue.IsSound := by
  induction time with
  | zero => exact sound
  | succ time ih =>
      rcases alone time with stirs | idles
      · exact stirs.isSound ih
      · exact idles.isSound ih

theorem antitone_unrest (sound : (run 0).queue.IsSound) :
    Antitone fun time => (run time).unrest := by
  refine antitone_nat_of_succ_le fun time => ?_
  have soundNow := isSound_of_alone alone sound time
  rcases alone time with stirs | idles
  · exact (stirs.unrest_lt soundNow).le
  · exact idles.unrest_le soundNow

theorem exists_still (sound : (run 0).queue.IsSound) :
    ∃ calm, ∀ time, calm ≤ time → ¬ Stirs backend (run time) (run (time + 1)) := by
  obtain ⟨calm, constant⟩ :=
    WellFoundedLT.antitone_chain_condition (antitone_unrest alone sound)
  refine ⟨calm, fun time late stirs => ?_⟩
  have lower := stirs.unrest_lt (isSound_of_alone alone sound time)
  have same : (run time).unrest = (run (time + 1)).unrest :=
    (constant time late).symm.trans (constant (time + 1) (Nat.le_succ_of_le late))
  exact lower.ne' same

/-- Whatever has happened to a dispatcher, if it observes nothing more, every pass, hand-out and
firing lowers what is left to be done, and nothing raises it.  So there are finitely many of them,
whatever the world answers; there is always something to do before the dispatcher is at rest,
unless it breaks off; and if it goes on as long as it is not at rest, it comes to rest. -/
theorem History.comes_to_rest {trace : List Moment} (history : History backend trace (run 0)) :
    (∀ time, Stirs backend (run time) (run (time + 1)) →
      (run (time + 1)).unrest < (run time).unrest) ∧
    (∀ time, (run (time + 1)).unrest ≤ (run time).unrest) ∧
    {time | Stirs backend (run time) (run (time + 1))}.Finite ∧
    (∀ time, (run time).isBroken = false → ¬ (run time).AtRest →
      ∃ after, Stirs backend (run time) after) ∧
    ((∀ time, ¬ (run time).AtRest →
      ∃ later, time ≤ later ∧ Stirs backend (run later) (run (later + 1))) →
        ∃ time, (run time).AtRest) := by
  have sound := history.isSound
  obtain ⟨calm, still⟩ := exists_still alone sound
  refine ⟨fun time stirs => stirs.unrest_lt (isSound_of_alone alone sound time),
    fun time => antitone_unrest alone sound (Nat.le_succ time), ?_,
    fun time unbroken restless => ⟨_, stirs_goOn unbroken restless⟩, ?_⟩
  · refine (Set.finite_Iio calm).subset fun time stirs => ?_
    by_contra late
    exact still time (not_lt.1 late) stirs
  · intro goesOn
    refine ⟨calm, ?_⟩
    by_contra restless
    obtain ⟨later, late, stirs⟩ := goesOn calm restless
    exact still later late stirs

end Runs

/-- A zone is gone whose name another zone could take over. -/
def bequeathed : Dispatcher World :=
  let objects := Table.ofList [(⟨"b", some "team"⟩, Sample.zone "b" 2 "x")]
  Dispatcher.observe (.deleted (Sample.zone "a" 1 "x"))
    { queue := .withBackoff .standard, world := { zones := { store := { objects } } } }

/-- The dispatcher is left alone until the name is taken over, and after that. -/
def takeover (time : ℕ) : Dispatcher World :=
  (goOn World.backend)^[time] bequeathed

theorem comes_to_rest_bequeathed :
    (∃ time, (takeover time).AtRest) ∧
      {time | Stirs World.backend (takeover time) (takeover (time + 1))}.Finite := by
  have next (time : ℕ) : takeover (time + 1) = (takeover time).goOn World.backend :=
    Function.iterate_succ_apply' _ time bequeathed
  have resting (time : ℕ) : (takeover (time + 4)).AtRest := by
    induction time with
    | zero => decide +kernel
    | succ time ih => rwa [Nat.add_right_comm, next, goOn_of_atRest ih]
  have restless (time : ℕ) (notYet : ¬ (takeover time).AtRest) :
      Stirs World.backend (takeover time) (takeover (time + 1)) := by
    rw [next]
    refine stirs_goOn ?_ notYet
    match time with
    | 0 | 1 | 2 | 3 => decide +kernel
    | time + 4 => exact absurd (resting time) notYet
  have alone (time : ℕ) : Stirs World.backend (takeover time) (takeover (time + 1)) ∨
      Idles (takeover time) (takeover (time + 1)) := by
    by_cases rest : (takeover time).AtRest
    · rw [next, goOn_of_atRest rest]
      exact Or.inr (.change (takeover time) (takeover time).world)
    · exact Or.inl (restless time rest)
  have history : History World.backend [.observed (.deleted (Sample.zone "a" 1 "x"))]
      (takeover 0) :=
    (History.start _ _).observe _
  obtain ⟨-, -, finite, -, rests⟩ := History.comes_to_rest alone history
  exact ⟨rests fun time notYet => ⟨time, le_rfl, restless time notYet⟩, finite⟩

end Dispatcher

end ZoneKeeper
