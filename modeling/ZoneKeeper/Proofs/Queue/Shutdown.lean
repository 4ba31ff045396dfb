import ZoneKeeper.Proofs.Queue.Allowance
import ZoneKeeper.Proofs.Queue.Order
import ZoneKeeper.Queue.Consumers
import Mathlib.Data.List.Dedup
import Mathlib.Data.List.ReduceOption

/-!
# Draining a queue

After the shutdown nothing is taken in.  What was dirty by then is handed out at most once, in the
order of the line as far as it waited, and nothing else is handed out.  A consumer that finds the
line empty is told so.  If nobody asks for a key while another one is out, all that was dirty is
handed out before anybody is told that there will be no more keys.
-/

namespace ZoneKeeper.WorkQueue

variable {κ : Type} [DecidableEq κ] {queue : WorkQueue κ} {key : κ}

/-- The keys that are handed out among some calls. -/
def handOuts (queue : WorkQueue κ) (calls : List (Call κ)) : List κ :=
  (queue.answers calls).reduceOption

/-- Nobody asks for a key while one is handed out. -/
def TakesTurns (queue : WorkQueue κ) : List (Call κ) → Prop
  | [] => True
  | call :: calls => (call = .get → queue.processing = []) ∧ (call.run queue).TakesTurns calls

/-- Whoever asks for a key, or waits for one already, is told that there will be none. -/
def TurnsAway (queue : WorkQueue κ) : Prop :=
  ∀ waiting, (∀ time, Consumers.get ⟨queue, waiting⟩ time = ([], .shutdown, ⟨queue, waiting⟩)) ∧
    Consumers.serve ⟨queue, waiting⟩ =
      (waiting.map fun consumer => ⟨consumer, none⟩, ⟨queue, []⟩)

theorem stopped_run (stopped : queue.shuttingDown = true) (call : Call κ) :
    (call.run queue).shuttingDown = true := by
  by_contra running
  rw [Bool.not_eq_true] at running
  have before := running_of_call running
  rw [stopped] at before
  contradiction

/-- After the shutdown, no key gets dirty, and only a hand-out makes one clean. -/
theorem dirty_run_of_shuttingDown (stopped : queue.shuttingDown = true) {call : Call κ}
    (noGet : call ≠ .get) : (call.run queue).dirty = queue.dirty := by
  cases call with
  | get => contradiction
  | add key => exact congrArg dirty (addAll_of_shuttingDown stopped [key])
  | done | forget | shutDown => rfl
  | addRateLimited key => rw [Call.run, addRateLimited_of_shuttingDown stopped]
  | addAfter key delay =>
      rw [Call.run, (addAfter_agrees queue key delay).dirty, addAll_of_shuttingDown stopped]
  | fire timer =>
      have stillStopped : shuttingDown { queue with timers := queue.timers.erase timer } = true :=
        stopped
      have ignored := congrArg dirty (addAll_of_shuttingDown stillStopped [timer.key])
      exact ignored
  | advanceTo instant =>
      rw [Call.run, (advanceTo_agrees queue instant).dirty, addAll_of_shuttingDown stopped]

theorem requeues_run_le (stopped : queue.shuttingDown = true) (call : Call κ) (key : κ) :
    (call.run queue).requeues key ≤ queue.requeues key := by
  cases call with
  | add other => exact (requeues_add queue other key).le
  | get =>
      cases taken : queue.take? with
      | none => simp [Call.run, taken]
      | some handout => simpa [Call.run, taken] using (requeues_take taken key).le
  | done | shutDown => exact le_refl _
  | addRateLimited other => rw [Call.run, addRateLimited_of_shuttingDown stopped]
  | addAfter other delay => exact (requeues_addAfter queue other delay key).le
  | forget other =>
      rw [Call.run, requeues_forget]
      split
      · exact Nat.zero_le _
      · exact le_refl _
  | fire timer => exact (requeues_add _ timer.key key).le
  | advanceTo instant => exact (requeues_advanceTo queue instant key).le

theorem turnsAway_of_line (stopped : queue.shuttingDown = true) (empty : queue.line = []) :
    queue.TurnsAway := by
  have nothing : queue.take? = none := take?_eq_none_iff.2 empty
  intro waiting
  refine ⟨fun time => ?_, ?_⟩
  · simp [Consumers.get, Consumers.look, nothing, stopped]
  · cases waiting with
    | nil => rfl
    | cons consumer waiting => simp [Consumers.serve, Consumers.serveQueue, nothing, stopped]

/-- Some keys have been handed out one after the other, each of which was dirty before, and all
other dirty keys still are.  Those that waited come first, in the order of the line. -/
structure Drained (before : WorkQueue κ) (keys : List κ) (after : WorkQueue κ) : Prop where
  nodup : keys.Nodup
  mem_dirty_iff : ∀ key, key ∈ before.dirty ↔ key ∈ keys ∨ key ∈ after.dirty
  clean : ∀ key ∈ keys, key ∉ after.dirty
  line : before.line <+: keys ++ after.line

namespace Drained

variable {keys later : List κ} {before middle after : WorkQueue κ}

omit [DecidableEq κ] in
theorem refl (queue : WorkQueue κ) : Drained queue [] queue :=
  ⟨List.nodup_nil, by simp, by simp, List.prefix_rfl⟩

omit [DecidableEq κ] in
theorem append (first : Drained before keys middle) (second : Drained middle later after) :
    Drained before (keys ++ later) after where
  nodup := by
    refine List.nodup_append'.2 ⟨first.nodup, second.nodup, fun key early late => ?_⟩
    exact first.clean key early ((second.mem_dirty_iff key).2 (Or.inl late))
  mem_dirty_iff key := by
    rw [first.mem_dirty_iff, second.mem_dirty_iff, List.mem_append, or_assoc]
  clean := by
    intro key handedOut dirty
    rcases List.mem_append.1 handedOut with early | late
    · exact first.clean key early ((second.mem_dirty_iff key).2 (Or.inr dirty))
    · exact second.clean key late dirty
  line := by
    rw [List.append_assoc]
    exact first.line.trans ((List.prefix_append_right_inj keys).2 second.line)

end Drained

theorem drained_take (sound : queue.IsSound) {rest : WorkQueue κ}
    (taken : queue.take? = some (key, rest)) : Drained queue [key] rest := by
  obtain ⟨line, waiting, rfl⟩ := take?_eq_some_iff.1 taken
  obtain ⟨dirty, -⟩ := (sound.mem_line_iff key).1 (by simp [waiting])
  refine ⟨List.nodup_singleton key, fun other => ?_, by simp, ?_⟩
  · simp only [List.mem_singleton, List.mem_filter, decide_eq_true_eq]
    by_cases same : other = key
    · simp [same, dirty]
    · simp [same]
  · rw [waiting]
    exact List.prefix_rfl

theorem drained_run (sound : queue.IsSound) (stopped : queue.shuttingDown = true)
    (call : Call κ) :
    Drained queue (call.answer? queue).toList.reduceOption (call.run queue) := by
  by_cases asks : call = .get
  · subst asks
    cases taken : queue.take? with
    | none => simpa [Call.answer?, Call.run, taken] using Drained.refl queue
    | some handout =>
        obtain ⟨key, rest⟩ := handout
        simpa [Call.answer?, Call.run, taken] using drained_take sound taken
  · have unanswered : call.answer? queue = none := by
      cases call with
      | get => contradiction
      | _ => rfl
    have dirty := dirty_run_of_shuttingDown stopped asks
    rw [unanswered]
    exact ⟨List.nodup_nil, by simp [dirty], by simp, line_prefix_run asks⟩

theorem drained_runAll (sound : queue.IsSound) (stopped : queue.shuttingDown = true)
    {calls : List (Call κ)} (allowed : queue.Allows calls) :
    Drained queue (queue.handOuts calls) (queue.runAll calls) ∧
      (queue.runAll calls).shuttingDown = true := by
  induction calls generalizing queue with
  | nil => exact ⟨.refl queue, stopped⟩
  | cons call calls ih =>
      obtain ⟨first, rest⟩ := allowed
      obtain ⟨later, still⟩ := ih (sound.call call first) (stopped_run stopped call) rest
      rw [handOuts, answers, List.reduceOption_append]
      exact ⟨(drained_run sound stopped call).append later, still⟩

/-- If nobody asks for a key while another one is out, the gets after the shutdown are answered with
the dirty keys, each once, and then with nothing any more. -/
theorem answers_of_takesTurns (sound : queue.IsSound) (stopped : queue.shuttingDown = true)
    {calls : List (Call κ)} (allowed : queue.Allows calls) (turns : queue.TakesTurns calls) :
    ∃ order nones, order.Nodup ∧ (∀ key, key ∈ order ↔ key ∈ queue.dirty) ∧
      queue.line <+: order ∧
      queue.answers calls <+: order.map some ++ List.replicate nones none := by
  induction calls generalizing queue with
  | nil =>
      have onLine : ∀ key, key ∈ queue.line ↔ key ∈ queue.dirty ∧ key ∉ queue.processing :=
        sound.mem_line_iff
      refine ⟨queue.line ++ (queue.dirty.filter (· ∈ queue.processing)).dedup, 0, ?_, ?_,
        List.prefix_append _ _, List.nil_prefix⟩
      · refine List.nodup_append'.2 ⟨sound.line_nodup, List.nodup_dedup _, fun key waits held => ?_⟩
        rw [List.mem_dedup, List.mem_filter, decide_eq_true_eq] at held
        exact ((onLine key).1 waits).2 held.2
      · intro key
        rw [List.mem_append, List.mem_dedup, List.mem_filter, decide_eq_true_eq, onLine]
        tauto
  | cons call calls ih =>
      obtain ⟨first, rest⟩ := allowed
      obtain ⟨alone, later⟩ := turns
      obtain ⟨order, nones, nodup, dirty, line, answered⟩ :=
        ih (sound.call call first) (stopped_run stopped call) rest later
      by_cases asks : call = .get
      · subst asks
        rw [answers_get]
        cases taken : queue.take? with
        | none =>
            have unchanged : Call.run queue .get = queue := by simp [Call.run, taken]
            rw [unchanged] at dirty answered ⊢
            -- Nothing waits and nothing is out, so that nothing is dirty.
            have clean : order = [] := by
              apply List.eq_nil_iff_forall_not_mem.2
              intro key ordered
              have waits := (sound.mem_line_iff key).2
                ⟨(dirty key).1 ordered, by simp [alone rfl]⟩
              rw [take?_eq_none_iff.1 taken] at waits
              simp at waits
            subst clean
            refine ⟨[], nones + 1, List.nodup_nil, dirty, ?_, ?_⟩
            · rw [take?_eq_none_iff.1 taken]
            · exact List.cons_prefix_cons.2 ⟨rfl, answered⟩
        | some handout =>
            obtain ⟨key, rest⟩ := handout
            have run : Call.run queue .get = rest := by simp [Call.run, taken]
            rw [run] at dirty answered line ⊢
            have drained := drained_take sound taken
            refine ⟨key :: order, nones, ?_, fun other => ?_, ?_, ?_⟩
            · refine List.nodup_cons.2 ⟨fun again => ?_, nodup⟩
              exact drained.clean key List.mem_cons_self ((dirty key).1 again)
            · rw [drained.mem_dirty_iff, List.mem_cons, List.mem_singleton, dirty]
            · exact drained.line.trans (List.cons_prefix_cons.2 ⟨rfl, line⟩)
            · exact List.cons_prefix_cons.2 ⟨rfl, answered⟩
      · rw [answers_of_ne_get asks]
        rw [dirty_run_of_shuttingDown stopped asks] at dirty
        exact ⟨order, nones, nodup, dirty, (line_prefix_run asks).trans line, answered⟩

/-- Whatever is called after the shutdown, only keys are handed out that were dirty by then, each at
most once, and first those that waited, in the order of the line.  No failure is counted any more,
and whoever finds the line empty is told that there will be no more keys.  If nobody asks for a key
while another one is out, the gets are answered with all the keys that were dirty, each once, and
after that with nothing. -/
theorem History.shutDown_drains {backoff : Backoff} {trace : List (Deed κ)} {queue : WorkQueue κ}
    (history : History backoff trace queue) {calls : List (Call κ)}
    (allowed : queue.shutDown.Allows calls) :
    (∀ key ∈ queue.shutDown.handOuts calls, key ∈ queue.dirty) ∧
    (queue.shutDown.handOuts calls).Nodup ∧
    queue.line <+: queue.shutDown.handOuts calls ++ (queue.shutDown.runAll calls).line ∧
    (∀ call key, (Call.run (queue.shutDown.runAll calls) call).requeues key ≤
      (queue.shutDown.runAll calls).requeues key) ∧
    ((queue.shutDown.runAll calls).line = [] → (queue.shutDown.runAll calls).TurnsAway) ∧
    (queue.shutDown.TakesTurns calls →
      ∃ order nones, order.Nodup ∧ (∀ key, key ∈ order ↔ key ∈ queue.dirty) ∧
        queue.line <+: order ∧
        queue.shutDown.answers calls <+: order.map some ++ List.replicate nones none) := by
  have sound : queue.shutDown.IsSound := history.accounts.sound.call .shutDown trivial
  have stopped : queue.shutDown.shuttingDown = true := rfl
  obtain ⟨drained, still⟩ := drained_runAll sound stopped allowed
  refine ⟨fun key handedOut => ?_, drained.nodup, drained.line, ?_, ?_, ?_⟩
  · exact (drained.mem_dirty_iff key).2 (Or.inl handedOut)
  · exact fun call key => requeues_run_le still call key
  · exact fun empty => turnsAway_of_line still empty
  · exact fun turns => answers_of_takesTurns sound stopped allowed turns

/-- One key is out and was added again, two others wait, and a fourth one is to be added later. -/
def halfDone : WorkQueue Nat :=
  (WorkQueue.withBackoff .standard).runAll
    [.add 1, .get, .add 1, .add 2, .add 3, .addAfter 4 (.ofMillis 5)]

/-- The calls of a single consumer, among those of others. -/
def lastCalls : List (Call Nat) :=
  [.done 1, .fire ⟨.ofMillis 5, 4⟩, .add 9, .get, .addRateLimited 2, .done 2, .get, .add 3, .done 3,
    .shutDown, .get, .done 1, .get, .add 1, .get]

/-- The key that was out is handed out once more behind the others, and the one that was to be added
later never. -/
theorem shutDown_drains_readded :
    History .standard [.added 1, .handedOut 1, .added 1, .added 2, .added 3] halfDone ∧
      halfDone.shutDown.Allows lastCalls ∧ halfDone.shutDown.TakesTurns lastCalls ∧
      halfDone.shutDown.answers lastCalls = [some 2, some 3, some 1, none, none] ∧
      (halfDone.shutDown.runAll lastCalls).TurnsAway ∧
      ∃ order nones, order.Nodup ∧ (∀ key, key ∈ order ↔ key ∈ halfDone.dirty) ∧
        halfDone.line <+: order ∧
        halfDone.shutDown.answers lastCalls <+: order.map some ++ List.replicate nones none := by
  have history : History .standard
      [.added 1, .handedOut 1, .added 1, .added 2, .added 3] halfDone :=
    (((((History.start.call (.add 1) (by decide)).call .get (by decide)).call (.add 1)
      (by decide)).call (.add 2) (by decide)).call (.add 3) (by decide)).call
      (.addAfter 4 (.ofMillis 5)) (by decide)
  have allowed : halfDone.shutDown.Allows lastCalls := by decide
  have turns : halfDone.shutDown.TakesTurns lastCalls :=
    ⟨nofun, nofun, nofun, fun _ => rfl, nofun, nofun, fun _ => rfl, nofun, nofun, nofun,
      fun _ => rfl, nofun, fun _ => rfl, nofun, fun _ => rfl, trivial⟩
  obtain ⟨-, -, -, -, turnsAway, drains⟩ := history.shutDown_drains allowed
  exact ⟨history, allowed, turns, by decide, turnsAway (by decide), drains turns⟩

end ZoneKeeper.WorkQueue
