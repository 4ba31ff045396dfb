import ZoneKeeper.Proofs.Queue.Expectations

/-!
# What a queue takes in

Of some keys that are added one after the other, a queue that is not shut down takes in those that
are not dirty already, each once, and nothing else about it changes.
-/

namespace ZoneKeeper.WorkQueue

variable {κ : Type} [DecidableEq κ] {queue : WorkQueue κ} {key : κ}

/-- Some keys that were clean have become dirty, and those of them that are not handed out wait
behind all others. -/
structure TakesIn (keys : List κ) (before after : WorkQueue κ) : Prop where
  nodup : keys.Nodup
  clean : ∀ key ∈ keys, key ∉ before.dirty
  dirty : after.dirty = keys.reverse ++ before.dirty
  line : after.line = before.line ++ keys.filter fun key => key ∉ before.processing
  processing : after.processing = before.processing
  timers : after.timers = before.timers

namespace TakesIn

variable {keys later : List κ} {before middle after : WorkQueue κ}

theorem nil (queue : WorkQueue κ) : TakesIn [] queue queue where
  nodup := List.nodup_nil
  clean := by simp
  dirty := rfl
  line := by simp
  processing := rfl
  timers := rfl

theorem append (first : TakesIn keys before middle) (second : TakesIn later middle after) :
    TakesIn (keys ++ later) before after where
  nodup := by
    refine List.nodup_append'.2 ⟨first.nodup, second.nodup, fun key early late => ?_⟩
    refine second.clean key late ?_
    rw [first.dirty, List.mem_append, List.mem_reverse]
    exact Or.inl early
  clean := by
    intro key taken
    rcases List.mem_append.1 taken with early | late
    · exact first.clean key early
    · have free := second.clean key late
      rw [first.dirty, List.mem_append, not_or] at free
      exact free.2
  dirty := by rw [second.dirty, first.dirty, List.reverse_append, List.append_assoc]
  line := by
    rw [second.line, first.line, first.processing, List.filter_append, List.append_assoc]
  processing := second.processing.trans first.processing
  timers := second.timers.trans first.timers

theorem mem_iff (taken : TakesIn keys before after) :
    key ∈ keys ↔ key ∈ after.dirty ∧ key ∉ before.dirty := by
  rw [taken.dirty, List.mem_append, List.mem_reverse]
  constructor
  · exact fun present => ⟨Or.inl present, taken.clean key present⟩
  · exact fun ⟨dirty, free⟩ => dirty.resolve_right free

theorem forget (taken : TakesIn keys before after) (key : κ) :
    TakesIn keys before (after.forget key) :=
  { taken with }

end TakesIn

theorem add_of_mem_dirty (dirty : key ∈ queue.dirty) : queue.add key = queue := by
  simp [add, dirty]

theorem takesIn_add (running : queue.shuttingDown = false) (clean : key ∉ queue.dirty) :
    TakesIn [key] queue (queue.add key) := by
  have added : queue.add key =
      { queue with
        dirty := key :: queue.dirty
        line := if queue.processing.contains key then queue.line else queue.line ++ [key] } := by
    simp [add, running, clean]
  refine ⟨List.nodup_singleton key, by simpa using clean, by simp [added], ?_, by simp [added],
    by simp [added]⟩
  rw [added]
  by_cases held : key ∈ queue.processing
  · simp [held]
  · simp [held]

/-- Of several keys exactly those are taken in that are not dirty already. -/
theorem exists_takesIn_addAll (running : queue.shuttingDown = false) (keys : List κ) :
    ∃ fresh, TakesIn fresh queue (keys.foldl WorkQueue.add queue) ∧
      ∀ key, key ∈ fresh ↔ key ∈ keys ∧ key ∉ queue.dirty := by
  obtain ⟨fresh, taken⟩ : ∃ fresh, TakesIn fresh queue (keys.foldl WorkQueue.add queue) := by
    induction keys generalizing queue with
    | nil => exact ⟨[], .nil queue⟩
    | cons key keys ih =>
        rw [List.foldl_cons]
        by_cases dirty : key ∈ queue.dirty
        · rw [add_of_mem_dirty dirty]
          exact ih running
        · obtain ⟨fresh, taken⟩ := ih ((shuttingDown_add queue key).trans running)
          exact ⟨_, (takesIn_add running dirty).append taken⟩
  refine ⟨fresh, taken, fun key => ?_⟩
  rw [taken.mem_iff, mem_dirty_addAll]
  tauto

end ZoneKeeper.WorkQueue
