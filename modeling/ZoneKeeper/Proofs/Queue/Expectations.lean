import ZoneKeeper.Proofs.Queue.History

/-!
# Keys that are still expected

A key is expected as long as it waits, is handed out, or is to be added after a delay.  Before the
shutdown only the end of the work on a key ends its expectation, and a failure that can be delayed
keeps it up.
-/

namespace ZoneKeeper.WorkQueue

variable {κ : Type}

/-- The key waits, is handed out, or will be added when a timer fires. -/
def Expects (queue : WorkQueue κ) (key : κ) : Prop :=
  key ∈ queue.line ∨ key ∈ queue.processing ∨ ∃ timer ∈ queue.timers, timer.key = key

variable [DecidableEq κ] {queue : WorkQueue κ} {key : κ}

omit [DecidableEq κ] in
/-- What waits is dirty, and what is dirty waits or is handed out. -/
theorem IsSound.expects_iff (sound : queue.IsSound) :
    queue.Expects key ↔
      key ∈ queue.dirty ∨ key ∈ queue.processing ∨ ∃ timer ∈ queue.timers, timer.key = key := by
  unfold Expects
  rw [sound.mem_line_iff]
  by_cases held : key ∈ queue.processing
  · simp [held]
  · simp [held]

omit [DecidableEq κ] in
/-- A key stays expected where no key gets clean or is given back, and no timer gets lost. -/
theorem Expects.mono {before after : WorkQueue κ} (expects : before.Expects key)
    (sound : before.IsSound) (soundAfter : after.IsSound)
    (dirty : key ∈ before.dirty → key ∈ after.dirty)
    (processing : key ∈ before.processing → key ∈ after.processing)
    (timers : ∀ timer ∈ before.timers, timer ∈ after.timers) : after.Expects key := by
  rw [sound.expects_iff] at expects
  rw [soundAfter.expects_iff]
  rcases expects with isDirty | held | ⟨timer, pending, keyed⟩
  · exact Or.inl (dirty isDirty)
  · exact Or.inr (Or.inl (processing held))
  · exact Or.inr (Or.inr ⟨timer, timers timer pending, keyed⟩)

@[simp]
theorem timers_add (queue : WorkQueue κ) (key : κ) : (queue.add key).timers = queue.timers := by
  unfold add
  split <;> rfl

theorem timers_addAfter (queue : WorkQueue κ) (key : κ) (delay : Duration) :
    queue.timers ⊆ (queue.addAfter key delay).timers := by
  unfold addAfter
  split
  · rw [timers_add]
    exact List.Subset.refl _
  · exact List.subset_append_left _ _

theorem timers_addRateLimited (queue : WorkQueue κ) (key : κ) :
    queue.timers ⊆ (queue.addRateLimited key).timers := by
  unfold addRateLimited
  split
  · exact List.Subset.refl _
  · split
    · exact timers_addAfter { queue with limiter := queue.limiter.count key } key _
    · exact List.Subset.refl _

/-- Before the shutdown, a key that is added after a delay is dirty at once or has a timer. -/
theorem awaited_addAfter (running : queue.shuttingDown = false) (key : κ) (delay : Duration) :
    key ∈ (queue.addAfter key delay).dirty ∨
      ∃ timer ∈ (queue.addAfter key delay).timers, timer.key = key := by
  unfold addAfter
  split
  · exact Or.inl (mem_dirty_add.2 (Or.inr ⟨running, rfl⟩))
  · exact Or.inr ⟨_, List.mem_append_right _ (List.mem_singleton.2 rfl), rfl⟩

theorem addRateLimited_of_delay {delay : Duration} (running : queue.shuttingDown = false)
    (delayed : queue.limiter.delay key = some delay) :
    queue.addRateLimited key =
      addAfter { queue with limiter := queue.limiter.count key } key delay := by
  unfold addRateLimited
  rw [if_neg (by simp [running]), delayed]

/-- Counting a failure has no part in what an addition does. -/
theorem addAfter_count (queue : WorkQueue κ) (key : κ) (delay : Duration) :
    addAfter { queue with limiter := queue.limiter.count key } key delay =
      { queue.addAfter key delay with limiter := queue.limiter.count key } := by
  unfold addAfter add
  by_cases zero : delay.isZero
  · by_cases known : (queue.shuttingDown || queue.dirty.contains key) = true
    · rw [if_pos zero, if_pos zero, if_pos known, if_pos known]
    · rw [if_pos zero, if_pos zero, if_neg known, if_neg known]
  · rw [if_neg zero, if_neg zero]

/-- Before the shutdown, a failure that can be delayed is counted, and the key is added later. -/
theorem exists_addRateLimited_eq (running : queue.shuttingDown = false)
    (delays : queue.canDelay key = true) :
    ∃ delay, queue.addRateLimited key =
      addAfter { queue with limiter := queue.limiter.count key } key delay := by
  rw [canDelay, running, Bool.false_or, Option.isSome_iff_exists] at delays
  obtain ⟨delay, delayed⟩ := delays
  exact ⟨delay, addRateLimited_of_delay running delayed⟩

/-- Before the shutdown, a key that can be delayed after its failures is dirty at once or has a
timer. -/
theorem awaited_addRateLimited (running : queue.shuttingDown = false)
    (delays : queue.canDelay key = true) :
    key ∈ (queue.addRateLimited key).dirty ∨
      ∃ timer ∈ (queue.addRateLimited key).timers, timer.key = key := by
  obtain ⟨delay, added⟩ := exists_addRateLimited_eq running delays
  have stillRunning : shuttingDown { queue with limiter := queue.limiter.count key } = false :=
    running
  rw [added]
  exact awaited_addAfter stillRunning key delay

theorem shuttingDown_take {rest : WorkQueue κ} (taken : queue.take? = some (key, rest)) :
    rest.shuttingDown = queue.shuttingDown := by
  obtain ⟨line, -, rfl⟩ := take?_eq_some_iff.1 taken
  rfl

/-- Whether or not a key is handed out, only the line and what is dirty or out may change. -/
theorem exists_run_get_eq (queue : WorkQueue κ) : ∃ line dirty processing,
    Call.run queue .get = { queue with line, dirty, processing } := by
  rw [Call.run]
  cases taken : queue.take? with
  | none => exact ⟨queue.line, queue.dirty, queue.processing, rfl⟩
  | some handout =>
      obtain ⟨key, rest⟩ := handout
      obtain ⟨line, -, rfl⟩ := take?_eq_some_iff.1 taken
      exact ⟨line, _, _, rfl⟩

theorem shuttingDown_run {call : Call κ} (other : call ≠ .shutDown) :
    (call.run queue).shuttingDown = queue.shuttingDown := by
  cases call with
  | add key => exact shuttingDown_add queue key
  | get =>
      obtain ⟨line, dirty, processing, moved⟩ := exists_run_get_eq queue
      rw [moved]
  | done | forget => rfl
  | addRateLimited key =>
      rw [Call.run, (addRateLimited_agrees queue key).shuttingDown, shuttingDown_addAll]
  | addAfter key delay =>
      rw [Call.run, (addAfter_agrees queue key delay).shuttingDown, shuttingDown_addAll]
  | shutDown => contradiction
  | fire timer => exact shuttingDown_add _ timer.key
  | advanceTo instant =>
      rw [Call.run, (advanceTo_agrees queue instant).shuttingDown, shuttingDown_addAll]

/-- The shutdown is never taken back. -/
theorem running_of_call {call : Call κ} (running : (call.run queue).shuttingDown = false) :
    queue.shuttingDown = false := by
  by_cases stops : call = .shutDown
  · subst stops
    contradiction
  · rwa [shuttingDown_run stops] at running

/-- Unless the work on it is done, or the queue is shut down, a key stays expected. -/
theorem Expects.call (expects : queue.Expects key) (sound : queue.IsSound) (call : Call κ)
    (allowed : call.IsAllowed queue) (unfinished : call ≠ .done key)
    (running : (call.run queue).shuttingDown = false) : (call.run queue).Expects key := by
  have wasRunning := running_of_call running
  have soundAfter := sound.call call allowed
  cases call with
  | add other =>
      exact expects.mono sound soundAfter (fun dirty => mem_dirty_add.2 (Or.inl dirty))
        (fun held => by rwa [Call.run, processing_add])
        fun timer pending => by rwa [Call.run, timers_add]
  | get =>
      cases taken : queue.take? with
      | none => simpa [Call.run, taken] using expects
      | some handout =>
          obtain ⟨other, rest⟩ := handout
          obtain ⟨line, waiting, rfl⟩ := take?_eq_some_iff.1 taken
          simp only [Call.run, taken, Option.map_some, Option.getD_some]
          -- The key that is handed out need not wait any more, and then it is being worked on.
          rcases expects with waits | held | pending
          · rw [waiting, List.mem_cons] at waits
            rcases waits with rfl | behind
            · exact Or.inr (Or.inl (List.mem_insert_iff.2 (Or.inl rfl)))
            · exact Or.inl behind
          · exact Or.inr (Or.inl (List.mem_insert_iff.2 (Or.inr held)))
          · exact Or.inr (Or.inr pending)
  | done other =>
      have apart : key ≠ other := fun same => unfinished (same ▸ rfl)
      exact expects.mono sound soundAfter id
        (fun held => List.mem_filter.2 ⟨held, by simpa using apart⟩) fun _ => id
  | addRateLimited other =>
      have agrees := addRateLimited_agrees queue other
      exact expects.mono sound soundAfter
        (fun dirty => by
          rw [Call.run, agrees.dirty, mem_dirty_addAll]
          exact Or.inl dirty)
        (fun held => by rwa [Call.run, agrees.processing, processing_addAll])
        fun _ pending => timers_addRateLimited queue other pending
  | addAfter other delay =>
      have agrees := addAfter_agrees queue other delay
      exact expects.mono sound soundAfter
        (fun dirty => by
          rw [Call.run, agrees.dirty, mem_dirty_addAll]
          exact Or.inl dirty)
        (fun held => by rwa [Call.run, agrees.processing, processing_addAll])
        fun _ pending => timers_addAfter queue other delay pending
  | forget | shutDown => exact expects
  | fire timer =>
      rw [soundAfter.expects_iff]
      rw [sound.expects_iff] at expects
      simp only [Call.run, fire, mem_dirty_add, processing_add, timers_add]
      rcases expects with dirty | held | ⟨other, pending, keyed⟩
      · exact Or.inl (Or.inl dirty)
      · exact Or.inr (Or.inl held)
      · by_cases same : other = timer
        · exact Or.inl (Or.inr ⟨wasRunning, by rw [← same, keyed]⟩)
        · exact Or.inr (Or.inr ⟨other, (List.mem_erase_of_ne same).2 pending, keyed⟩)
  | advanceTo instant =>
      have agrees := advanceTo_agrees queue instant
      rw [soundAfter.expects_iff]
      rw [sound.expects_iff] at expects
      simp only [Call.run, agrees.dirty, agrees.processing, mem_dirty_addAll, processing_addAll]
      rcases expects with dirty | held | ⟨timer, pending, keyed⟩
      · exact Or.inl (Or.inl dirty)
      · exact Or.inr (Or.inl held)
      · by_cases due : timer.due ≤ instant
        · refine Or.inl (Or.inr ⟨wasRunning, List.mem_map.2 ⟨timer, ?_, keyed⟩⟩)
          exact mem_sortBy.2 (List.mem_filter.2 ⟨pending, by simpa using due⟩)
        · exact Or.inr (Or.inr ⟨timer, List.mem_filter.2 ⟨pending, by simpa using due⟩, keyed⟩)

end ZoneKeeper.WorkQueue
