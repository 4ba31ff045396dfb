import ZoneKeeper.Queue.WorkQueue
import Mathlib.Data.List.Nodup

/-!
# The three collections of a work queue

A key may stand in the line, be dirty, and be handed out.  The line holds, each once, exactly the
dirty keys that are not handed out; every operation keeps this up.  What a queue makes of its keys
depends on the three collections and on the shutdown alone, so most operations come down to adding
some keys, or to nothing at all.
-/

namespace ZoneKeeper.WorkQueue

variable {κ : Type} [DecidableEq κ]

/-- The line holds, each once, exactly the dirty keys that are not handed out. -/
structure IsSound (queue : WorkQueue κ) : Prop where
  line_nodup : queue.line.Nodup
  mem_line_iff : ∀ key, key ∈ queue.line ↔ key ∈ queue.dirty ∧ key ∉ queue.processing

omit [DecidableEq κ] in
theorem isSound_withBackoff (backoff : Backoff) :
    (WorkQueue.withBackoff backoff : WorkQueue κ).IsSound :=
  ⟨List.nodup_nil, by simp [withBackoff]⟩

/-- Two queues that differ at most in their counters, their timers and their clocks. -/
structure Agrees (first second : WorkQueue κ) : Prop where
  line : first.line = second.line
  dirty : first.dirty = second.dirty
  processing : first.processing = second.processing
  shuttingDown : first.shuttingDown = second.shuttingDown

omit [DecidableEq κ] in
theorem Agrees.refl (queue : WorkQueue κ) : queue.Agrees queue :=
  ⟨rfl, rfl, rfl, rfl⟩

omit [DecidableEq κ] in
theorem Agrees.symm {first second : WorkQueue κ} (alike : first.Agrees second) :
    second.Agrees first :=
  ⟨alike.line.symm, alike.dirty.symm, alike.processing.symm, alike.shuttingDown.symm⟩

omit [DecidableEq κ] in
theorem Agrees.trans {first second third : WorkQueue κ} (left : first.Agrees second)
    (right : second.Agrees third) : first.Agrees third :=
  ⟨left.line.trans right.line, left.dirty.trans right.dirty,
    left.processing.trans right.processing, left.shuttingDown.trans right.shuttingDown⟩

theorem Agrees.add {first second : WorkQueue κ} (alike : first.Agrees second) (key : κ) :
    (first.add key).Agrees (second.add key) := by
  obtain ⟨line, dirty, processing, shuttingDown⟩ := alike
  unfold WorkQueue.add
  rw [line, dirty, processing, shuttingDown]
  split
  · exact ⟨line, dirty, processing, shuttingDown⟩
  · exact ⟨rfl, rfl, rfl, rfl⟩

theorem Agrees.addAll {first second : WorkQueue κ} (alike : first.Agrees second) (keys : List κ) :
    (keys.foldl WorkQueue.add first).Agrees (keys.foldl WorkQueue.add second) := by
  induction keys generalizing first second with
  | nil => exact alike
  | cons key keys ih => exact ih (alike.add key)

omit [DecidableEq κ] in
theorem IsSound.of_agrees {first second : WorkQueue κ} (sound : second.IsSound)
    (alike : first.Agrees second) : first.IsSound := by
  obtain ⟨line, dirty, processing, -⟩ := alike
  exact ⟨line ▸ sound.line_nodup, by rw [line, dirty, processing]; exact sound.mem_line_iff⟩

@[simp]
theorem processing_add (queue : WorkQueue κ) (key : κ) :
    (queue.add key).processing = queue.processing := by
  unfold add
  split <;> rfl

@[simp]
theorem shuttingDown_add (queue : WorkQueue κ) (key : κ) :
    (queue.add key).shuttingDown = queue.shuttingDown := by
  unfold add
  split <;> rfl

theorem mem_dirty_add {queue : WorkQueue κ} {key other : κ} :
    other ∈ (queue.add key).dirty ↔
      other ∈ queue.dirty ∨ queue.shuttingDown = false ∧ other = key := by
  unfold add
  by_cases stopped : queue.shuttingDown
  · simp [stopped]
  · by_cases known : key ∈ queue.dirty
    · simp only [known, List.contains_eq_mem, decide_true, Bool.or_true, if_true]
      constructor
      · exact Or.inl
      · rintro (here | ⟨-, rfl⟩)
        · exact here
        · exact known
    · simp [stopped, known, or_comm]

theorem IsSound.add {queue : WorkQueue κ} (sound : queue.IsSound) (key : κ) :
    (queue.add key).IsSound := by
  unfold WorkQueue.add
  split
  · exact sound
  · rename_i fresh
    simp only [List.contains_eq_mem, Bool.or_eq_true, decide_eq_true_eq, not_or] at fresh ⊢
    have absent : key ∉ queue.line := fun waiting =>
      fresh.2 ((sound.mem_line_iff key).1 waiting).1
    by_cases held : key ∈ queue.processing
    · simp only [held, if_true]
      refine ⟨sound.line_nodup, fun other => ?_⟩
      rw [sound.mem_line_iff]
      constructor
      · exact fun ⟨dirty, free⟩ => ⟨List.mem_cons_of_mem key dirty, free⟩
      · rintro ⟨dirty, free⟩
        have apart : other ≠ key := fun same => free (same ▸ held)
        exact ⟨(List.mem_cons.1 dirty).resolve_left apart, free⟩
    · simp only [held, if_false]
      refine ⟨List.nodup_append.2 ⟨sound.line_nodup, List.nodup_singleton key, ?_⟩, fun other => ?_⟩
      · rintro other waiting last isLast rfl
        exact absent (List.mem_singleton.1 isLast ▸ waiting)
      · rw [List.mem_append, List.mem_singleton, List.mem_cons, sound.mem_line_iff]
        constructor
        · rintro (⟨dirty, free⟩ | rfl)
          · exact ⟨Or.inr dirty, free⟩
          · exact ⟨Or.inl rfl, held⟩
        · rintro ⟨rfl | dirty, free⟩
          · exact Or.inr rfl
          · exact Or.inl ⟨dirty, free⟩

theorem take?_eq_some_iff {queue rest : WorkQueue κ} {key : κ} :
    queue.take? = some (key, rest) ↔ ∃ line, queue.line = key :: line ∧
      rest =
        { queue with
          line
          dirty := queue.dirty.filter (· ≠ key)
          processing := queue.processing.insert key } := by
  unfold take?
  cases waiting : queue.line with
  | nil => simp
  | cons head line =>
      simp only [Option.some.injEq, Prod.mk.injEq, List.cons.injEq]
      constructor
      · rintro ⟨rfl, rfl⟩
        exact ⟨line, ⟨rfl, rfl⟩, rfl⟩
      · rintro ⟨_, ⟨rfl, rfl⟩, rfl⟩
        exact ⟨rfl, rfl⟩

theorem IsSound.take {queue rest : WorkQueue κ} {key : κ} (sound : queue.IsSound)
    (taken : queue.take? = some (key, rest)) : rest.IsSound := by
  obtain ⟨line, waiting, rfl⟩ := take?_eq_some_iff.1 taken
  have nodup := sound.line_nodup
  rw [waiting, List.nodup_cons] at nodup
  refine ⟨nodup.2, fun other => ?_⟩
  have held := sound.mem_line_iff other
  rw [waiting, List.mem_cons] at held
  simp only [List.mem_filter, decide_eq_true_eq, List.mem_insert_iff, not_or]
  constructor
  · intro behind
    have apart : other ≠ key := fun same => nodup.1 (same ▸ behind)
    obtain ⟨dirty, free⟩ := held.1 (Or.inr behind)
    exact ⟨⟨dirty, apart⟩, apart, free⟩
  · rintro ⟨⟨dirty, apart⟩, -, free⟩
    exact (held.2 ⟨dirty, free⟩).resolve_left apart

theorem IsSound.done {queue : WorkQueue κ} {key : κ} (sound : queue.IsSound)
    (held : key ∈ queue.processing) : (queue.done key).IsSound := by
  have absent : key ∉ queue.line := fun waiting =>
    ((sound.mem_line_iff key).1 waiting).2 held
  have others : ∀ other, other ≠ key →
      (other ∈ queue.line ↔ other ∈ queue.dirty ∧ ¬ (other ∈ queue.processing ∧ other ≠ key)) := by
    intro other apart
    rw [sound.mem_line_iff]
    simp [apart]
  by_cases dirty : key ∈ queue.dirty
  · simp only [WorkQueue.done, List.contains_eq_mem, dirty, decide_true, if_true]
    refine ⟨List.nodup_append.2 ⟨sound.line_nodup, List.nodup_singleton key, ?_⟩, fun other => ?_⟩
    · rintro other waiting last isLast rfl
      exact absent (List.mem_singleton.1 isLast ▸ waiting)
    · simp only [List.mem_append, List.mem_singleton, List.mem_filter, decide_eq_true_eq]
      by_cases same : other = key
      · simp [same, dirty]
      · simp only [same, or_false]
        exact others other same
  · simp only [WorkQueue.done, List.contains_eq_mem, dirty, decide_false, if_false,
      Bool.false_eq_true]
    refine ⟨sound.line_nodup, fun other => ?_⟩
    simp only [List.mem_filter, decide_eq_true_eq]
    by_cases same : other = key
    · subst same
      simp [absent, dirty]
    · exact others other same

/-- The keys that an addition after a delay adds at once. -/
def addedAfter (key : κ) (delay : Duration) : List κ :=
  if delay.isZero then [key] else []

/-- The keys that an addition after a failure adds at once. -/
def addedAfterFailure (queue : WorkQueue κ) (key : κ) : List κ :=
  if queue.shuttingDown then []
  else (queue.limiter.delay key).elim [] (addedAfter key)

theorem addAfter_agrees (queue : WorkQueue κ) (key : κ) (delay : Duration) :
    (queue.addAfter key delay).Agrees ((addedAfter key delay).foldl WorkQueue.add queue) := by
  unfold addAfter addedAfter
  split
  · exact Agrees.refl _
  · exact ⟨rfl, rfl, rfl, rfl⟩

theorem addRateLimited_agrees (queue : WorkQueue κ) (key : κ) :
    (queue.addRateLimited key).Agrees
      ((queue.addedAfterFailure key).foldl WorkQueue.add queue) := by
  unfold addRateLimited addedAfterFailure
  split
  · exact Agrees.refl queue
  · cases queue.limiter.delay key with
    | none => exact Agrees.refl queue
    | some delay =>
        have counted : Agrees { queue with limiter := queue.limiter.count key } queue :=
          ⟨rfl, rfl, rfl, rfl⟩
        refine (addAfter_agrees _ key delay).trans ?_
        simp only [Option.elim_some, addedAfter]
        split
        · exact counted.add key
        · exact counted

omit [DecidableEq κ] in
theorem due_trans (one two three : Timer κ) (early : decide (one.due ≤ two.due) = true)
    (late : decide (two.due ≤ three.due) = true) : decide (one.due ≤ three.due) = true := by
  rw [decide_eq_true_eq] at early late ⊢
  exact Nat.le_trans early late

omit [DecidableEq κ] in
theorem due_total (one two : Timer κ) (later : ¬ decide (one.due ≤ two.due) = true) :
    decide (two.due ≤ one.due) = true := by
  rw [decide_eq_true_eq] at later ⊢
  exact Nat.le_of_not_le later

/-- Moving the clock adds the keys of the timers that come due, in the order of their instants. -/
theorem advanceTo_agrees (queue : WorkQueue κ) (instant : Duration) :
    (queue.advanceTo instant).Agrees
      (((queue.dueBy instant).map Timer.key).foldl WorkQueue.add queue) := by
  rw [List.foldl_map]
  exact ⟨rfl, rfl, rfl, rfl⟩

theorem IsSound.addAll {queue : WorkQueue κ} (sound : queue.IsSound) (keys : List κ) :
    (keys.foldl WorkQueue.add queue).IsSound := by
  induction keys generalizing queue with
  | nil => exact sound
  | cons key keys ih => exact ih (sound.add key)

/-- After the shutdown nothing is taken in. -/
theorem addAll_of_shuttingDown {queue : WorkQueue κ} (stopped : queue.shuttingDown = true)
    (keys : List κ) : keys.foldl WorkQueue.add queue = queue := by
  induction keys with
  | nil => rfl
  | cons key keys ih =>
      have ignored : queue.add key = queue := by simp [WorkQueue.add, stopped]
      rw [List.foldl_cons, ignored, ih]

@[simp]
theorem processing_addAll (queue : WorkQueue κ) (keys : List κ) :
    (keys.foldl WorkQueue.add queue).processing = queue.processing := by
  induction keys generalizing queue with
  | nil => rfl
  | cons key keys ih => rw [List.foldl_cons, ih, processing_add]

@[simp]
theorem shuttingDown_addAll (queue : WorkQueue κ) (keys : List κ) :
    (keys.foldl WorkQueue.add queue).shuttingDown = queue.shuttingDown := by
  induction keys generalizing queue with
  | nil => rfl
  | cons key keys ih => rw [List.foldl_cons, ih, shuttingDown_add]

theorem mem_dirty_addAll {queue : WorkQueue κ} {keys : List κ} {other : κ} :
    other ∈ (keys.foldl WorkQueue.add queue).dirty ↔
      other ∈ queue.dirty ∨ queue.shuttingDown = false ∧ other ∈ keys := by
  induction keys generalizing queue with
  | nil => simp
  | cons key keys ih =>
      rw [List.foldl_cons, ih, mem_dirty_add, shuttingDown_add, List.mem_cons]
      constructor
      · rintro ((dirty | ⟨open_, rfl⟩) | ⟨open_, later⟩)
        · exact Or.inl dirty
        · exact Or.inr ⟨open_, Or.inl rfl⟩
        · exact Or.inr ⟨open_, Or.inr later⟩
      · rintro (dirty | ⟨open_, rfl | later⟩)
        · exact Or.inl (Or.inl dirty)
        · exact Or.inl (Or.inr ⟨open_, rfl⟩)
        · exact Or.inr ⟨open_, later⟩

end ZoneKeeper.WorkQueue
