import ZoneKeeper.Proofs.Queue.Soundness
import Mathlib.Data.List.Induction

/-!
# Histories of a work queue

Any number of producers and consumers call a queue in any order, and delayed additions fire in
between.  A history records what became of the keys: which were taken in, handed out and marked as
done.  What the queue holds can be read off its history, and in every history a key is handed out
once for all the times that it was added since it was handed out before.
-/

namespace ZoneKeeper.WorkQueue

section Traces

variable {α : Type}

/-- Whether something happened that opens a span, and nothing since that closes it. -/
def Since (opening closing : α) (trace : List α) : Prop :=
  ∃ before after, trace = before ++ opening :: after ∧ closing ∉ after

theorem concat_eq_append_cons_iff {trace before after : List α} {last middle : α} :
    trace ++ [last] = before ++ middle :: after ↔
      (after = [] ∧ last = middle ∧ trace = before) ∨
        ∃ rest, after = rest ++ [last] ∧ trace = before ++ middle :: rest := by
  constructor
  · intro same
    rcases List.eq_nil_or_concat after with rfl | ⟨rest, final, rfl⟩
    · obtain ⟨trace_eq, last_eq⟩ := List.append_inj' same rfl
      exact Or.inl ⟨rfl, List.head_eq_of_cons_eq last_eq, trace_eq⟩
    · rw [List.concat_eq_append, ← List.cons_append, ← List.append_assoc] at same
      obtain ⟨trace_eq, last_eq⟩ := List.append_inj' same rfl
      obtain rfl := List.head_eq_of_cons_eq last_eq
      exact Or.inr ⟨rest, by simp, trace_eq⟩
  · rintro (⟨rfl, rfl, rfl⟩ | ⟨rest, rfl, rfl⟩)
    · rfl
    · simp

@[simp]
theorem not_since_nil (opening closing : α) : ¬ Since opening closing [] := by
  rintro ⟨before, after, same, -⟩
  simp at same

theorem since_concat_iff {opening closing last : α} {trace : List α} :
    Since opening closing (trace ++ [last]) ↔
      last = opening ∨ last ≠ closing ∧ Since opening closing trace := by
  constructor
  · rintro ⟨before, after, same, quiet⟩
    rcases concat_eq_append_cons_iff.1 same with ⟨-, opens, -⟩ | ⟨rest, rfl, rfl⟩
    · exact Or.inl opens
    · simp only [List.mem_append, List.mem_singleton, not_or] at quiet
      exact Or.inr ⟨Ne.symm quiet.2, before, rest, rfl, quiet.1⟩
  · rintro (rfl | ⟨apart, before, after, rfl, quiet⟩)
    · exact ⟨trace, [], rfl, List.not_mem_nil⟩
    · refine ⟨before, after ++ [last], by simp, ?_⟩
      simp [quiet, Ne.symm apart]

theorem since_of_mem {opening closing : α} {trace later : List α} (opened : opening ∈ later)
    (quiet : closing ∉ later) : Since opening closing (trace ++ later) := by
  obtain ⟨before, after, rfl⟩ := List.append_of_mem opened
  refine ⟨trace ++ before, after, by simp, fun closes => quiet ?_⟩
  exact List.mem_append_right before (List.mem_cons_of_mem opening closes)

/-- Whether each closing of a span comes when the span is open. -/
def Alternates (opening closing : α) (trace : List α) : Prop :=
  ∀ before after, trace = before ++ closing :: after → Since opening closing before

theorem Alternates.of_append {opening closing : α} {trace later : List α}
    (alternates : Alternates opening closing (trace ++ later)) :
    Alternates opening closing trace :=
  fun before after same => alternates before (after ++ later) (by simp [same])

theorem Alternates.concat {opening closing last : α} {trace : List α}
    (alternates : Alternates opening closing trace)
    (opened : last = closing → Since opening closing trace) :
    Alternates opening closing (trace ++ [last]) := by
  intro before after same
  rcases concat_eq_append_cons_iff.1 same with ⟨-, closes, rfl⟩ | ⟨rest, -, earlier⟩
  · exact opened closes
  · exact alternates before rest earlier

variable [DecidableEq α]

/-- A span is closed at most as often as it is opened, and once less while it is open. -/
theorem Alternates.count_closing {opening closing : α} {trace : List α}
    (apart : opening ≠ closing) (alternates : Alternates opening closing trace) :
    trace.count closing ≤ trace.count opening ∧
      (Since opening closing trace → trace.count closing < trace.count opening) := by
  induction trace using List.reverseRecOn with
  | nil => simp
  | append_singleton trace last ih =>
      obtain ⟨bound, strict⟩ := ih alternates.of_append
      rw [since_concat_iff, List.count_append, List.count_append]
      by_cases opens : last = opening
      · subst opens
        have one : [last].count closing = 0 := by simp [apart]
        rw [one, List.count_singleton_self]
        omega
      · by_cases closes : last = closing
        · subst closes
          have open_ := strict (alternates trace [] rfl)
          have zero : [last].count opening = 0 := by simp [opens]
          rw [zero, List.count_singleton_self]
          refine ⟨by omega, ?_⟩
          rintro (same | ⟨changed, -⟩)
          · exact absurd same opens
          · exact absurd rfl changed
        · have none_opens : [last].count opening = 0 := by simp [opens]
          have none_closes : [last].count closing = 0 := by simp [closes]
          rw [none_opens, none_closes]
          refine ⟨bound, ?_⟩
          rintro (same | ⟨-, open_⟩)
          · exact absurd same opens
          · exact strict open_

/-- However often a span is opened before it is closed, it is closed once; then it stays closed
until it is opened again. -/
theorem Alternates.count_closing_of_opened {opening closing : α} {before between after : List α}
    (alternates : Alternates opening closing (before ++ between ++ after))
    (opened : opening ∈ between) (kept : closing ∉ between) (unopened : opening ∉ after) :
    (Since opening closing (before ++ between ++ after) ∧ after.count closing = 0) ∨
      (¬ Since opening closing (before ++ between ++ after) ∧ after.count closing = 1) := by
  induction after using List.reverseRecOn with
  | nil => simpa using since_of_mem opened kept
  | append_singleton after last ih =>
      rw [← List.append_assoc] at alternates ⊢
      simp only [List.mem_append, List.mem_singleton, not_or] at unopened
      have earlier := ih alternates.of_append unopened.1
      rw [since_concat_iff, List.count_append]
      by_cases closes : last = closing
      · subst closes
        have open_ := alternates (before ++ between ++ after) [] rfl
        obtain ⟨-, none_yet⟩ := earlier.resolve_right fun closed => closed.1 open_
        refine Or.inr ⟨?_, by simp [none_yet]⟩
        rintro (same | ⟨changed, -⟩)
        · exact unopened.2 same.symm
        · exact changed rfl
      · have none_closes : [last].count closing = 0 := by simp [closes]
        have same : last = opening ∨ last ≠ closing ∧
            Since opening closing (before ++ between ++ after) ↔
              Since opening closing (before ++ between ++ after) := by
          simp [closes, Ne.symm unopened.2]
        rw [none_closes, same]
        exact earlier

end Traces

/-- What becomes of a key. -/
inductive Deed (κ : Type) where
  | added (key : κ)
  | handedOut (key : κ)
  | finished (key : κ)
  deriving DecidableEq

/-- What producers and consumers ask of a queue, and what time does to it. -/
inductive Call (κ : Type) where
  | add (key : κ)
  | get
  | done (key : κ)
  | addRateLimited (key : κ)
  | addAfter (key : κ) (delay : Duration)
  | forget (key : κ)
  | shutDown
  /-- One of the delayed additions fires, whatever the clock says. -/
  | fire (timer : Timer κ)
  /-- The clock moves, and all that is due by then fires. -/
  | advanceTo (instant : Duration)

variable {κ : Type} [DecidableEq κ]

/-- Adds the key of a timer, which is then over. -/
def fire (queue : WorkQueue κ) (timer : Timer κ) : WorkQueue κ :=
  WorkQueue.add { queue with timers := queue.timers.erase timer } timer.key

/-- What is recorded when keys are added: after the shutdown nothing is taken in. -/
def takenIn (queue : WorkQueue κ) (keys : List κ) : List (Deed κ) :=
  if queue.shuttingDown then [] else keys.map .added

namespace Call

/-- A key is only marked as done while it is handed out, and only a pending addition fires. -/
def IsAllowed (queue : WorkQueue κ) : Call κ → Prop
  | .done key => key ∈ queue.processing
  | .fire timer => timer ∈ queue.timers
  | _ => True

instance (queue : WorkQueue κ) : (call : Call κ) → Decidable (call.IsAllowed queue)
  | .done key => inferInstanceAs (Decidable (key ∈ queue.processing))
  | .fire timer => inferInstanceAs (Decidable (timer ∈ queue.timers))
  | .add _ | .get | .addRateLimited _ | .addAfter _ _ | .forget _ | .shutDown | .advanceTo _ =>
      isTrue trivial

/-- The queue after a call.  Whoever asks for a key when the line is empty has to wait, or is told
that there will be none. -/
def run (queue : WorkQueue κ) : Call κ → WorkQueue κ
  | .add key => queue.add key
  | .get => (queue.take?.map Prod.snd).getD queue
  | .done key => queue.done key
  | .addRateLimited key => queue.addRateLimited key
  | .addAfter key delay => queue.addAfter key delay
  | .forget key => queue.forget key
  | .shutDown => queue.shutDown
  | .fire timer => queue.fire timer
  | .advanceTo instant => queue.advanceTo instant

/-- What a call does to the keys. -/
def deeds (queue : WorkQueue κ) : Call κ → List (Deed κ)
  | .add key => queue.takenIn [key]
  | .get => (queue.take?.map fun taken => .handedOut taken.1).toList
  | .done key => [.finished key]
  | .addRateLimited key => queue.takenIn (queue.addedAfterFailure key)
  | .addAfter key delay => queue.takenIn (addedAfter key delay)
  | .forget _ | .shutDown => []
  | .fire timer => queue.takenIn [timer.key]
  | .advanceTo instant => queue.takenIn ((queue.dueBy instant).map Timer.key)

end Call

/-- Every call keeps the three collections of a queue in order. -/
theorem IsSound.call {queue : WorkQueue κ} (sound : queue.IsSound) (call : Call κ)
    (allowed : call.IsAllowed queue) : (call.run queue).IsSound := by
  cases call with
  | add key => exact sound.add key
  | get =>
      cases taken : queue.take? with
      | none => simpa [Call.run, taken] using sound
      | some handout =>
          obtain ⟨key, rest⟩ := handout
          simpa [Call.run, taken] using sound.take taken
  | done key => exact sound.done allowed
  | addRateLimited key =>
      exact (sound.addAll (queue.addedAfterFailure key)).of_agrees
        (addRateLimited_agrees queue key)
  | addAfter key delay =>
      exact (sound.addAll (addedAfter key delay)).of_agrees (addAfter_agrees queue key delay)
  | forget | shutDown => exact ⟨sound.line_nodup, sound.mem_line_iff⟩
  | fire timer =>
      have pending : IsSound { queue with timers := queue.timers.erase timer } :=
        ⟨sound.line_nodup, sound.mem_line_iff⟩
      exact pending.add timer.key
  | advanceTo instant =>
      exact (sound.addAll ((queue.dueBy instant).map Timer.key)).of_agrees
        (advanceTo_agrees queue instant)

/-- The queues that calls make of a new one, and what they do to the keys on the way. -/
inductive History (backoff : Backoff) : List (Deed κ) → WorkQueue κ → Prop
  | start : History backoff [] (withBackoff backoff)
  | call {trace : List (Deed κ)} {queue : WorkQueue κ} (earlier : History backoff trace queue)
      (call : Call κ) (allowed : call.IsAllowed queue) :
      History backoff (trace ++ call.deeds queue) (call.run queue)

/-- The collections of a queue are what a trace tells, and each time that the trace tells of a key
that is handed out, the key had been added and was not out already. -/
structure Accounts (trace : List (Deed κ)) (queue : WorkQueue κ) : Prop where
  sound : queue.IsSound
  mem_dirty_iff : ∀ key, key ∈ queue.dirty ↔ Since (.added key) (.handedOut key) trace
  mem_processing_iff : ∀ key,
    key ∈ queue.processing ↔ Since (.handedOut key) (.finished key) trace
  alternates : ∀ key, Alternates (.added key) (.handedOut key) trace
  excludes : ∀ key before after, trace = before ++ .handedOut key :: after →
    ¬ Since (.handedOut key) (.finished key) before

namespace Accounts

variable {trace : List (Deed κ)} {queue : WorkQueue κ}

omit [DecidableEq κ] in
theorem of_agrees {first second : WorkQueue κ} (accounts : Accounts trace second)
    (alike : first.Agrees second) : Accounts trace first where
  sound := accounts.sound.of_agrees alike
  mem_dirty_iff := by rw [alike.dirty]; exact accounts.mem_dirty_iff
  mem_processing_iff := by rw [alike.processing]; exact accounts.mem_processing_iff
  alternates := accounts.alternates
  excludes := accounts.excludes

omit [DecidableEq κ] in
/-- The first key to be handed out after a trace is not out at its end. -/
theorem excludes_concat (accounts : Accounts trace queue) {deed : Deed κ}
    (free : ∀ key, deed = .handedOut key → key ∉ queue.processing) (key : κ)
    (before after : List (Deed κ)) (same : trace ++ [deed] = before ++ .handedOut key :: after) :
    ¬ Since (.handedOut key) (.finished key) before := by
  rcases concat_eq_append_cons_iff.1 same with ⟨-, isLast, rfl⟩ | ⟨rest, -, earlier⟩
  · rw [← accounts.mem_processing_iff]
    exact free key isLast
  · exact accounts.excludes key before rest earlier

theorem add (accounts : Accounts trace queue) (isOpen : queue.shuttingDown = false) (key : κ) :
    Accounts (trace ++ [.added key]) (queue.add key) where
  sound := accounts.sound.add key
  mem_dirty_iff other := by
    rw [mem_dirty_add, since_concat_iff, accounts.mem_dirty_iff]
    simp [isOpen, or_comm, eq_comm]
  mem_processing_iff other := by
    rw [processing_add, since_concat_iff, accounts.mem_processing_iff]
    simp
  alternates other := (accounts.alternates other).concat (by simp)
  excludes := accounts.excludes_concat (by simp)

theorem addAll (accounts : Accounts trace queue) (keys : List κ) :
    Accounts (trace ++ queue.takenIn keys) (keys.foldl WorkQueue.add queue) := by
  by_cases stopped : queue.shuttingDown
  · simpa [takenIn, stopped, addAll_of_shuttingDown stopped] using accounts
  · simp only [takenIn, stopped, Bool.false_eq_true, if_false]
    rw [Bool.not_eq_true] at stopped
    induction keys generalizing trace queue with
    | nil => simpa using accounts
    | cons key keys ih =>
        have next := ih (accounts.add stopped key) (by rw [shuttingDown_add, stopped])
        simpa using next

theorem take (accounts : Accounts trace queue) {rest : WorkQueue κ} {key : κ}
    (taken : queue.take? = some (key, rest)) : Accounts (trace ++ [.handedOut key]) rest := by
  have sound := accounts.sound.take taken
  obtain ⟨line, waiting, rfl⟩ := take?_eq_some_iff.1 taken
  obtain ⟨dirty, free⟩ := (accounts.sound.mem_line_iff key).1 (by rw [waiting]; simp)
  refine
    { sound
      mem_dirty_iff := fun other => ?_
      mem_processing_iff := fun other => ?_
      alternates := fun other => (accounts.alternates other).concat fun same => ?_
      excludes := accounts.excludes_concat fun other same => ?_ }
  · rw [since_concat_iff, ← accounts.mem_dirty_iff, List.mem_filter, and_comm]
    simp [@eq_comm _ other key]
  · rw [since_concat_iff, ← accounts.mem_processing_iff, List.mem_insert_iff]
    simp [@eq_comm _ other key]
  · rw [← Deed.handedOut.inj same, ← accounts.mem_dirty_iff]
    exact dirty
  · rw [← Deed.handedOut.inj same]
    exact free

theorem done (accounts : Accounts trace queue) {key : κ} (held : key ∈ queue.processing) :
    Accounts (trace ++ [.finished key]) (queue.done key) where
  sound := accounts.sound.done held
  mem_dirty_iff other := by
    rw [since_concat_iff, ← accounts.mem_dirty_iff]
    simp [WorkQueue.done]
  mem_processing_iff other := by
    rw [since_concat_iff, ← accounts.mem_processing_iff, WorkQueue.done, List.mem_filter, and_comm]
    simp [@eq_comm _ other key]
  alternates other := (accounts.alternates other).concat (by simp)
  excludes := accounts.excludes_concat (by simp)

/-- Every call keeps the account. -/
theorem call (accounts : Accounts trace queue) (call : Call κ) (allowed : call.IsAllowed queue) :
    Accounts (trace ++ call.deeds queue) (call.run queue) := by
  cases call with
  | add key => exact accounts.addAll [key]
  | get =>
      cases taken : queue.take? with
      | none => simpa [Call.deeds, Call.run, taken] using accounts
      | some handout =>
          obtain ⟨key, rest⟩ := handout
          simpa [Call.deeds, Call.run, taken] using accounts.take taken
  | done key => exact accounts.done allowed
  | addRateLimited key =>
      exact (accounts.addAll (queue.addedAfterFailure key)).of_agrees
        (addRateLimited_agrees queue key)
  | addAfter key delay =>
      exact (accounts.addAll (addedAfter key delay)).of_agrees (addAfter_agrees queue key delay)
  | forget key =>
      rw [Call.deeds, List.append_nil]
      exact accounts.of_agrees ⟨rfl, rfl, rfl, rfl⟩
  | shutDown =>
      rw [Call.deeds, List.append_nil]
      exact ⟨⟨accounts.sound.line_nodup, accounts.sound.mem_line_iff⟩, accounts.mem_dirty_iff,
        accounts.mem_processing_iff, accounts.alternates, accounts.excludes⟩
  | fire timer =>
      have pending : Agrees { queue with timers := queue.timers.erase timer } queue :=
        ⟨rfl, rfl, rfl, rfl⟩
      exact (accounts.addAll [timer.key]).of_agrees (pending.add timer.key)
  | advanceTo instant =>
      exact (accounts.addAll ((queue.dueBy instant).map Timer.key)).of_agrees
        (advanceTo_agrees queue instant)

end Accounts

theorem History.accounts {backoff : Backoff} {trace : List (Deed κ)} {queue : WorkQueue κ}
    (history : History backoff trace queue) : Accounts trace queue := by
  induction history with
  | start =>
      exact ⟨isSound_withBackoff backoff, by simp [withBackoff], by simp [withBackoff],
        fun key => by simp [Alternates], by simp⟩
  | call earlier call allowed accounts => exact accounts.call call allowed

/-- In every history the line holds, each once, the dirty keys that are not out, and a key is dirty
if it waits or was added while it is out.  A key that is out is not handed out before it is done; a
key that was added is dirty until it is handed out; and all the times that a key is added before it
is handed out make one hand-out, so that no key is handed out more often than it was added. -/
theorem History.handsOut_safely {backoff : Backoff} {trace : List (Deed κ)} {queue : WorkQueue κ}
    (history : History backoff trace queue) :
    queue.line.Nodup ∧
    (∀ key, key ∈ queue.dirty ↔ key ∈ queue.line ∨
      key ∈ queue.processing ∧ Since (.added key) (.handedOut key) trace) ∧
    (∀ key, key ∈ queue.line ↔ key ∈ queue.dirty ∧ key ∉ queue.processing) ∧
    (∀ key, key ∈ queue.processing ↔ Since (.handedOut key) (.finished key) trace) ∧
    (∀ key before between after, trace = before ++ .handedOut key :: between ++ after →
      .finished key ∉ between → .handedOut key ∉ between) ∧
    (∀ key before after, trace = before ++ .added key :: after →
      .handedOut key ∉ after → key ∈ queue.dirty) ∧
    (∀ key before between after, trace = before ++ between ++ after →
      .added key ∈ between → .handedOut key ∉ between → .added key ∉ after →
      after.count (.handedOut key) = if key ∈ queue.dirty then 0 else 1) ∧
    ∀ key, trace.count (.handedOut key) ≤ trace.count (.added key) := by
  have accounts := history.accounts
  refine ⟨accounts.sound.line_nodup, fun key => ?_, accounts.sound.mem_line_iff,
    accounts.mem_processing_iff, ?_, ?_, ?_, fun key => ?_⟩
  · rw [← accounts.mem_dirty_iff, accounts.sound.mem_line_iff]
    by_cases out : key ∈ queue.processing <;> simp [out]
  · rintro key before between after rfl unfinished again
    obtain ⟨first, second, rfl⟩ := List.append_of_mem again
    refine accounts.excludes key (before ++ .handedOut key :: first) (second ++ after) (by simp)
      ⟨before, first, rfl, fun finished => unfinished ?_⟩
    exact List.mem_append_left _ finished
  · rintro key before after rfl kept
    exact (accounts.mem_dirty_iff key).2 ⟨before, after, rfl, kept⟩
  · rintro key before between after rfl added kept quiet
    rcases (accounts.alternates key).count_closing_of_opened added kept quiet with
      ⟨open_, none_out⟩ | ⟨closed, one_out⟩
    · rw [if_pos ((accounts.mem_dirty_iff key).2 open_), none_out]
    · rw [if_neg fun dirty => closed ((accounts.mem_dirty_iff key).1 dirty), one_out]
  · exact ((accounts.alternates key).count_closing (by simp)).1

/-- A key that is added again while it is out waits once it is done, and is handed out once more. -/
theorem handsOut_safely_readded :
    ∃ queue : WorkQueue Nat,
      History .standard
        ([.added 7, .added 7, .handedOut 7] ++ [.added 7, .added 4, .added 7] ++
          [.finished 7, .handedOut 4]) queue ∧
      queue.line = [7] ∧
      [Deed.finished 7, .handedOut 4].count (.handedOut 7) = if 7 ∈ queue.dirty then 0 else 1 := by
  have history : History .standard _ _ :=
    (((((((History.start.call (.add 7) (by decide)).call (.add 7) (by decide)).call .get
      (by decide)).call (.add 7) (by decide)).call (.add 4) (by decide)).call (.add 7)
      (by decide)).call (.done 7) (by decide)).call .get (by decide)
  refine ⟨_, history, rfl, ?_⟩
  obtain ⟨-, -, -, -, -, -, handsOutOnce, -⟩ := history.handsOut_safely
  exact handsOutOnce 7 [.added 7, .added 7, .handedOut 7] [.added 7, .added 4, .added 7]
    [.finished 7, .handedOut 4] rfl (by decide) (by decide) (by decide)

end ZoneKeeper.WorkQueue
