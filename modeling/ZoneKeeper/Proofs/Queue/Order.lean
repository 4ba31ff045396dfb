import ZoneKeeper.Proofs.Queue.History

/-!
# The order of the hand-outs

Whatever is asked of a queue, keys leave its line at the front only, and join it at the back only.
So the line tells what the next gets are answered with: the keys that wait come first, in the order
of the line, whoever adds other keys in the meantime.
-/

namespace ZoneKeeper.WorkQueue

variable {κ : Type} [DecidableEq κ] {queue : WorkQueue κ}

/-- What a call is answered, if it asks for a key: the key that is handed out, if there is any. -/
def Call.answer? (queue : WorkQueue κ) : Call κ → Option (Option κ)
  | .get => some (queue.take?.map Prod.fst)
  | _ => none

/-- The queue after some calls. -/
def runAll (queue : WorkQueue κ) (calls : List (Call κ)) : WorkQueue κ :=
  calls.foldl Call.run queue

/-- What the gets among some calls are answered. -/
def answers (queue : WorkQueue κ) : List (Call κ) → List (Option κ)
  | [] => []
  | call :: calls => (call.answer? queue).toList ++ (call.run queue).answers calls

/-- Every call is allowed when it is made. -/
def Allows (queue : WorkQueue κ) : List (Call κ) → Prop
  | [] => True
  | call :: calls => call.IsAllowed queue ∧ (call.run queue).Allows calls

instance decidableAllows (queue : WorkQueue κ) :
    (calls : List (Call κ)) → Decidable (queue.Allows calls)
  | [] => isTrue trivial
  | call :: calls =>
      have := decidableAllows (call.run queue) calls
      inferInstanceAs (Decidable (call.IsAllowed queue ∧ (call.run queue).Allows calls))

theorem runAll_append (queue : WorkQueue κ) (calls later : List (Call κ)) :
    queue.runAll (calls ++ later) = (queue.runAll calls).runAll later :=
  List.foldl_append

theorem runAll_concat (queue : WorkQueue κ) (calls : List (Call κ)) (call : Call κ) :
    queue.runAll (calls ++ [call]) = call.run (queue.runAll calls) :=
  runAll_append queue calls [call]

theorem answers_get (calls : List (Call κ)) :
    queue.answers (.get :: calls) =
      queue.take?.map Prod.fst :: (Call.run queue .get).answers calls :=
  rfl

theorem answers_of_ne_get {call : Call κ} (other : call ≠ .get) (calls : List (Call κ)) :
    queue.answers (call :: calls) = (call.run queue).answers calls := by
  cases call with
  | get => contradiction
  | _ => rfl

theorem answers_append (queue : WorkQueue κ) (calls later : List (Call κ)) :
    queue.answers (calls ++ later) = queue.answers calls ++ (queue.runAll calls).answers later := by
  induction calls generalizing queue with
  | nil => rfl
  | cons call calls ih =>
      rw [List.cons_append, answers, answers, ih, List.append_assoc]
      rfl

theorem answers_of_no_get {calls : List (Call κ)} (asksNone : ∀ call ∈ calls, call ≠ .get) :
    queue.answers calls = [] := by
  induction calls generalizing queue with
  | nil => rfl
  | cons call calls ih =>
      rw [answers_of_ne_get (asksNone call List.mem_cons_self)]
      exact ih fun later present => asksNone later (List.mem_cons_of_mem call present)

theorem line_prefix_add (queue : WorkQueue κ) (key : κ) : queue.line <+: (queue.add key).line := by
  unfold add
  split
  · exact List.prefix_rfl
  · dsimp only
    split
    · exact List.prefix_rfl
    · exact List.prefix_append _ _

theorem line_prefix_addAll (queue : WorkQueue κ) (keys : List κ) :
    queue.line <+: (keys.foldl WorkQueue.add queue).line := by
  induction keys generalizing queue with
  | nil => exact List.prefix_rfl
  | cons key keys ih => exact (line_prefix_add queue key).trans (ih (queue.add key))

theorem line_prefix_done (queue : WorkQueue κ) (key : κ) :
    queue.line <+: (queue.done key).line := by
  unfold done
  dsimp only
  split
  · exact List.prefix_append _ _
  · exact List.prefix_rfl

/-- A call that does not ask for a key leaves those that wait where they are. -/
theorem line_prefix_run {call : Call κ} (other : call ≠ .get) :
    queue.line <+: (call.run queue).line := by
  cases call with
  | get => contradiction
  | add key => exact line_prefix_add queue key
  | done key => exact line_prefix_done queue key
  | addRateLimited key =>
      rw [Call.run, (addRateLimited_agrees queue key).line]
      exact line_prefix_addAll queue _
  | addAfter key delay =>
      rw [Call.run, (addAfter_agrees queue key delay).line]
      exact line_prefix_addAll queue _
  | forget | shutDown => exact List.prefix_rfl
  | fire timer =>
      exact line_prefix_add { queue with timers := queue.timers.erase timer } timer.key
  | advanceTo instant =>
      rw [Call.run, (advanceTo_agrees queue instant).line]
      exact line_prefix_addAll queue _

theorem take?_of_line {key : κ} {line : List κ} (waiting : queue.line = key :: line) :
    ∃ rest, queue.take? = some (key, rest) ∧ rest.line = line := by
  refine ⟨_, take?_eq_some_iff.2 ⟨line, waiting, rfl⟩, rfl⟩

theorem take?_eq_none_iff : queue.take? = none ↔ queue.line = [] := by
  unfold take?
  cases queue.line <;> simp

/-- Keys at the front of the line are handed out one after the other: either the gets so far were
answered with the first of them and the others are still at the front, or the first gets were
answered with all of them. -/
theorem answers_of_front {front : List κ} (atFront : front <+: queue.line)
    (calls : List (Call κ)) :
    (∃ served left, front = served ++ left ∧ queue.answers calls = served.map some ∧
        left <+: (queue.runAll calls).line) ∨
      front.map some <+: queue.answers calls := by
  induction calls generalizing queue front with
  | nil => exact Or.inl ⟨[], front, rfl, rfl, atFront⟩
  | cons call calls ih =>
      by_cases asks : call = .get
      · subst asks
        cases front with
        | nil => exact Or.inr List.nil_prefix
        | cons key front =>
            obtain ⟨behind, waiting⟩ := atFront
            obtain ⟨rest, taken, line⟩ := take?_of_line waiting.symm
            have run : Call.run queue .get = rest := by simp [Call.run, taken]
            have answered : queue.answers (.get :: calls) = some key :: rest.answers calls := by
              rw [answers_get, run, taken]
              rfl
            have next : front <+: rest.line := line ▸ List.prefix_append front behind
            rw [answered, runAll, List.foldl_cons, run]
            rcases ih next with ⟨served, left, parts, early, still⟩ | all
            · exact Or.inl ⟨key :: served, left, by rw [parts]; rfl, by rw [early]; rfl, still⟩
            · exact Or.inr (List.cons_prefix_cons.2 ⟨rfl, all⟩)
      · rw [answers_of_ne_get asks, runAll, List.foldl_cons]
        exact ih (atFront.trans (line_prefix_run asks))

/-- The same by the number of the gets. -/
theorem answers_of_line {ahead behind : List κ} {key : κ}
    (waiting : queue.line = ahead ++ key :: behind) (calls : List (Call κ)) :
    ((queue.answers calls).length ≤ ahead.length →
      queue.answers calls = (ahead.take (queue.answers calls).length).map some ∧
        ahead.drop (queue.answers calls).length ++ [key] <+: (queue.runAll calls).line) ∧
    (ahead.length < (queue.answers calls).length →
      (ahead ++ [key]).map some <+: queue.answers calls) := by
  have atFront : ahead ++ [key] <+: queue.line := ⟨behind, by simp [waiting]⟩
  rcases answers_of_front atFront calls with ⟨served, left, parts, answered, still⟩ | all
  · have counted : (queue.answers calls).length = served.length := by simp [answered]
    rw [counted]
    refine ⟨fun few => ?_, fun many => ?_⟩
    · have servedEq : ahead.take served.length = served := by
        rw [← List.take_append_of_le_length few, parts, List.take_left]
      have leftEq : ahead.drop served.length ++ [key] = left := by
        rw [← List.drop_append_of_le_length few, parts, List.drop_left]
      rw [servedEq, leftEq]
      exact ⟨answered, still⟩
    · have lengths := congrArg List.length parts
      simp only [List.length_append, List.length_singleton] at lengths
      have nothingLeft : left = [] := List.eq_nil_of_length_eq_zero (by omega)
      have whole : queue.answers calls = (ahead ++ [key]).map some := by
        rw [answered, parts, nothingLeft, List.append_nil]
      exact whole ▸ List.prefix_rfl
  · have lengths := all.length_le
    simp only [List.length_map, List.length_append, List.length_singleton] at lengths
    exact ⟨fun few => absurd few (by omega), fun _ => all⟩

/-- However the calls go on, the keys ahead of a key in the line are handed out next, in the order
of the line, and then the key itself; as long as it is not, it waits behind those of them that are
left.  A key that is out and has been added since waits nowhere; when it is done it joins the line
behind all keys that wait by then, and is handed out after them. -/
theorem History.handsOut_inTurn {backoff : Backoff} {trace : List (Deed κ)} {queue : WorkQueue κ}
    (history : History backoff trace queue) :
    (∀ ahead key behind, queue.line = ahead ++ key :: behind → ∀ calls,
      ((queue.answers calls).length ≤ ahead.length →
        queue.answers calls = (ahead.take (queue.answers calls).length).map some ∧
          ahead.drop (queue.answers calls).length ++ [key] <+: (queue.runAll calls).line) ∧
      (ahead.length < (queue.answers calls).length →
        (ahead ++ [key]).map some <+: queue.answers calls)) ∧
    ∀ key, Since (.handedOut key) (.finished key) trace →
      Since (.added key) (.handedOut key) trace →
      (Call.done key).IsAllowed queue ∧ key ∉ queue.line ∧
      (queue.done key).line = queue.line ++ [key] ∧
      ∀ calls, queue.line.length < ((queue.done key).answers calls).length →
        (queue.line ++ [key]).map some <+: (queue.done key).answers calls := by
  have accounts := history.accounts
  refine ⟨fun ahead key behind waiting calls => answers_of_line waiting calls, ?_⟩
  intro key unfinished readded
  have held : key ∈ queue.processing := (accounts.mem_processing_iff key).2 unfinished
  have dirty : key ∈ queue.dirty := (accounts.mem_dirty_iff key).2 readded
  have joined : (queue.done key).line = queue.line ++ [key] := by simp [done, dirty]
  refine ⟨held, fun waiting => ?_, joined, fun calls many => ?_⟩
  · exact ((accounts.sound.mem_line_iff key).1 waiting).2 held
  · exact (answers_of_line joined calls).2 many

/-- A key that was added again while it was out waits behind two others once it is done, and the
first of them is handed out although other keys are added first. -/
theorem handsOut_inTurn_readded :
    ∃ queue : WorkQueue Nat,
      History .standard
        [.added 7, .handedOut 7, .added 7, .added 4, .added 9] queue ∧
      queue.line = [4] ++ 9 :: [] ∧
      queue.answers [.add 5, .shutDown, .get] = [some 4] ∧
      [9] <+: (queue.runAll [.add 5, .shutDown, .get]).line ∧
      [some 4, some 9, some 7] <+:
        (queue.done 7).answers [.get, .add 4, .forget 7, .get, .done 4, .get, .get] := by
  have history : History .standard _ _ :=
    ((((History.start.call (.add 7) (by decide)).call .get (by decide)).call (.add 7)
      (by decide)).call (.add 4) (by decide)).call (.add 9) (by decide)
  obtain ⟨inTurn, readded⟩ := history.handsOut_inTurn
  refine ⟨_, history, rfl, ?_⟩
  obtain ⟨answered, still⟩ := (inTurn [4] 9 [] rfl [.add 5, .shutDown, .get]).1 (by decide)
  have unfinished : Since (.handedOut 7) (.finished 7)
      [Deed.added 7, .handedOut 7, .added 7, .added 4, .added 9] :=
    ⟨[.added 7], [.added 7, .added 4, .added 9], rfl, by decide⟩
  have again : Since (.added 7) (.handedOut 7)
      [Deed.added 7, .handedOut 7, .added 7, .added 4, .added 9] :=
    ⟨[.added 7, .handedOut 7], [.added 4, .added 9], rfl, by decide⟩
  obtain ⟨-, -, -, behind⟩ := readded 7 unfinished again
  exact ⟨answered, still, behind _ (by decide)⟩

end ZoneKeeper.WorkQueue
