import ZoneKeeper.Dispatcher
import ZoneKeeper.Proofs.Queue.Soundness
import Mathlib.Logic.Relation

/-!
# The acts of a pass

Unless its object cannot be looked up, a pass is made of single acts: it remarks on something, asks
the world, queues a key, forgets its own key, or drops the tombstone of its own key.  What every act
keeps a whole pass keeps, whatever the world answers.
-/

namespace ZoneKeeper.Dispatcher

open Relation

variable {σ : Type}

/-- What a pass for a key does in one go. -/
inductive Act (backend : Backend σ) (key : ResourceKey) : Dispatcher σ → Dispatcher σ → Prop
  | note (state : Dispatcher σ) (notice : Notice) : Act backend key state (state.note notice)
  | forget (state : Dispatcher σ) : Act backend key state (state.forget key)
  | enqueue (state : Dispatcher σ) (other : ResourceKey) :
      Act backend key state (state.enqueue other)
  | dropTombstone (state : Dispatcher σ) : Act backend key state (state.dropTombstone key)
  | lookup (state : Dispatcher σ) : Act backend key state (state.lookup backend key).2
  | list (state : Dispatcher σ) (kind : Kind) (space : String) :
      Act backend key state (state.list backend kind space).2
  | call (state : Dispatcher σ) (operation : Operation) (resource : Resource) :
      Act backend key state (state.call backend operation resource).2
  | measure (state : Dispatcher σ) (metrics : Metrics) :
      Act backend key state { state with metrics }

/-- What a pass for a key does by and by. -/
abbrev Acts (backend : Backend σ) (key : ResourceKey) : Dispatcher σ → Dispatcher σ → Prop :=
  ReflTransGen (Act backend key)

/-- What a pass for a key does by and by without queueing any key. -/
structure Quiet (backend : Backend σ) (key : ResourceKey) (before after : Dispatcher σ) :
    Prop where
  acts : Acts backend key before after
  dirty : after.queue.dirty = before.queue.dirty

variable {backend : Backend σ} {key : ResourceKey} {state : Dispatcher σ}

theorem Quiet.refl (state : Dispatcher σ) : Quiet backend key state state :=
  ⟨ReflTransGen.refl, rfl⟩

theorem Quiet.trans {first second third : Dispatcher σ} (left : Quiet backend key first second)
    (right : Quiet backend key second third) : Quiet backend key first third :=
  ⟨left.acts.trans right.acts, right.dirty.trans left.dirty⟩

theorem Act.quiet {before after : Dispatcher σ} (act : Act backend key before after)
    (dirty : after.queue.dirty = before.queue.dirty) : Quiet backend key before after :=
  ⟨ReflTransGen.single act, dirty⟩

theorem quiet_failHandler (operation : Operation) (error : HandlerError) :
    Quiet backend key state (state.failHandler key operation error).2 :=
  ((Act.forget state).quiet rfl).trans ((Act.measure _ _).quiet rfl)

theorem acts_failHandler (operation : Operation) (error : HandlerError) :
    Acts backend key state (state.failHandler key operation error).2 :=
  (quiet_failHandler operation error).acts

theorem acts_handOverTo (zone : Resource) : Acts backend key state (state.handOverTo zone) := by
  unfold handOverTo
  split
  · exact (ReflTransGen.single (Act.note state _)).tail (Act.enqueue _ _)
  · exact ReflTransGen.single (Act.note state _)

theorem acts_list (kind : Kind) (space : String) :
    Acts backend key state (state.list backend kind space).2 :=
  ReflTransGen.single (Act.list state kind space)

theorem acts_handOverAll (zones : List Resource) :
    Acts backend key state (zones.foldl handOverTo state) := by
  induction zones generalizing state with
  | nil => exact ReflTransGen.refl
  | cons zone zones ih => exact (acts_handOverTo zone).trans ih

theorem acts_handOver (gone : Resource) : Acts backend key state (state.handOver backend gone) := by
  unfold handOver
  split
  · exact ReflTransGen.refl
  · rename_i space _
    have listed : Acts backend key state (state.list backend .zone space).2 :=
      acts_list .zone space
    split
    · rename_i after answered
      rw [answered] at listed
      exact listed.tail (Act.note _ _)
    · rename_i zones after answered
      rw [answered] at listed
      exact listed.trans (acts_handOverAll _)

theorem acts_handOver_if (condition : Prop) [Decidable condition] (gone : Resource) :
    Acts backend key state (if condition then state.handOver backend gone else state) := by
  split
  · exact acts_handOver gone
  · exact ReflTransGen.refl

theorem acts_handleDeletion : Acts backend key state (state.handleDeletion backend key).2 := by
  unfold handleDeletion
  split
  · exact ReflTransGen.single (Act.forget state)
  · rename_i gone _
    have called : Acts backend key state
        (((state.note .deletionDetected).call backend .deleted gone).2.dropTombstone key |>.forget
          key) :=
      (((ReflTransGen.single (Act.note state _)).tail (Act.call _ _ _)).tail
        (Act.dropTombstone _)).tail (Act.forget _)
    have handed := called.trans (acts_handOver_if (gone.kind = .zone) gone)
    dsimp only
    split
    · exact handed
    · rename_i fault _
      exact handed.trans (acts_failHandler .deleted fault)

theorem acts_settleRecreated (zoneName : String) :
    Acts backend key state (state.settleRecreated backend key zoneName).2 := by
  unfold settleRecreated
  split
  · exact ReflTransGen.refl
  · rename_i gone _
    have called : Acts backend key state
        (((state.dropTombstone key).note .recreated).call backend .deleted gone).2 :=
      ((ReflTransGen.single (Act.dropTombstone state)).tail (Act.note _ _)).tail (Act.call _ _ _)
    have handed := called.trans
      (acts_handOver_if ((gone.kind = .zone && gone.zoneName ≠ zoneName) = true) gone)
    dsimp only
    split
    · exact handed
    · rename_i fault _
      exact handed.trans (acts_failHandler .deleted fault)

theorem quiet_retire (zones : List Resource) :
    Quiet backend key state (state.retire backend zones).2 := by
  induction zones generalizing state with
  | nil => exact .refl state
  | cons zone zones ih =>
      have called : Quiet backend key state (state.call backend .deleted zone).2 :=
        (Act.call state .deleted zone).quiet rfl
      rw [retire]
      split
      · rename_i answered
        rw [answered] at called
        exact called
      · rename_i answered
        rw [answered] at called
        exact called.trans ih

theorem quiet_settleZone (zone : Resource) (zones : List Resource) :
    Quiet backend key state (state.settleZone backend key zone zones).2 := by
  unfold settleZone
  generalize canonical zone zones = owner
  have noted : Quiet backend key state
      (if owner.nameAny ≠ zone.nameAny then
        state.note (.claimedByOlderZone zone.zoneName owner.nameAny) else state) := by
    split
    · exact (Act.note state _).quiet rfl
    · exact .refl state
  dsimp only
  have called := noted.trans ((Act.call _ .created owner).quiet rfl)
  split
  · rename_i fault after answered
    rw [answered] at called
    exact called.trans (quiet_failHandler .created fault)
  · rename_i after answered
    rw [answered] at called
    have removed := called.trans (quiet_retire (superseded zone owner zones))
    split
    · rename_i fault after retired
      rw [retired] at removed
      exact removed.trans (quiet_failHandler .deleted fault)
    · rename_i after retired
      rw [retired] at removed
      exact removed.trans ((Act.forget _).quiet rfl)

theorem quiet_settleRecord (record : Resource) (records : List Resource) :
    Quiet backend key state (state.settleRecord key record records).2 :=
  ((Act.note state _).quiet rfl).trans ((Act.forget _).quiet rfl)

theorem quiet_settle (address : Address) (resource : Resource) :
    Quiet backend key state (state.settle backend key address resource).2 := by
  unfold settle
  have listed : Quiet backend key state (state.list backend key.kind address.space).2 :=
    (Act.list state key.kind address.space).quiet rfl
  split
  · rename_i answered
    rw [answered] at listed
    exact listed.trans ((Act.forget _).quiet rfl)
  · rename_i answered
    rw [answered] at listed
    split
    · exact listed.trans (quiet_settleZone resource _)
    · exact listed.trans (quiet_settleRecord resource _)

theorem acts_settle (address : Address) (resource : Resource) :
    Acts backend key state (state.settle backend key address resource).2 :=
  (quiet_settle address resource).acts

/-- A pass whose object can be looked up is made of acts. -/
theorem acts_reconcile (answers : ∀ address source, key.address = .ok address →
      (state.lookup backend key).1 ≠ .error source) :
    Acts backend key state (state.reconcile backend key).2 := by
  have asked : Acts backend key state (state.lookup backend key).2 :=
    ReflTransGen.single (Act.lookup state)
  unfold reconcile
  split
  · exact ReflTransGen.single (Act.forget state)
  · rename_i address addressed
    split
    · rename_i source after answered
      exact absurd (congrArg Prod.fst answered) (answers address source addressed)
    · rename_i after answered
      rw [answered] at asked
      exact asked.trans acts_handleDeletion
    · rename_i resource after answered
      rw [answered] at asked
      have recreated : Acts backend key state
          (after.settleRecreated backend key resource.zoneName).2 :=
        asked.trans (acts_settleRecreated resource.zoneName)
      split
      · rename_i failed
        rw [failed] at recreated
        exact recreated
      · rename_i settled
        rw [settled] at recreated
        exact recreated.trans (acts_settle address resource)

theorem reconcile_of_malformed {fault : KeyError} (malformed : key.address = .error fault) :
    state.reconcile backend key = (.error (.malformedKey fault), state.forget key) := by
  simp [reconcile, malformed]

theorem reconcile_of_unanswered {address : Address} {source : CacheError}
    (addressed : key.address = .ok address)
    (unanswered : (state.lookup backend key).1 = .error source) :
    state.reconcile backend key =
      (.error ((state.lookup backend key).2.failLookup key source).1,
        ((state.lookup backend key).2.failLookup key source).2) := by
  have answered : state.lookup backend key = (.error source, (state.lookup backend key).2) :=
    Prod.ext unanswered rfl
  simp only [reconcile, addressed]
  rw [answered]

theorem reconcile_of_absent {address : Address} {asked : Dispatcher σ}
    (addressed : key.address = .ok address)
    (absent : state.lookup backend key = (.ok none, asked)) :
    state.reconcile backend key = asked.handleDeletion backend key := by
  simp only [reconcile, addressed, absent]

/-- A pass ends if what was there before the object that it has found cannot be deleted. -/
theorem reconcile_of_failed {address : Address} {resource : Resource} {asked after : Dispatcher σ}
    {failure : ReconcileError} (addressed : key.address = .ok address)
    (present : state.lookup backend key = (.ok (some resource), asked))
    (failed : asked.settleRecreated backend key resource.zoneName = (.error failure, after)) :
    state.reconcile backend key = (.error failure, after) := by
  simp only [reconcile, addressed, present, failed]

theorem reconcile_of_settled {address : Address} {resource : Resource}
    {asked middle : Dispatcher σ} (addressed : key.address = .ok address)
    (present : state.lookup backend key = (.ok (some resource), asked))
    (settled : asked.settleRecreated backend key resource.zoneName = (.ok (), middle)) :
    state.reconcile backend key = middle.settle backend key address resource := by
  simp only [reconcile, addressed, present, settled]

theorem queue_lookup (backend : Backend σ) (key : ResourceKey) (state : Dispatcher σ) :
    (state.lookup backend key).2.queue = state.queue :=
  rfl

theorem answers_or_unanswered (backend : Backend σ) (key : ResourceKey) (state : Dispatcher σ) :
    (∀ address source, key.address = .ok address →
      (state.lookup backend key).1 ≠ .error source) ∨
      ∃ address source, key.address = .ok address ∧
        (state.lookup backend key).1 = .error source := by
  by_cases answers : ∀ address source, key.address = .ok address →
      (state.lookup backend key).1 ≠ .error source
  · exact Or.inl answers
  · push Not at answers
    exact Or.inr answers

/-- A pass is made of acts, or its object cannot be looked up. -/
theorem acts_or_unanswered (backend : Backend σ) (key : ResourceKey) (state : Dispatcher σ) :
    Acts backend key state (state.reconcile backend key).2 ∨
      ∃ address source, key.address = .ok address ∧
        (state.lookup backend key).1 = .error source :=
  (answers_or_unanswered backend key state).imp_left acts_reconcile

/-- Whatever a pass for a key does, it hands out and takes back no key, loses no key that needs
work, buries nothing, and lets the tombstones of other keys and the calls so far stand. -/
structure Kept (key : ResourceKey) (before after : Dispatcher σ) : Prop where
  processing : after.queue.processing = before.queue.processing
  shuttingDown : after.queue.shuttingDown = before.queue.shuttingDown
  dirty : ∀ other ∈ before.queue.dirty, other ∈ after.queue.dirty
  sound : before.queue.IsSound → after.queue.IsSound
  buried : ∀ other gone, after.tombstones.get? other = some gone →
    before.tombstones.get? other = some gone
  others : ∀ other, other ≠ key → after.tombstones.get? other = before.tombstones.get? other
  calls : before.calls <+: after.calls

theorem Kept.trans {first second third : Dispatcher σ} (left : Kept key first second)
    (right : Kept key second third) : Kept key first third where
  processing := right.processing.trans left.processing
  shuttingDown := right.shuttingDown.trans left.shuttingDown
  dirty := fun other present => right.dirty other (left.dirty other present)
  sound := fun sound => right.sound (left.sound sound)
  buried := fun other gone kept => left.buried other gone (right.buried other gone kept)
  others := fun other apart => (right.others other apart).trans (left.others other apart)
  calls := left.calls.trans right.calls

/-- Only the queue may have changed, and only by some additions. -/
theorem kept_of_added {before after : Dispatcher σ} (keys : List ResourceKey)
    (added : after.queue.Agrees (keys.foldl WorkQueue.add before.queue))
    (tombstones : after.tombstones = before.tombstones) (calls : after.calls = before.calls) :
    Kept key before after where
  processing := by rw [added.processing, WorkQueue.processing_addAll]
  shuttingDown := by rw [added.shuttingDown, WorkQueue.shuttingDown_addAll]
  dirty := fun other present => by
    rw [added.dirty, WorkQueue.mem_dirty_addAll]
    exact Or.inl present
  sound := fun sound => (sound.addAll keys).of_agrees added
  buried := fun _ _ kept => tombstones ▸ kept
  others := fun _ _ => by rw [tombstones]
  calls := calls ▸ List.prefix_refl _

theorem kept_refl (key : ResourceKey) (state : Dispatcher σ) : Kept key state state :=
  kept_of_added [] (.refl _) rfl rfl

theorem Act.kept {before after : Dispatcher σ} (act : Act backend key before after) :
    Kept key before after := by
  cases act with
  | note | lookup | list | measure => exact kept_of_added [] (.refl _) rfl rfl
  | forget => exact kept_of_added [] ⟨rfl, rfl, rfl, rfl⟩ rfl rfl
  | enqueue other => exact kept_of_added [other] (.refl _) rfl rfl
  | dropTombstone =>
      refine { kept_refl key before with buried := ?_, others := ?_ }
      · intro other gone kept
        simp only [Dispatcher.dropTombstone, Table.get?_erase] at kept
        split at kept
        · contradiction
        · exact kept
      · intro other apart
        exact Table.get?_erase_of_ne _ (Ne.symm apart)
  | call operation resource =>
      exact { kept_refl key before with calls := List.prefix_append _ _ }

theorem kept_of_acts {before after : Dispatcher σ} (acts : Acts backend key before after) :
    Kept key before after := by
  induction acts with
  | refl => exact kept_refl key before
  | tail _ act ih => exact ih.trans act.kept

/-- No act breaks a pass off. -/
theorem isBroken_of_acts {before after : Dispatcher σ} (acts : Acts backend key before after) :
    after.isBroken = before.isBroken := by
  induction acts with
  | refl => rfl
  | tail _ act ih =>
      rw [← ih]
      cases act <;> rfl

theorem kept_failLookup (source : CacheError) : Kept key state (state.failLookup key source).2 := by
  unfold failLookup
  dsimp only
  split
  · dsimp only
    split
    · exact kept_of_added _ (WorkQueue.addRateLimited_agrees state.queue key) rfl rfl
    · exact kept_of_added [] (.refl _) rfl rfl
  · exact kept_of_added [] ⟨rfl, rfl, rfl, rfl⟩ rfl rfl

/-- What a pass for a key leaves alone, whatever it comes upon. -/
theorem kept_reconcile (backend : Backend σ) (key : ResourceKey) (state : Dispatcher σ) :
    Kept key state (state.reconcile backend key).2 := by
  rcases acts_or_unanswered backend key state with acts | ⟨address, source, addressed, failed⟩
  · exact kept_of_acts acts
  · have asked : Kept key state (state.lookup backend key).2 :=
      kept_of_added [] (.refl _) rfl rfl
    rw [reconcile_of_unanswered addressed failed]
    exact asked.trans (kept_failLookup source)

section Process

variable (backend key state)

@[simp]
theorem process_result :
    (state.process backend key).1 = (state.reconcile backend key).1 := by
  unfold process
  dsimp only
  split <;> rfl

/-- A pass gives its key back unless it breaks off. -/
theorem process_queue :
    (state.process backend key).2.queue =
      if (state.reconcile backend key).2.isBroken then (state.reconcile backend key).2.queue
      else (state.reconcile backend key).2.queue.done key := by
  unfold process
  dsimp only
  split <;> rfl

@[simp]
theorem process_tombstones :
    (state.process backend key).2.tombstones = (state.reconcile backend key).2.tombstones := by
  unfold process
  dsimp only
  split <;> rfl

@[simp]
theorem process_world :
    (state.process backend key).2.world = (state.reconcile backend key).2.world := by
  unfold process
  dsimp only
  split <;> rfl

@[simp]
theorem process_calls :
    (state.process backend key).2.calls = (state.reconcile backend key).2.calls := by
  unfold process
  dsimp only
  split <;> rfl

@[simp]
theorem process_isBroken :
    (state.process backend key).2.isBroken = (state.reconcile backend key).2.isBroken := by
  unfold process
  dsimp only
  split <;> rfl

@[simp]
theorem process_dirty :
    (state.process backend key).2.queue.dirty = (state.reconcile backend key).2.queue.dirty := by
  rw [process_queue]
  split <;> rfl

@[simp]
theorem process_timers :
    (state.process backend key).2.queue.timers = (state.reconcile backend key).2.queue.timers := by
  rw [process_queue]
  split <;> rfl

end Process

/-- No key is handed out, and no pass has broken off. -/
structure IsIdle (state : Dispatcher σ) : Prop where
  sound : state.queue.IsSound
  processing : state.queue.processing = []
  unbroken : state.isBroken = false

/-- A step takes a key from the line, runs a pass for it, and gives the key back unless the pass
broke off. -/
theorem step_eq_some {after : Dispatcher σ} {result : Except ReconcileError Outcome}
    (stepped : state.step backend = some (key, result, after)) :
    ∃ rest passed, state.queue.take? = some (key, rest) ∧
      passed = ({ state with queue := rest }.reconcile backend key).2 ∧
      after.queue = (if passed.isBroken then passed.queue else passed.queue.done key) ∧
      after.tombstones = passed.tombstones ∧ after.world = passed.world ∧
      after.calls = passed.calls ∧ after.isBroken = passed.isBroken := by
  obtain ⟨⟨taken, rest⟩, takenEq, processed⟩ := Option.map_eq_some_iff.1 stepped
  obtain ⟨rfl, same⟩ := Prod.mk.inj processed
  obtain rfl : ({ state with queue := rest }.process backend taken).2 = after :=
    congrArg Prod.snd same
  exact ⟨rest, _, takenEq, rfl, process_queue backend taken _, process_tombstones backend taken _,
    process_world backend taken _, process_calls backend taken _, process_isBroken backend taken _⟩

/-- What a step leaves alone: only the key that it takes may need no more work. -/
structure Stepped (key : ResourceKey) (before after : Dispatcher σ) : Prop where
  idle : after.IsIdle
  shuttingDown : after.queue.shuttingDown = before.queue.shuttingDown
  dirty : ∀ other ∈ before.queue.dirty, other ≠ key → other ∈ after.queue.dirty
  buried : ∀ other gone, after.tombstones.get? other = some gone →
    before.tombstones.get? other = some gone
  others : ∀ other, other ≠ key → after.tombstones.get? other = before.tombstones.get? other
  calls : before.calls <+: after.calls

theorem stepped_of_step {after : Dispatcher σ} {result : Except ReconcileError Outcome}
    (idle : state.IsIdle) (stepped : state.step backend = some (key, result, after))
    (unbroken : after.isBroken = false) : Stepped key state after := by
  obtain ⟨rest, passed, taken, passedEq, queue, tombstones, -, calls, broken⟩ :=
    step_eq_some stepped
  have kept := kept_reconcile backend key { state with queue := rest }
  rw [← passedEq] at kept
  have soundTaken := kept.sound (idle.sound.take taken)
  obtain ⟨line, waiting, rfl⟩ := WorkQueue.take?_eq_some_iff.1 taken
  have processing : passed.queue.processing = [key] := by
    rw [kept.processing]
    simp [idle.processing]
  rw [← broken, unbroken] at queue
  simp only [Bool.false_eq_true, if_false] at queue
  refine ⟨⟨?_, ?_, unbroken⟩, ?_, ?_, ?_, ?_, ?_⟩
  · rw [queue]
    exact soundTaken.done (by simp [processing])
  · rw [queue]
    simp [WorkQueue.done, processing]
  · rw [queue]
    exact kept.shuttingDown
  · intro other present apart
    rw [queue]
    apply kept.dirty
    simp [present, apart]
  · rw [tombstones]
    exact kept.buried
  · rw [tombstones]
    exact kept.others
  · rw [calls]
    exact kept.calls

end ZoneKeeper.Dispatcher
