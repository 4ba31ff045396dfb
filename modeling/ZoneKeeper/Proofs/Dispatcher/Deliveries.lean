import ZoneKeeper.Proofs.Dispatcher.History
import ZoneKeeper.Proofs.Dispatcher.Requests
import ZoneKeeper.Proofs.Store.Contents
import ZoneKeeper.World

/-!
# Deliveries of deletions

The deletion of an object is captured when it is observed, and delivered to the handler by a pass
for the key of the object.  In every history, whatever fails, a pass delivers what was captured
last, and nothing is delivered twice; what is not delivered is still to come, or was replaced by a
later deletion of the same key.
-/

namespace ZoneKeeper.Dispatcher

/-- What becomes of the deletions of a key. -/
inductive Dealing where
  | captured (gone : Resource)
  | delivered (gone : Resource)

/-- The deletion of a key that is captured. -/
def Moment.captured? (key : ResourceKey) : Moment → Option Resource
  | .observed (.deleted gone) => if gone.key.toOption = some key then some gone else none
  | _ => none

/-- The deletion of a key that is delivered: the one with which the calls of a pass begin. -/
def Moment.delivered? (key : ResourceKey) : Moment → Option Resource
  | .passed other _ (⟨.deleted, gone, _⟩ :: _) => if other = key then some gone else none
  | _ => none

def Moment.dealing? (key : ResourceKey) (moment : Moment) : Option Dealing :=
  ((moment.captured? key).map .captured).or ((moment.delivered? key).map .delivered)

/-- What becomes of the deletions of a key, as a trace tells it. -/
def dealings (key : ResourceKey) (trace : List Moment) : List Dealing :=
  trace.filterMap (Moment.dealing? key)

theorem dealings_concat (key : ResourceKey) (trace : List Moment) (moment : Moment) :
    dealings key (trace ++ [moment]) = dealings key trace ++ (moment.dealing? key).toList := by
  cases dealing : moment.dealing? key <;> simp [dealings, dealing]

theorem Moment.captured?_eq_some_iff {key : ResourceKey} {moment : Moment} {gone : Resource} :
    moment.captured? key = some gone ↔
      moment = .observed (.deleted gone) ∧ gone.key = .ok key := by
  constructor
  · intro captured
    unfold Moment.captured? at captured
    split at captured
    · rename_i last
      split at captured
      · rename_i keyed
        obtain rfl := Option.some.inj captured
        exact ⟨rfl, Resource.toOption_key_eq_some_iff.1 keyed⟩
      · contradiction
    · contradiction
  · rintro ⟨rfl, keyed⟩
    simp [Moment.captured?, Resource.toOption_key_eq_some_iff.2 keyed]

theorem key_of_captured_mem {key : ResourceKey} {trace : List Moment} {gone : Resource}
    (present : .captured gone ∈ dealings key trace) : gone.key = .ok key := by
  obtain ⟨moment, -, dealt⟩ := List.mem_filterMap.1 present
  cases captured : moment.captured? key with
  | none => simp [Moment.dealing?, captured] at dealt
  | some last =>
      simp only [Moment.dealing?, captured, Option.map_some, Option.some_or, Option.some.injEq,
        Dealing.captured.injEq] at dealt
      rw [← dealt]
      exact (Moment.captured?_eq_some_iff.1 captured).2

/-- In turn, some deletions are captured, and the one that was captured last may be delivered. -/
inductive Delivers : List Dealing → Option Resource → Prop
  | start : Delivers [] none
  | capture {dealings : List Dealing} {pending : Option Resource}
      (earlier : Delivers dealings pending) (gone : Resource) :
      Delivers (dealings ++ [.captured gone]) (some gone)
  | deliver {dealings : List Dealing} {gone : Resource}
      (earlier : Delivers dealings (some gone)) : Delivers (dealings ++ [.delivered gone]) none

namespace Delivers

variable {dealings : List Dealing} {pending : Option Resource}

/-- What is pending was captured last. -/
theorem pending_iff (delivers : Delivers dealings pending) {gone : Resource} :
    pending = some gone ↔ ∃ before, dealings = before ++ [.captured gone] := by
  cases delivers with
  | start => simp
  | capture _ last =>
      constructor
      · rintro ⟨⟩
        exact ⟨_, rfl⟩
      · rintro ⟨before, same⟩
        obtain ⟨-, lastEq⟩ := List.append_inj' same rfl
        cases lastEq
        rfl
  | deliver _ =>
      refine ⟨nofun, ?_⟩
      rintro ⟨before, same⟩
      obtain ⟨-, lastEq⟩ := List.append_inj' same rfl
      cases lastEq

end Delivers

variable {σ : Type} {backend : Backend σ} {key : ResourceKey} {state : Dispatcher σ}

/-- An event replaces what is kept under a key exactly if it is a deletion of this key. -/
theorem get?_observe (event : WatchEvent) (key : ResourceKey) :
    (state.observe event).tombstones.get? key =
      ((Moment.observed event).captured? key).or (state.tombstones.get? key) := by
  cases event with
  | applied => rfl
  | deleted gone =>
      cases keyed : gone.key with
      | error fault => simp [observe, Tombstones.bury, keyed, Except.map, note, showDepth,
          Moment.captured?, Except.toOption]
      | ok other =>
          rw [observe_deleted keyed]
          simp only [showDepth, enqueue, Table.get?_insert, Moment.captured?, keyed,
            Except.toOption, Option.some.injEq]
          split <;> rfl

/-- A pass for a key that ends with its tombstone delivers what the tombstone kept; and if the
tombstone stays, or there was none, nothing is delivered. -/
theorem delivers_pass {before : List Dealing} {calls : List HandlerCall}
    (delivers : Delivers before (state.tombstones.get? key))
    (called : (state.process backend key).2.calls = state.calls ++ calls) :
    Delivers
      (before ++ ((Moment.passed key (state.process backend key).1 calls).dealing? key).toList)
      ((state.process backend key).2.tombstones.get? key) := by
  have nothing : Untouched state (state.process backend key).2 → calls = [] := fun untouched =>
    List.self_eq_append_right.1 (untouched.calls.symm.trans called)
  have unchanged : Untouched state (state.process backend key).2 → Delivers
      (before ++ ((Moment.passed key (state.process backend key).1 calls).dealing? key).toList)
      ((state.process backend key).2.tombstones.get? key) := by
    intro untouched
    rw [nothing untouched, untouched.tombstones]
    simpa [Moment.dealing?, Moment.captured?, Moment.delivered?] using delivers
  cases addressed : key.address with
  | error fault => exact unchanged (untouched_of_malformed addressed)
  | ok address =>
      cases answered : (state.lookup backend key).1 with
      | error source => exact unchanged (untouched_of_unanswered addressed answered)
      | ok found =>
          obtain ⟨delivered, later, whole, requests, made, unburied⟩ :=
            delivered_of_answered addressed answered
          rw [unburied]
          rw [whole, List.append_assoc] at called
          obtain rfl : delivered ++ later = calls := List.append_cancel_left called
          cases buried : state.tombstones.get? key with
          | none =>
              rw [buried] at delivers requests
              obtain rfl : delivered = [] := by simpa using requests
              -- Without a tombstone the first call is a creation, which is no delivery.
              have quiet : (Moment.passed key (state.process backend key).1 later).dealing? key =
                  none := by
                cases later with
                | nil => rfl
                | cons first rest =>
                    have created := made.operation_eq_created
                    obtain ⟨operation, resource, result⟩ := first
                    obtain rfl : operation = .created := created
                    rfl
              rw [List.nil_append, quiet]
              simpa using delivers
          | some gone =>
              rw [buried] at delivers requests
              obtain ⟨first, rfl, asked⟩ := List.map_eq_singleton_iff.1 requests
              obtain ⟨operation, resource, result⟩ := first
              obtain ⟨rfl, rfl⟩ := Prod.mk.inj asked
              have dealt : (Moment.passed key (state.process backend key).1
                  (⟨.deleted, resource, result⟩ :: later)).dealing? key =
                    some (.delivered resource) := by
                simp [Moment.dealing?, Moment.captured?, Moment.delivered?]
              rw [List.singleton_append, dealt]
              exact delivers.deliver

theorem dealing?_passed_of_ne {key other : ResourceKey} (apart : other ≠ key)
    (result : Except ReconcileError Outcome) (calls : List HandlerCall) :
    (Moment.passed other result calls).dealing? key = none := by
  cases calls with
  | nil => rfl
  | cons first rest =>
      obtain ⟨operation, resource, answered⟩ := first
      cases operation <;> simp [Moment.dealing?, Moment.captured?, Moment.delivered?, apart]

/-- In every history what is kept under a key is the deletion that was captured last for this key
and has not been delivered. -/
theorem History.delivers {trace : List Moment} (history : History backend trace state)
    (key : ResourceKey) : Delivers (dealings key trace) (state.tombstones.get? key) := by
  induction history with
  | start => exact .start
  | @observe trace state _ event delivers =>
      rw [dealings_concat, get?_observe]
      cases captured : (Moment.observed event).captured? key with
      | none => simpa [Moment.dealing?, captured, Moment.delivered?] using delivers
      | some gone => simpa [Moment.dealing?, captured] using delivers.capture gone
  | ask _ _ _ _ delivers => exact delivers
  | @pass trace state _ other _ _ calls called delivers =>
      rw [dealings_concat]
      by_cases same : other = key
      · subst same
        exact delivers_pass delivers called
      · rw [dealing?_passed_of_ne same, process_tombstones,
          (kept_reconcile backend other state).others key (Ne.symm same)]
        simpa using delivers
  | change _ _ delivers => exact delivers

/-- Every tombstone stands under the key of its own object. -/
theorem History.key_of_buried {trace : List Moment} (history : History backend trace state)
    {gone : Resource} (buried : state.tombstones.get? key = some gone) : gone.key = .ok key := by
  obtain ⟨before, last⟩ := (history.delivers key).pending_iff.1 buried
  have present : .captured gone ∈ dealings key trace := by simp [last]
  exact key_of_captured_mem present

/-- A zone is there again under another name before its deletion is dealt with, and the handler
cannot delete what there was. -/
def recreated : Dispatcher World :=
  let objects := Table.ofList [(⟨"a", some "team"⟩, Sample.zone "a" 2 "y")]
  let observed := Dispatcher.observe (.deleted (Sample.zone "a" 1 "x"))
    { queue := .withBackoff .standard
      world := { zones := { store := { objects } }, faults := { calls := [(.deleted, "a")] } } }
  { observed with queue := WorkQueue.Call.run observed.queue .get }

end ZoneKeeper.Dispatcher
