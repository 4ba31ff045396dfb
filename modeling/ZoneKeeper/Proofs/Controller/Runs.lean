import ZoneKeeper.Controller
import ZoneKeeper.Proofs.Dispatcher.Acts
import ZoneKeeper.Proofs.Dispatcher.Events
import ZoneKeeper.Proofs.Queue.History
import ZoneKeeper.World

/-!
# Runs of a controller

The controller takes one turn after the other.  Between its turns others send events, give the
signal to stop or drop it, add keys, and change the world; delayed additions fire.  While the
controller waits for the caches, any of the things that it waits for may come first.  The trace of
a run tells which events were sent and observed, what the controller saw when it looked at the
caches, and which passes it ran.
-/

namespace ZoneKeeper

namespace WorkQueue

variable {κ : Type} [DecidableEq κ]

/-- The calls of those who do not work on keys and do not shut the queue down. -/
def Call.IsForeign (queue : WorkQueue κ) : Call κ → Prop
  | .get | .done _ | .shutDown => False
  | call => call.IsAllowed queue

/-- Others can only add keys. -/
theorem Call.IsForeign.agrees {queue : WorkQueue κ} {call : Call κ}
    (foreign : call.IsForeign queue) :
    ∃ keys : List κ, (call.run queue).Agrees (keys.foldl WorkQueue.add queue) := by
  cases call with
  | add key => exact ⟨[key], .refl _⟩
  | addRateLimited key => exact ⟨_, addRateLimited_agrees queue key⟩
  | addAfter key delay => exact ⟨_, addAfter_agrees queue key delay⟩
  | forget => exact ⟨[], rfl, rfl, rfl, rfl⟩
  | fire timer =>
      have pending : Agrees { queue with timers := queue.timers.erase timer } queue :=
        ⟨rfl, rfl, rfl, rfl⟩
      exact ⟨[timer.key], pending.add timer.key⟩
  | advanceTo instant => exact ⟨_, advanceTo_agrees queue instant⟩
  | _ => contradiction

end WorkQueue

namespace Controller

variable {σ : Type}

/-- What the trace of a run tells of. -/
inductive Moment where
  /-- An event is sent, and there is room for it. -/
  | sent (event : WatchEvent)
  /-- The controller looks at the value of the signal and at the caches of both kinds. -/
  | looked (stopped zones records : Bool)
  | observed (event : WatchEvent)
  /-- The controller takes notice that it is to stop, and shuts the queue down. -/
  | stopping
  | passed (key : ResourceKey) (result : Except ReconcileError Outcome)
  /-- The controller ends well. -/
  | returned
  deriving DecidableEq

namespace Moment

def sent? : Moment → Option WatchEvent
  | .sent event => some event
  | _ => none

def observed? : Moment → Option WatchEvent
  | .observed event => some event
  | _ => none

def passed? : Moment → Option ResourceKey
  | .passed key _ => some key
  | _ => none

/-- Whether the controller does it. -/
def isDeed : Moment → Bool
  | .sent _ => false
  | _ => true

end Moment

def sentEvents (trace : List Moment) : List WatchEvent :=
  trace.filterMap Moment.sent?

def observedEvents (trace : List Moment) : List WatchEvent :=
  trace.filterMap Moment.observed?

def passedKeys (trace : List Moment) : List ResourceKey :=
  trace.filterMap Moment.passed?

theorem sentEvents_append (trace moments : List Moment) :
    sentEvents (trace ++ moments) = sentEvents trace ++ sentEvents moments :=
  List.filterMap_append

theorem observedEvents_append (trace moments : List Moment) :
    observedEvents (trace ++ moments) = observedEvents trace ++ observedEvents moments :=
  List.filterMap_append

theorem passedKeys_append (trace moments : List Moment) :
    passedKeys (trace ++ moments) = passedKeys trace ++ passedKeys moments :=
  List.filterMap_append

inductive Outside (state : Controller σ) : List Moment → Controller σ → Prop
  | send (event : WatchEvent) :
      Outside state (if (state.send event).1 then [.sent event] else []) (state.send event).2
  | signal (value : Bool) : Outside state [] (state.signal value).2
  | dropSignal : Outside state [] state.dropSignal
  | dropEvents : Outside state [] state.dropEvents
  | ask (call : WorkQueue.Call ResourceKey) (foreign : call.IsForeign state.dispatcher.queue) :
      Outside state []
        { state with
          dispatcher := { state.dispatcher with queue := call.run state.dispatcher.queue } }
  | change (world : σ) :
      Outside state [] { state with dispatcher := { state.dispatcher with world } }

def firstEvent (state : Controller σ) : List Moment :=
  state.events.head?.toList.map .observed

/-- It is the turn of the keys: there is nothing that goes before them. -/
def ServesKeys (state : Controller σ) : Prop :=
  state.phase = .serving ∧ state.heed = none ∧ state.takeEvent = none ∨
    state.phase = .servingKeys ∧ state.heed = none ∨ state.phase = .draining

variable (backend : Backend σ)

/-- The pass for the key that comes first, or else the end. -/
def firstPass (state : Controller σ) : List Moment :=
  match state.dispatcher.step backend with
  | some (key, result, _) => [.passed key result]
  | none => [.returned]

/-- A turn of the controller, and what is told of it. -/
inductive Turn (state : Controller σ) : List Moment → Controller σ → Prop
  | begin (phase : state.phase = .starting) :
      Turn state [] { state.note .awaitingCaches with phase := .checking }
  | look (phase : state.phase = .checking) :
      Turn state
        [.looked state.stop.value (backend.hasSynced .zone state.dispatcher.world)
          (backend.hasSynced .record state.dispatcher.world)]
        (state.check backend)
  | awaitSignal {next : Controller σ} (phase : state.phase = .awaiting)
      (ready : state.awaitSignal = some next) : Turn state [] next
  | awaitEvent {next : Controller σ} (phase : state.phase = .awaiting)
      (ready : state.awaitEvent = some next) : Turn state state.firstEvent next
  | awaitTick {next : Controller σ} (phase : state.phase = .awaiting)
      (ready : state.awaitTick = some next) : Turn state [] next
  | heed {next : Controller σ} (phase : state.phase = .serving ∨ state.phase = .servingKeys)
      (ready : state.heed = some next) :
      Turn state (if next.phase = .draining then [.stopping] else []) next
  | takeEvent {next : Controller σ} (phase : state.phase = .serving)
      (unheeding : state.heed = none) (ready : state.takeEvent = some next) :
      Turn state state.firstEvent next
  | serveKey {next : Controller σ} (serves : state.ServesKeys)
      (ready : state.serveKey backend = some next) : Turn state (state.firstPass backend) next

/-- The controllers that come about from one, and what happens on the way. -/
inductive Run (start : Controller σ) : List Moment → Controller σ → Prop
  | start : Run start [] start
  | outside {trace moments : List Moment} {state next : Controller σ}
      (earlier : Run start trace state) (outside : Outside state moments next) :
      Run start (trace ++ moments) next
  | turn {trace moments : List Moment} {state next : Controller σ}
      (earlier : Run start trace state) (turn : Turn backend state moments next) :
      Run start (trace ++ moments) next

/-- A new controller, whose queue may hold keys already. -/
structure IsNew (state : Controller σ) : Prop where
  phase : state.phase = .starting
  events : state.events = []
  sound : state.dispatcher.queue.IsSound
  processing : state.dispatcher.queue.processing = []
  running : state.dispatcher.queue.shuttingDown = false
  unbroken : state.dispatcher.isBroken = false
  tombstones : state.dispatcher.tombstones = {}

variable {backend} {state next : Controller σ} {moments : List Moment}

def nextMoments (backend : Backend σ) (state : Controller σ) : List Moment :=
  match state.phase with
  | .checking =>
      [.looked state.stop.value (backend.hasSynced .zone state.dispatcher.world)
        (backend.hasSynced .record state.dispatcher.world)]
  | .awaiting => if state.awaitSignal.isSome then [] else state.firstEvent
  | .serving | .servingKeys =>
      match state.heed with
      | some next => if next.phase = .draining then [.stopping] else []
      | none =>
          if state.phase = .serving && state.takeEvent.isSome then state.firstEvent
          else state.firstPass backend
  | .draining => state.firstPass backend
  | .starting | .finished | .broken | .failed _ => []

/-- Every step of the controller is a turn. -/
theorem turn_of_poll (polled : state.poll backend = some next) :
    Turn backend state (state.nextMoments backend) next := by
  unfold nextMoments
  cases phase : state.phase with
  | starting =>
      simp only [poll, phase, Option.some.injEq] at polled
      exact polled ▸ .begin phase
  | checking =>
      simp only [poll, phase, Option.some.injEq] at polled
      exact polled ▸ .look phase
  | awaiting =>
      simp only [poll, phase, await, Option.or_eq_some_iff, Option.or_eq_none_iff] at polled
      rcases polled with (signal | ⟨silent, event⟩) | ⟨⟨silent, empty⟩, tick⟩
      · simpa [signal] using Turn.awaitSignal phase signal
      · simpa [silent] using Turn.awaitEvent phase event
      · have quiet : state.firstEvent = [] := by
          unfold awaitEvent at empty
          split at empty
          · contradiction
          · rename_i events
            simp [firstEvent, events]
        simpa [silent, quiet] using Turn.awaitTick phase tick
  | serving =>
      simp only [poll, phase, Option.or_eq_some_iff, Option.or_eq_none_iff] at polled
      rcases polled with (heeded | ⟨unheeding, event⟩) | ⟨⟨unheeding, quiet⟩, served⟩
      · simpa only [heeded] using Turn.heed (Or.inl phase) heeded
      · simpa [unheeding, event] using Turn.takeEvent phase unheeding event
      · simpa [unheeding, quiet] using Turn.serveKey (Or.inl ⟨phase, unheeding, quiet⟩) served
  | servingKeys =>
      simp only [poll, phase, Option.or_eq_some_iff] at polled
      rcases polled with heeded | ⟨unheeding, served⟩
      · simpa only [heeded] using Turn.heed (Or.inr phase) heeded
      · simpa [unheeding] using Turn.serveKey (Or.inr (Or.inl ⟨phase, unheeding⟩)) served
  | draining =>
      simp only [poll, phase] at polled
      exact .serveKey (Or.inr (Or.inr phase)) polled
  | finished | broken | failed => simp [poll, phase] at polled

def settlingMoments (backend : Backend σ) : Nat → Controller σ → List Moment
  | 0, _ => []
  | limit + 1, state =>
      match state.poll backend with
      | some next => state.nextMoments backend ++ settlingMoments backend limit next
      | none => []

theorem Run.settle {start : Controller σ} {trace : List Moment}
    (run : Run backend start trace state) (limit : Nat) :
    Run backend start (trace ++ state.settlingMoments backend limit)
      (Controller.settle backend limit state) := by
  induction limit generalizing trace state with
  | zero =>
      rw [settlingMoments, List.append_nil]
      exact run
  | succ limit ih =>
      unfold settlingMoments Controller.settle
      cases polled : state.poll backend with
      | some next =>
          dsimp only
          rw [← List.append_assoc]
          exact ih (run.turn (turn_of_poll polled))
      | none =>
          dsimp only
          rw [List.append_nil]
          exact run

/-- Whether the caches have been found complete. -/
def hasServed : Phase → Bool
  | .serving | .servingKeys | .draining | .finished | .broken => true
  | .starting | .checking | .awaiting | .failed _ => false

/-- A turn in which no event is observed and no key is served: the queue holds what it held, and no
event gets lost before the end. -/
structure Pauses (state next : Controller σ) : Prop where
  line : next.dispatcher.queue.line = state.dispatcher.queue.line
  dirty : next.dispatcher.queue.dirty = state.dispatcher.queue.dirty
  processing : next.dispatcher.queue.processing = state.dispatcher.queue.processing
  tombstones : next.dispatcher.tombstones = state.dispatcher.tombstones
  calls : next.dispatcher.calls = state.dispatcher.calls
  isBroken : next.dispatcher.isBroken = state.dispatcher.isBroken
  eventsOpen : next.eventsOpen = state.eventsOpen
  events : next.events = state.events ∨ next.isFinished = true

theorem pauses_of_dispatcher (dispatcher : next.dispatcher = state.dispatcher)
    (eventsOpen : next.eventsOpen = state.eventsOpen)
    (events : next.events = state.events ∨ next.isFinished = true) : Pauses state next :=
  ⟨by rw [dispatcher], by rw [dispatcher], by rw [dispatcher], by rw [dispatcher],
    by rw [dispatcher], by rw [dispatcher], eventsOpen, events⟩

/-- What a turn does, by what is told of it. -/
inductive Effect (backend : Backend σ) (state next : Controller σ) : List Moment → Prop
  | moves (pauses : Pauses state next)
      (shuttingDown : next.dispatcher.queue.shuttingDown = state.dispatcher.queue.shuttingDown)
      (active : state.phase ≠ .draining) (phase : hasServed next.phase = hasServed state.phase)
      (closed : next.phase = .servingKeys →
        state.phase = .servingKeys ∧ next.events = state.events ∨
          next.events = [] ∧ state.eventsOpen = false) :
      Effect backend state next []
  | looks {stopped zones records : Bool} (pauses : Pauses state next)
      (shuttingDown : next.dispatcher.queue.shuttingDown = state.dispatcher.queue.shuttingDown)
      (phase : state.phase = .checking)
      (fails : stopped = true → next.phase = .failed .stopped)
      (serves : hasServed next.phase = true →
        next.phase = .serving ∧ stopped = false ∧ zones = true ∧ records = true) :
      Effect backend state next [.looked stopped zones records]
  | observes {event : WatchEvent} (events : state.events = event :: next.events)
      (dispatcher : next.dispatcher = state.dispatcher.observe event)
      (phase : state.phase = .awaiting ∧ next.phase = .checking ∨
        state.phase = .serving ∧ next.phase = .serving) :
      Effect backend state next [.observed event]
  | stops (pauses : Pauses state next) (phase : hasServed state.phase = true)
      (active : state.phase ≠ .draining) (drains : next.phase = .draining)
      (shuttingDown : next.dispatcher.queue.shuttingDown = true) :
      Effect backend state next [.stopping]
  | passes {key : ResourceKey} {result : Except ReconcileError Outcome} (serves : state.ServesKeys)
      (stepped : state.dispatcher.step backend = some (key, result, next.dispatcher))
      (goesOn : next.dispatcher.isBroken = false →
        next.phase = state.phase ∧ next.events = state.events ∧ next.eventsOpen = state.eventsOpen)
      (breaks : next.dispatcher.isBroken = true → next.phase = .broken) :
      Effect backend state next [.passed key result]
  | returns (pauses : Pauses state next)
      (shuttingDown : next.dispatcher.queue.shuttingDown = state.dispatcher.queue.shuttingDown)
      (serves : state.ServesKeys) (empty : state.dispatcher.queue.line = [])
      (phase : next.phase = .finished) :
      Effect backend state next [.returned]

theorem ServesKeys.hasServed (serves : state.ServesKeys) : hasServed state.phase = true := by
  rcases serves with ⟨phase, -, -⟩ | ⟨phase, -⟩ | phase <;> rw [phase] <;> rfl

theorem effect_look (phase : state.phase = .checking) :
    Effect backend state (state.check backend)
      [.looked state.stop.value (backend.hasSynced .zone state.dispatcher.world)
        (backend.hasSynced .record state.dispatcher.world)] := by
  unfold check
  split
  · rename_i stopped
    exact .looks (pauses_of_dispatcher rfl rfl (Or.inr rfl)) rfl phase (fun _ => rfl) nofun
  · rename_i unstopped
    rw [Bool.not_eq_true] at unstopped
    split
    · rename_i synced
      rw [Backend.synced, Bool.and_eq_true] at synced
      exact .looks ⟨rfl, rfl, rfl, rfl, rfl, rfl, rfl, Or.inl rfl⟩ rfl phase
        (fun stopped => absurd stopped (by simp [unstopped])) fun _ => ⟨rfl, unstopped, synced⟩
    · exact .looks (pauses_of_dispatcher rfl rfl (Or.inl rfl)) rfl phase
        (fun stopped => absurd stopped (by simp [unstopped])) nofun

theorem effect_awaitSignal (phase : state.phase = .awaiting)
    (ready : state.awaitSignal = some next) : Effect backend state next [] := by
  have active : state.phase ≠ .draining := by simp [phase]
  unfold awaitSignal at ready
  split at ready
  · obtain rfl := Option.some.inj ready
    exact .moves (pauses_of_dispatcher rfl rfl (Or.inl rfl)) rfl active (by rw [phase]; rfl) nofun
  · split at ready
    · obtain rfl := Option.some.inj ready
      exact .moves (pauses_of_dispatcher rfl rfl (Or.inr rfl)) rfl active (by rw [phase]; rfl) nofun
    · contradiction

theorem effect_awaitEvent (phase : state.phase = .awaiting)
    (ready : state.awaitEvent = some next) : Effect backend state next state.firstEvent := by
  unfold awaitEvent at ready
  unfold firstEvent
  split at ready
  · rename_i arrived
    obtain rfl := Option.some.inj ready
    rw [arrived]
    exact .observes arrived rfl (Or.inl ⟨phase, rfl⟩)
  · contradiction

theorem effect_awaitTick (phase : state.phase = .awaiting)
    (ready : state.awaitTick = some next) : Effect backend state next [] := by
  unfold awaitTick at ready
  split at ready
  · obtain rfl := Option.some.inj ready
    exact .moves (pauses_of_dispatcher rfl rfl (Or.inl rfl)) rfl (by simp [phase])
      (by rw [phase]; rfl) nofun
  · contradiction

theorem effect_heed (phase : state.phase = .serving ∨ state.phase = .servingKeys)
    (ready : state.heed = some next) :
    Effect backend state next (if next.phase = .draining then [.stopping] else []) := by
  have active : state.phase ≠ .draining := by rcases phase with phase | phase <;> simp [phase]
  unfold heed at ready
  split at ready
  · split at ready
    · obtain rfl := Option.some.inj ready
      exact .stops ⟨rfl, rfl, rfl, rfl, rfl, rfl, rfl, Or.inl rfl⟩
        (by rcases phase with phase | phase <;> rw [phase] <;> rfl) active rfl rfl
    · obtain rfl := Option.some.inj ready
      rw [if_neg active]
      exact .moves (pauses_of_dispatcher rfl rfl (Or.inl rfl)) rfl active rfl
        fun serving => Or.inl ⟨serving, rfl⟩
  · contradiction

theorem effect_takeEvent (phase : state.phase = .serving) (ready : state.takeEvent = some next) :
    Effect backend state next state.firstEvent := by
  unfold takeEvent at ready
  unfold firstEvent
  split at ready
  · rename_i arrived
    obtain rfl := Option.some.inj ready
    rw [arrived]
    exact .observes arrived rfl (Or.inr ⟨phase, phase⟩)
  · rename_i empty
    split at ready
    · contradiction
    · rename_i closed
      obtain rfl := Option.some.inj ready
      rw [empty]
      exact .moves ⟨rfl, rfl, rfl, rfl, rfl, rfl, rfl, Or.inl rfl⟩ rfl (by simp [phase])
        (by rw [phase]; rfl) fun _ => Or.inr ⟨empty, by simpa using closed⟩

theorem effect_serveKey (serves : state.ServesKeys) (ready : state.serveKey backend = some next) :
    Effect backend state next (state.firstPass backend) := by
  unfold serveKey at ready
  unfold firstPass
  cases stepped : state.dispatcher.step backend with
  | some step =>
      obtain ⟨key, result, dispatcher⟩ := step
      simp only [stepped, Option.some.injEq] at ready
      subst ready
      cases broken : dispatcher.isBroken with
      | true =>
          exact .passes serves (by simpa [finish] using stepped)
            (fun unbroken => by simp [finish, broken] at unbroken) fun _ => by simp [finish]
      | false =>
          exact .passes serves (by simpa using stepped) (fun _ => by simp)
            fun breaks => by simp [broken] at breaks
  | none =>
      simp only [stepped, Option.ite_none_right_eq_some, Option.some.injEq] at ready
      obtain ⟨-, rfl⟩ := ready
      refine .returns ⟨rfl, rfl, rfl, rfl, rfl, rfl, rfl, Or.inr rfl⟩ rfl serves ?_ rfl
      rw [Dispatcher.step, Option.map_eq_none_iff] at stepped
      unfold WorkQueue.take? at stepped
      split at stepped
      · assumption
      · contradiction

theorem Turn.effect (turn : Turn backend state moments next) :
    Effect backend state next moments := by
  cases turn with
  | begin phase =>
      exact .moves ⟨rfl, rfl, rfl, rfl, rfl, rfl, rfl, Or.inl rfl⟩ rfl (by simp [phase])
        (by rw [phase]; rfl) nofun
  | look phase => exact effect_look phase
  | awaitSignal phase ready => exact effect_awaitSignal phase ready
  | awaitEvent phase ready => exact effect_awaitEvent phase ready
  | awaitTick phase ready => exact effect_awaitTick phase ready
  | heed phase ready => exact effect_heed phase ready
  | takeEvent phase unheeding ready => exact effect_takeEvent phase ready
  | serveKey serves ready => exact effect_serveKey serves ready

/-- Nothing is done after the end. -/
theorem Turn.unfinished (turn : Turn backend state moments next) : state.isFinished = false := by
  unfold isFinished
  cases turn with
  | begin phase | look phase | awaitSignal phase | awaitEvent phase | awaitTick phase
  | takeEvent phase => rw [phase]
  | heed phase => rcases phase with phase | phase <;> rw [phase]
  | serveKey serves =>
      rcases serves with ⟨phase, -, -⟩ | ⟨phase, -⟩ | phase <;> rw [phase]

theorem Turn.phase_ne_broken (turn : Turn backend state moments next) : state.phase ≠ .broken := by
  intro broken
  have unfinished := turn.unfinished
  simp [isFinished, broken] at unfinished

/-- Others can send events, and add keys. -/
structure Spares (state : Controller σ) (moments : List Moment) (next : Controller σ) : Prop where
  phase : next.phase = state.phase
  tombstones : next.dispatcher.tombstones = state.dispatcher.tombstones
  calls : next.dispatcher.calls = state.dispatcher.calls
  isBroken : next.dispatcher.isBroken = state.dispatcher.isBroken
  queue : ∃ keys : List ResourceKey,
    next.dispatcher.queue.Agrees (keys.foldl WorkQueue.add state.dispatcher.queue)
  closed : state.eventsOpen = false → next.eventsOpen = false ∧ next.events = state.events
  events : moments = [] ∧ next.events = state.events ∨ state.isFinished = false ∧
    ∃ event, moments = [.sent event] ∧ next.events = state.events ++ [event]

theorem Outside.spares (outside : Outside state moments next) : Spares state moments next := by
  cases outside with
  | send event =>
      by_cases room : (state.eventsOpen && !state.isFinished &&
          decide (state.events.length < state.capacity)) = true
      · have sent : state.send event =
            (true, { state with events := state.events ++ [event] }) := if_pos room
        rw [sent, if_pos rfl]
        simp only [Bool.and_eq_true, Bool.not_eq_true'] at room
        exact ⟨rfl, rfl, rfl, rfl, ⟨[], .refl _⟩, fun closed => by simp [closed] at room,
          Or.inr ⟨room.1.2, event, rfl, rfl⟩⟩
      · have refused : state.send event = (false, state) := if_neg room
        rw [refused, if_neg Bool.false_ne_true]
        exact ⟨rfl, rfl, rfl, rfl, ⟨[], .refl _⟩, fun closed => ⟨closed, rfl⟩, Or.inl ⟨rfl, rfl⟩⟩
  | signal value =>
      unfold Controller.signal
      split <;>
        exact ⟨rfl, rfl, rfl, rfl, ⟨[], .refl _⟩, fun closed => ⟨closed, rfl⟩, Or.inl ⟨rfl, rfl⟩⟩
  | dropSignal | change =>
      exact ⟨rfl, rfl, rfl, rfl, ⟨[], .refl _⟩, fun closed => ⟨closed, rfl⟩, Or.inl ⟨rfl, rfl⟩⟩
  | dropEvents =>
      exact ⟨rfl, rfl, rfl, rfl, ⟨[], .refl _⟩, fun _ => ⟨rfl, rfl⟩, Or.inl ⟨rfl, rfl⟩⟩
  | ask call foreign =>
      exact ⟨rfl, rfl, rfl, rfl, foreign.agrees, fun closed => ⟨closed, rfl⟩, Or.inl ⟨rfl, rfl⟩⟩

theorem Spares.quiet (spares : Spares state moments next) :
    observedEvents moments = [] ∧ passedKeys moments = [] ∧ moments.countP Moment.isDeed = 0 := by
  rcases spares.events with ⟨rfl, -⟩ | ⟨-, event, rfl, -⟩ <;> exact ⟨rfl, rfl, rfl⟩

/-- A controller that nothing has happened to, over caches that are not complete. -/
def newborn : Controller World where
  dispatcher := { queue := .withBackoff .standard, world := {} }
  capacity := 4

theorem isNew_newborn : newborn.IsNew where
  phase := rfl
  events := rfl
  sound := WorkQueue.isSound_withBackoff _
  processing := rfl
  running := rfl
  unbroken := rfl
  tombstones := rfl

end Controller

end ZoneKeeper
