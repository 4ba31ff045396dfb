import ZoneKeeper.Dispatcher

/-!
# The controller

The controller waits until the caches hold their first listings, and then serves the events of the
watches and the queued keys one at a time, events first.  When it is told to stop, it shuts the
queue down, works off the keys that still wait, and ends.

`poll` is one step of the controller.  Between its steps others may send events, give the signal to
stop, add keys, change the world, or let time pass.
-/

namespace ZoneKeeper

/-- A signal with the last value given, as the controller sees it. -/
structure StopSignal where
  value : Bool := false
  /-- Whether a value was given that the controller has not taken notice of. -/
  isNew : Bool := false
  /-- Whether another value may still be given. -/
  isOpen : Bool := true
  deriving DecidableEq, Repr

/-- Why the controller ended before it began to serve. -/
inductive SyncError where
  | stopped
  | signalDropped
  deriving DecidableEq, Repr

def SyncError.message : SyncError → String
  | stopped => "error syncing cache: stopped before the initial listing completed"
  | signalDropped =>
      "error syncing cache: stop signal dropped before the initial listing completed"

inductive Phase where
  | starting
  /-- About to look whether the caches are complete. -/
  | checking
  /-- Waiting for something to happen before it looks again. -/
  | awaiting
  | serving
  | servingKeys
  | draining
  | finished
  | broken
  | failed (error : SyncError)
  deriving DecidableEq, Repr

structure Controller (σ : Type) where
  dispatcher : Dispatcher σ
  phase : Phase := .starting
  stop : StopSignal := {}
  events : List WatchEvent := []
  /-- How many events may be under way. -/
  capacity : Nat
  eventsOpen : Bool := true
  /-- When the caches are looked at next, if nothing else happens. -/
  nextTick : Duration := .zero

namespace Controller

variable {σ : Type}

def isFinished (state : Controller σ) : Bool :=
  match state.phase with
  | .finished | .broken | .failed _ => true
  | _ => false

/-- Sends an event, if there is room for it and somebody who takes it in. -/
def send (state : Controller σ) (event : WatchEvent) : Bool × Controller σ :=
  if state.eventsOpen && !state.isFinished && state.events.length < state.capacity then
    (true, { state with events := state.events ++ [event] })
  else (false, state)

/-- Gives the signal a value; the answer is whether anybody still listens. -/
def signal (state : Controller σ) (value : Bool) : Bool × Controller σ :=
  if state.stop.isOpen && !state.isFinished then
    (true, { state with stop := { state.stop with value, isNew := true } })
  else (false, state)

def dropSignal (state : Controller σ) : Controller σ :=
  { state with stop := { state.stop with isOpen := false } }

def dropEvents (state : Controller σ) : Controller σ :=
  { state with eventsOpen := false }

/-- The time between two looks at the caches. -/
def tick : Duration :=
  .ofMillis 100

def note (state : Controller σ) (notice : Notice) : Controller σ :=
  { state with dispatcher := state.dispatcher.note notice }

/-- Ends the run; nobody takes in events any more. -/
def finish (state : Controller σ) (phase : Phase) : Controller σ :=
  { state with phase, events := [] }

variable (backend : Backend σ)

/-- Looks whether the controller is to stop, and whether the caches are complete. -/
def check (state : Controller σ) : Controller σ :=
  if state.stop.value then state.finish (.failed .stopped)
  else if backend.synced state.dispatcher.world then
    { (state.note .cachesSynced).note .controllerStarted with phase := .serving }
  else { state with phase := .awaiting }

/-- The signal has a new value, or there will be none. -/
def awaitSignal (state : Controller σ) : Option (Controller σ) :=
  if state.stop.isNew then
    some { state with phase := .checking, stop := { state.stop with isNew := false } }
  else if !state.stop.isOpen then some (state.finish (.failed .signalDropped))
  else none

/-- An event has come. -/
def awaitEvent (state : Controller σ) : Option (Controller σ) :=
  match state.events with
  | event :: events =>
      some
        { state with
          phase := .checking
          events
          dispatcher := state.dispatcher.observe event }
  | [] => none

/-- It is time to look again. -/
def awaitTick (state : Controller σ) : Option (Controller σ) :=
  if state.nextTick ≤ state.dispatcher.queue.now then
    some { state with phase := .checking, nextTick := state.nextTick + tick }
  else none

/-- While the controller waits for the caches it takes what happens first, and then looks again.  Of
the three that may have happened it takes one in a fixed order; which it takes is open. -/
def await (state : Controller σ) : Option (Controller σ) :=
  (state.awaitSignal.or state.awaitEvent).or state.awaitTick

/-- Takes notice of the signal: the queue is shut down if the signal says stop or is dropped. -/
def heed (state : Controller σ) : Option (Controller σ) :=
  if state.stop.isNew || !state.stop.isOpen then
    if state.stop.value || !state.stop.isNew then
      let pending := state.dispatcher.queue.size
      let dispatcher := state.dispatcher.note (.stopRequested pending)
      some
        { state with
          phase := .draining
          stop := { state.stop with isNew := false }
          dispatcher := { dispatcher with queue := dispatcher.queue.shutDown } }
    else some { state with stop := { state.stop with isNew := false } }
  else none

/-- Takes in the next event, or notices that there will be none. -/
def takeEvent (state : Controller σ) : Option (Controller σ) :=
  match state.events with
  | event :: events =>
      some { state with events, dispatcher := state.dispatcher.observe event }
  | [] =>
      if state.eventsOpen then none
      else some { state.note .eventsClosed with phase := .servingKeys }

/-- Runs a pass for the next key; when the queue is shut down and empty, the controller ends. -/
def serveKey (state : Controller σ) : Option (Controller σ) :=
  match state.dispatcher.step backend with
  | some (_, _, dispatcher) =>
      let state := { state with dispatcher }
      some (if dispatcher.isBroken then state.finish .broken else state)
  | none =>
      if state.dispatcher.queue.shuttingDown then
        some ((state.note .controllerStopped).finish .finished)
      else none

/-- One step of the controller, unless it has to wait. -/
def poll (state : Controller σ) : Option (Controller σ) :=
  match state.phase with
  | .starting => some { state.note .awaitingCaches with phase := .checking }
  | .checking => some (state.check backend)
  | .awaiting => state.await
  | .serving => (state.heed.or state.takeEvent).or (state.serveKey backend)
  | .servingKeys => state.heed.or (state.serveKey backend)
  | .draining => state.serveKey backend
  | .finished | .broken | .failed _ => none

/-- As many steps as the controller takes before it has to wait, up to a limit. -/
def settle : Nat → Controller σ → Controller σ
  | 0, state => state
  | limit + 1, state =>
      match state.poll backend with
      | some next => settle limit next
      | none => state

/-- The next instant at which a delayed addition is due or the caches are looked at. -/
def nextInstant? (state : Controller σ) : Option Duration :=
  let due := state.dispatcher.queue.nextDue?
  match state.phase with
  | .awaiting =>
      match due with
      | some due => some (if due ≤ state.nextTick then due else state.nextTick)
      | none => some state.nextTick
  | _ => due

def advanceTo (state : Controller σ) (instant : Duration) : Controller σ :=
  { state with
    dispatcher :=
      { state.dispatcher with queue := state.dispatcher.queue.advanceTo instant } }

/-- Lets time pass until an instant; the controller runs whenever something comes due. -/
def runUntil (limit : Nat) (instant : Duration) : Nat → Controller σ → Controller σ
  | 0, state => settle backend limit (state.advanceTo instant)
  | rounds + 1, state =>
      match state.nextInstant? with
      | some next =>
          if next ≤ instant then
            runUntil limit instant rounds (settle backend limit (state.advanceTo next))
          else settle backend limit (state.advanceTo instant)
      | none => settle backend limit (state.advanceTo instant)

end Controller

end ZoneKeeper
