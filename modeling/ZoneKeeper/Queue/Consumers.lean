import ZoneKeeper.Queue.WorkQueue

/-!
# Consumers of a work queue

Consumers that find the line empty wait, and are served first come first served.  Once the queue is
shut down, a consumer that finds the line empty is told that there will be no more keys.
-/

namespace ZoneKeeper

/-- A queue together with the consumers that wait for a key, each for a single one. -/
structure Consumers (κ : Type) where
  queue : WorkQueue κ
  waiting : List Nat := []

/-- What a consumer is told: a key, or that there will be none. -/
structure Served (κ : Type) where
  consumer : Nat
  key : Option κ

/-- The answer to a consumer that does not wait for ever. -/
inductive Handout (κ : Type) where
  | key (key : κ)
  | nothing
  | shutdown

namespace Consumers

variable {κ : Type} [DecidableEq κ]

/-- Serves the consumers in turn until the line is empty. -/
def serveQueue (queue : WorkQueue κ) : List Nat → List (Served κ) × Consumers κ
  | [] => ([], ⟨queue, []⟩)
  | consumer :: waiting =>
      match queue.take? with
      | some (key, queue) =>
          let (served, rest) := serveQueue queue waiting
          (⟨consumer, some key⟩ :: served, rest)
      | none =>
          if queue.shuttingDown then
            ((consumer :: waiting).map fun consumer => ⟨consumer, none⟩, ⟨queue, []⟩)
          else ([], ⟨queue, consumer :: waiting⟩)

def serve (state : Consumers κ) : List (Served κ) × Consumers κ :=
  serveQueue state.queue state.waiting

/-- What a consumer gets at once, if it gets anything. -/
def look (state : Consumers κ) : Option (Handout κ × Consumers κ) :=
  match state.queue.take? with
  | some (key, queue) => some (.key key, { state with queue })
  | none => if state.queue.shuttingDown then some (.shutdown, state) else none

/-- Moves the clock by up to `steps` instants at which timers come due, none later than `limit`, and
serves the waiting consumers at each.  Stops early when `stop` finds what it looks for. -/
def sweep (steps : Nat) (limit : Duration)
    (stop : Consumers κ → Option (Handout κ × Consumers κ)) (state : Consumers κ) :
    List (Served κ) × Option (Handout κ) × Consumers κ :=
  match steps, state.queue.nextDue? with
  | steps + 1, some instant =>
      if instant ≤ limit then
        let (served, state) := serve { state with queue := state.queue.advanceTo instant }
        match stop state with
        | some (handout, state) => (served, some handout, state)
        | none =>
            let (later, handout, state) := sweep steps limit stop state
            (served ++ later, handout, state)
      else ([], none, { state with queue := state.queue.advanceTo limit })
  | _, _ => ([], none, { state with queue := state.queue.advanceTo limit })

def wait (state : Consumers κ) (time : Duration) : List (Served κ) × Consumers κ :=
  let (served, _, state) :=
    sweep state.queue.timers.length (state.queue.now + time.bounded) (fun _ => none) state
  (served, state)

/-- Waits for a key behind the waiting consumers, but no longer than the given time. -/
def get (state : Consumers κ) (time : Duration) : List (Served κ) × Handout κ × Consumers κ :=
  match state.look with
  | some (handout, state) => ([], handout, state)
  | none =>
      let (served, handout, state) :=
        sweep state.queue.timers.length (state.queue.now + time.bounded) look state
      (served, handout.getD .nothing, state)

end Consumers

end ZoneKeeper
