import ZoneKeeper.Queue.Limiter
import ZoneKeeper.Sorting

/-!
# The work queue

The queue hands out keys in the order in which they came in.  A key that already waits is not
taken in again, and a key that is handed out is not handed out again before it is done: if it is
added in the meantime, it joins the line when it is done.  After the shutdown nothing is taken in,
and the line is still handed out.

A key may also be added after a delay.  Such an addition is a timer; the clock of the queue moves
only when it is told to, and then the timers that come due fire in the order of their instants.
-/

namespace ZoneKeeper

/-- A delayed addition of a key. -/
structure Timer (κ : Type) where
  due : Duration
  key : κ
  deriving DecidableEq, Repr

structure WorkQueue (κ : Type) where
  line : List κ := []
  /-- The keys that need work: those in the line, and those added while they are handed out. -/
  dirty : List κ := []
  processing : List κ := []
  shuttingDown : Bool := false
  limiter : Limiter κ
  /-- The delayed additions, in the order in which they were asked for. -/
  timers : List (Timer κ) := []
  now : Duration := .zero

namespace WorkQueue

variable {κ : Type}

def withBackoff (backoff : Backoff) : WorkQueue κ :=
  { limiter := { backoff } }

def size (queue : WorkQueue κ) : Nat :=
  queue.line.length

def isEmpty (queue : WorkQueue κ) : Bool :=
  queue.line.isEmpty

def shutDown (queue : WorkQueue κ) : WorkQueue κ :=
  { queue with shuttingDown := true }

variable [DecidableEq κ]

/-- Marks a key as needing work. -/
def add (queue : WorkQueue κ) (key : κ) : WorkQueue κ :=
  if queue.shuttingDown || queue.dirty.contains key then queue
  else
    { queue with
      dirty := key :: queue.dirty
      line := if queue.processing.contains key then queue.line else queue.line ++ [key] }

/-- The key at the head of the line, and the queue once that key is handed out. -/
def take? (queue : WorkQueue κ) : Option (κ × WorkQueue κ) :=
  match queue.line with
  | [] => none
  | key :: line => some
      (key,
        { queue with
          line
          dirty := queue.dirty.filter (· ≠ key)
          processing := queue.processing.insert key })

/-- Marks the work on a key as complete; a key that is dirty by then joins the line. -/
def done (queue : WorkQueue κ) (key : κ) : WorkQueue κ :=
  { queue with
    processing := queue.processing.filter (· ≠ key)
    line := if queue.dirty.contains key then queue.line ++ [key] else queue.line }

/-- Adds a key after a delay, which may be none. -/
def addAfter (queue : WorkQueue κ) (key : κ) (delay : Duration) : WorkQueue κ :=
  if delay.isZero then queue.add key
  else { queue with timers := queue.timers ++ [⟨queue.now + delay.bounded, key⟩] }

/-- Whether a key can be added after its failures: there is a delay for them, or nothing is added
any more. -/
def canDelay (queue : WorkQueue κ) (key : κ) : Bool :=
  queue.shuttingDown || (queue.limiter.delay key).isSome

/-- Counts one more failure of a key and adds it after the delay of the failures before. -/
def addRateLimited (queue : WorkQueue κ) (key : κ) : WorkQueue κ :=
  if queue.shuttingDown then queue
  else
    match queue.limiter.delay key with
    | some delay =>
        WorkQueue.addAfter { queue with limiter := queue.limiter.count key } key delay
    | none => queue

/-- Adds a key after its failures, if there is a delay for them. -/
def addRateLimited? (queue : WorkQueue κ) (key : κ) : Option (WorkQueue κ) :=
  if queue.canDelay key then some (queue.addRateLimited key) else none

def forget (queue : WorkQueue κ) (key : κ) : WorkQueue κ :=
  { queue with limiter := queue.limiter.forget key }

/-- How often a key was added after a failure since it was last forgotten. -/
def requeues (queue : WorkQueue κ) (key : κ) : Nat :=
  queue.limiter.failures key

def nextDue? (queue : WorkQueue κ) : Option Duration :=
  (queue.timers.map fun timer => timer.due.nanoseconds).min?.map Duration.mk

/-- The timers that are due at an instant, in the order of their own instants. -/
def dueBy (queue : WorkQueue κ) (instant : Duration) : List (Timer κ) :=
  sortBy (fun first second => first.due ≤ second.due)
    (queue.timers.filter fun timer => timer.due ≤ instant)

/-- Moves the clock to a later instant; the timers that are due by then fire. -/
def advanceTo (queue : WorkQueue κ) (instant : Duration) : WorkQueue κ :=
  let fired := (queue.dueBy instant).foldl (fun queue timer => queue.add timer.key) queue
  { fired with
    timers := queue.timers.filter fun timer => ¬ timer.due ≤ instant
    now := instant }

end WorkQueue

end ZoneKeeper
