import ZoneKeeper.Canonical
import ZoneKeeper.Handler
import ZoneKeeper.Metrics.Registry
import ZoneKeeper.Queue.WorkQueue
import ZoneKeeper.Tombstones
import ZoneKeeper.Watch.Change

/-!
# The dispatcher

The dispatcher takes in the events of the watches and works off the queued keys, one pass a key.  A
pass looks the key up: an object that is gone is handed to its handler with the state that its
tombstone kept; a zone that is there is settled together with all zones that declare the same zone
name, of which only the owner is materialized.  A pass puts its key back after a failed lookup,
a few times; after any other failure the key is given up.

What the dispatcher asks of the world around it is a `Backend` over an arbitrary state of the
world, so that the answers of the caches and of the handlers may be any at each question.
-/

namespace ZoneKeeper

/-- The caches and the handlers: every question may change the state of the world. -/
structure Backend (σ : Type) where
  lookup : Kind → String → σ → Except CacheError (Option Resource) × σ
  list : Kind → String → σ → Except CacheError (List Resource) × σ
  handle : Operation → Resource → σ → Reply × σ
  /-- Whether the first listing of a kind is complete. -/
  hasSynced : Kind → σ → Bool

/-- Whether the first listing of every kind is complete. -/
def Backend.synced {σ : Type} (backend : Backend σ) (world : σ) : Bool :=
  backend.hasSynced .zone world && backend.hasSynced .record world

/-- A call of a handler and how it ended. -/
structure HandlerCall where
  operation : Operation
  resource : Resource
  result : Except HandlerError Unit

structure Dispatcher (σ : Type) where
  queue : WorkQueue ResourceKey
  tombstones : Tombstones := {}
  metrics : Metrics := {}
  world : σ
  calls : List HandlerCall := []
  notices : List Notice := []
  /-- Whether a pass broke off because there was no delay for its key. -/
  isBroken : Bool := false

namespace Dispatcher

variable {σ : Type}

def note (state : Dispatcher σ) (notice : Notice) : Dispatcher σ :=
  { state with notices := state.notices ++ [notice] }

def forget (state : Dispatcher σ) (key : ResourceKey) : Dispatcher σ :=
  { state with queue := state.queue.forget key }

def enqueue (state : Dispatcher σ) (key : ResourceKey) : Dispatcher σ :=
  { state with queue := state.queue.add key }

def dropTombstone (state : Dispatcher σ) (key : ResourceKey) : Dispatcher σ :=
  { state with tombstones := state.tombstones.erase key }

/-- Publishes the number of waiting keys. -/
def showDepth (state : Dispatcher σ) : Dispatcher σ :=
  { state with metrics := state.metrics.setQueueDepth state.queue.size }

variable (backend : Backend σ)

def lookup (key : ResourceKey) (state : Dispatcher σ) :
    Except CacheError (Option Resource) × Dispatcher σ :=
  let (answer, world) := backend.lookup key.kind key.path state.world
  (answer, { state with world })

def list (kind : Kind) (space : String) (state : Dispatcher σ) :
    Except CacheError (List Resource) × Dispatcher σ :=
  let (answer, world) := backend.list kind space state.world
  (answer, { state with world })

def call (operation : Operation) (resource : Resource) (state : Dispatcher σ) :
    Except HandlerError Unit × Dispatcher σ :=
  let (reply, world) := backend.handle operation resource state.world
  ( reply.result,
    { state with
      world
      calls := state.calls ++ [⟨operation, resource, reply.result⟩]
      notices := state.notices ++ reply.notices } )

/-- Takes in an event: the key of a changed object is queued, and the last state of a deleted one is
kept before its key is queued. -/
def observe (event : WatchEvent) (state : Dispatcher σ) : Dispatcher σ :=
  showDepth <|
    match event with
    | .applied key => state.enqueue key
    | .deleted resource =>
        match Tombstones.bury state.tombstones resource with
        | .ok (key, tombstones) => { state with tombstones }.enqueue key
        | .error error => state.note (.unaddressableDeletion error)

/-- How often a key is put back after a failed lookup. -/
def maxRequeues : Nat := 5

/-- A failed lookup puts the key back with a delay, until it has failed too often. -/
def failLookup (key : ResourceKey) (source : CacheError) (state : Dispatcher σ) :
    ReconcileError × Dispatcher σ :=
  let attempts := state.queue.requeues key
  if attempts < maxRequeues then
    ( .lookupRetrying key.path (attempts + 1) source,
      if state.queue.canDelay key then
        { state with
          queue := state.queue.addRateLimited key
          metrics := state.metrics.recordRequeue key.kind.name }
      else { state with isBroken := true } )
  else (.lookupExhausted key.path attempts source, state.forget key)

def failHandler (key : ResourceKey) (operation : Operation) (error : HandlerError)
    (state : Dispatcher σ) : ReconcileError × Dispatcher σ :=
  ( .handler key.path error,
    { state.forget key with
      metrics := state.metrics.recordHandlerError key.kind.name operation.name } )

/-- Queues a zone that claims a name whose owner is gone. -/
def handOverTo (state : Dispatcher σ) (zone : Resource) : Dispatcher σ :=
  match zone.key with
  | .ok key => (state.note (.handingOver key zone.zoneName)).enqueue key
  | .error error => state.note (.unaddressableClaimant error)

/-- Queues all other zones of its namespace that declare the name of a zone that is gone. -/
def handOver (gone : Resource) (state : Dispatcher σ) : Dispatcher σ :=
  match gone.space? with
  | none => state
  | some space =>
      match state.list backend .zone space with
      | (.error error, state) => state.note (.handOverUnlisted error)
      | (.ok zones, state) => (zones.filter gone.rivals).foldl handOverTo state

/-- The object of the key is gone: its handler gets the state that its tombstone kept. -/
def handleDeletion (key : ResourceKey) (state : Dispatcher σ) :
    Except ReconcileError Outcome × Dispatcher σ :=
  match state.tombstones.get? key with
  | none => (.error (.deletionUnresolvable key.path), state.forget key)
  | some gone =>
      let (result, state) := (state.note .deletionDetected).call backend .deleted gone
      let state := (state.dropTombstone key).forget key
      let state := if gone.kind = .zone then state.handOver backend gone else state
      match result with
      | .ok () => (.ok .deleted, state)
      | .error error =>
          let (failure, state) := state.failHandler key .deleted error
          (.error failure, state)

/-- The object of the key was deleted and made again before the deletion was handled: the handler
gets the state of the old object, and if the new one has another zone name, the old name is handed
over. -/
def settleRecreated (key : ResourceKey) (zoneName : String) (state : Dispatcher σ) :
    Except ReconcileError Unit × Dispatcher σ :=
  match state.tombstones.get? key with
  | none => (.ok (), state)
  | some gone =>
      let (result, state) :=
        ((state.dropTombstone key).note .recreated).call backend .deleted gone
      let state :=
        if gone.kind = .zone && gone.zoneName ≠ zoneName then state.handOver backend gone
        else state
      match result with
      | .ok () => (.ok (), state)
      | .error error =>
          let (failure, state) := state.failHandler key .deleted error
          (.error failure, state)

/-- The zones that lost the claim on the name of a zone to its owner. -/
def superseded (zone owner : Resource) (zones : List Resource) : List Resource :=
  let losers := zones.filter fun other =>
    other.zoneName = zone.zoneName && other.nameAny ≠ owner.nameAny
  if zone.nameAny ≠ owner.nameAny && !losers.any fun loser => loser.nameAny = zone.nameAny then
    losers ++ [zone]
  else losers

/-- Removes what was materialized for some zones, up to the first failure. -/
def retire : List Resource → Dispatcher σ → Except HandlerError Unit × Dispatcher σ
  | [], state => (.ok (), state)
  | zone :: zones, state =>
      match state.call backend .deleted zone with
      | (.error error, state) => (.error error, state)
      | (.ok (), state) => retire zones state

/-- Materializes the owner of the name of a zone, and then removes what was materialized for the
other claimants. -/
def settleZone (key : ResourceKey) (zone : Resource) (zones : List Resource)
    (state : Dispatcher σ) : Except ReconcileError Outcome × Dispatcher σ :=
  let owner := canonical zone zones
  let state := if owner.nameAny ≠ zone.nameAny then
      state.note (.claimedByOlderZone zone.zoneName owner.nameAny)
    else state
  match state.call backend .created owner with
  | (.error error, state) =>
      let (failure, state) := state.failHandler key .created error
      (.error failure, state)
  | (.ok (), state) =>
      match state.retire backend (superseded zone owner zones) with
      | (.error error, state) =>
          let (failure, state) := state.failHandler key .deleted error
          (.error failure, state)
      | (.ok (), state) => (.ok .synced, state.forget key)

/-- A record is only remarked on, with the other records of its zone name. -/
def settleRecord (key : ResourceKey) (record : Resource) (records : List Resource)
    (state : Dispatcher σ) : Except ReconcileError Outcome × Dispatcher σ :=
  let siblings := (records.filter record.rivals).map Resource.nameAny
  (.ok .synced, (state.note (.recordObserved record.zoneName siblings)).forget key)

/-- The object of the key is there: it is settled among the objects of its namespace. -/
def settle (key : ResourceKey) (address : Address) (resource : Resource) (state : Dispatcher σ) :
    Except ReconcileError Outcome × Dispatcher σ :=
  match state.list backend key.kind address.space with
  | (.error source, state) => (.error (.listing key.path source), state.forget key)
  | (.ok others, state) =>
      match key.kind with
      | .zone => state.settleZone backend key resource others
      | .record => state.settleRecord key resource others

/-- Finds out what became of the object of a key, and acts on it. -/
def reconcile (key : ResourceKey) (state : Dispatcher σ) :
    Except ReconcileError Outcome × Dispatcher σ :=
  match key.address with
  | .error error => (.error (.malformedKey error), state.forget key)
  | .ok address =>
      match state.lookup backend key with
      | (.error source, state) =>
          let (failure, state) := state.failLookup key source
          (.error failure, state)
      | (.ok none, state) => state.handleDeletion backend key
      | (.ok (some resource), state) =>
          match state.settleRecreated backend key resource.zoneName with
          | (.error failure, state) => (.error failure, state)
          | (.ok (), state) => state.settle backend key address resource

def outcomeOf : Except ReconcileError Outcome → Outcome
  | .ok outcome => outcome
  | .error failure => failure.outcome

def noticeOf : Except ReconcileError Outcome → Notice
  | .ok outcome => .synced outcome
  | .error failure => .passFailed failure

/-- A whole pass for a key that was handed out.  Work takes no time on the clock of the queue.  A
pass that breaks off leaves its key handed out. -/
def process (key : ResourceKey) (state : Dispatcher σ) :
    Except ReconcileError Outcome × Dispatcher σ :=
  let (result, state) := state.reconcile backend key
  if state.isBroken then (result, state)
  else
    let state := { state with queue := state.queue.done key }.note (noticeOf result)
    let metrics := state.metrics.recordPass key.kind.name (outcomeOf result).name .zero
    (result, { state with metrics }.showDepth)

def step (state : Dispatcher σ) :
    Option (ResourceKey × Except ReconcileError Outcome × Dispatcher σ) :=
  state.queue.take?.map fun (key, queue) => (key, { state with queue }.process backend key)

end Dispatcher

end ZoneKeeper
