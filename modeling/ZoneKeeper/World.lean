import ZoneKeeper.Dispatcher
import ZoneKeeper.Store
import ZoneKeeper.Watch.Announcer

/-!
# The world of the dispatcher

The caches of both kinds, fed by the watches, and the files that the handlers write.  For
rehearsals lookups, listings and handler calls can be made to fail.
-/

namespace ZoneKeeper

/-- What is made to fail. -/
structure Faults where
  lookups : List Kind := []
  listings : List Kind := []
  /-- Handler calls, by operation and the name of the object. -/
  calls : List (Operation × String) := []

structure World where
  zones : Cache := {}
  records : Cache := {}
  /-- Without a handler every call succeeds and does nothing. -/
  handler : Option Handler := none
  files : Files := {}
  faults : Faults := {}
  /-- The order in which the objects of a namespace come when they are listed. -/
  shuffle : Shuffle Resource := .asGiven

namespace World

def cache (world : World) : Kind → Cache
  | .zone => world.zones
  | .record => world.records

def withCache (world : World) (kind : Kind) (cache : Cache) : World :=
  match kind with
  | .zone => { world with zones := cache }
  | .record => { world with records := cache }

/-- Applies a change to the store of a kind, unless the store breaks. -/
def accept? (world : World) (kind : Kind) (change : Change) : Option World :=
  let cache := world.cache kind
  (cache.store.accept? change).map fun store => world.withCache kind { cache with store }

def markSynced (world : World) (kind : Kind) : World :=
  world.withCache kind { world.cache kind with isSynced := true }

def injected : String := "injected"

def lookup (world : World) (kind : Kind) (path : String) : Except CacheError (Option Resource) :=
  if world.faults.lookups.contains kind then .error (.lookup kind path injected)
  else (world.cache kind).store.lookup kind path

def list (world : World) (kind : Kind) (space : String) : Except CacheError (List Resource) :=
  if world.faults.listings.contains kind then .error (.list kind space injected)
  else .ok (world.shuffle.arrange ((world.cache kind).store.list space))

def handle (world : World) (operation : Operation) (resource : Resource) : Reply × World :=
  if world.faults.calls.contains (operation, resource.nameAny) then
    (.failed (.render resource.nameAny (.reported injected)), world)
  else
    match world.handler with
    | none => ({}, world)
    | some handler =>
        let (reply, files) := match operation with
          | .created => handler.created resource world.files
          | .deleted => handler.deleted resource world.files
        (reply, { world with files })

/-- Looking something up leaves the world as it is. -/
def backend : Backend World where
  lookup kind path world := (world.lookup kind path, world)
  list kind space world := (world.list kind space, world)
  handle operation resource world := world.handle operation resource
  hasSynced kind world := (world.cache kind).isSynced

end World

/-- The announcers of both kinds. -/
structure Announcers where
  zones : Announcer := {}
  records : Announcer := {}

namespace Announcers

def announce (announcers : Announcers) (kind : Kind) (change : Change) :
    List WatchEvent × List Notice × Announcers :=
  match kind with
  | .zone =>
      let announcement := announcers.zones.announce .zone change
      (announcement.events, announcement.notices,
        { announcers with zones := announcement.announcer })
  | .record =>
      let announcement := announcers.records.announce .record change
      (announcement.events, announcement.notices,
        { announcers with records := announcement.announcer })

end Announcers

end ZoneKeeper
