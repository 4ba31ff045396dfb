import ZoneKeeper.Store
import ZoneKeeper.Watch.Channel
import ZoneKeeper.Watch.Exchange
import ZoneKeeper.Watch.Announcer

/-!
# Running a watch

A watch keeps the cache of one kind up to date and sends every change on as events.  An event is
sent only after the store reflects it, so a receiver that looks up an applied key finds the object,
and one that looks up a deleted key does not.  The watch ends when it is told to, or when nobody
receives its events any more, and it breaks when its store does.
-/

namespace ZoneKeeper

inductive Watch.Phase where
  | running
  | ended
  | broken
  deriving DecidableEq, Repr

structure Watch where
  kind : Kind
  path : String
  cache : Cache := {}
  announcer : Announcer := {}
  channel : Channel
  requests : List Watch.Request := []
  phase : Watch.Phase := .running
  deriving DecidableEq, Repr

namespace Watch

def isRunning (watch : Watch) : Bool :=
  watch.phase = .running

/-- Sends events in turn; when one cannot be sent the watch ends. -/
def sendAll (watch : Watch) : List WatchEvent → Watch
  | [] => watch
  | event :: events =>
      match watch.channel.send event with
      | (true, channel) => sendAll { watch with channel } events
      | (false, channel) => { watch with channel, phase := .ended }

/-- Applies a change to the cache and sends its events.  The end of a listing makes the cache
complete. -/
def observe (watch : Watch) (change : Change) : Watch :=
  match watch.cache.store.accept? change with
  | none => { watch with phase := .broken, channel := watch.channel.drain }
  | some store =>
      let announcement := watch.announcer.announce watch.kind change
      sendAll
        { watch with
          cache := { store, isSynced := watch.cache.isSynced || change = .listingDone }
          announcer := announcement.announcer }
        announcement.events

/-- While the watch waits, the receiver takes the events that are under way. -/
def wait (watch : Watch) : Watch :=
  { watch with channel := watch.channel.drain }

def take (watch : Watch) : Step → Watch
  | .change change => watch.observe change
  | .pause => watch.wait

def takeAll (watch : Watch) : List Step → Watch
  | [] => watch
  | step :: steps =>
      let watch := watch.take step
      if watch.isRunning then takeAll watch steps else watch

def ask (watch : Watch) (request : Request) : Watch :=
  { watch.wait with requests := watch.requests ++ [request] }

/-- What is left of a watch when it has taken the steps of an exchange and then goes on as told. -/
def proceed (watch : Watch) (exchange : Exchange) (goOn : Request → Watch → Watch) : Watch :=
  let watch := watch.takeAll exchange.steps
  match watch.isRunning, exchange.next with
  | true, some request => goOn request watch
  | true, none => watch.wait
  | false, _ => watch

/-- Makes a request and takes in the responses of the server, one after the other.  A request that
is left without a response is waited for. -/
def exchangeAll (request : Request) (watch : Watch) : List Response → Watch
  | [] => watch.ask request
  | response :: responses =>
      (watch.ask request).proceed (.ofResponse watch.kind request response) fun request watch =>
        exchangeAll request watch responses

/-- Runs a watch against the responses of a server, unless it is told to stop beforehand.  If no
request can be made for the place of the objects, the watch goes on trying. -/
def run (watch : Watch) (stopped : Bool) (responses : List Response) : Watch :=
  if stopped then { watch with phase := .ended }
  else if (Request.target? watch.path (.list none)).isNone then watch
  else watch.proceed .startListing fun request watch => exchangeAll request watch responses

end Watch

end ZoneKeeper
