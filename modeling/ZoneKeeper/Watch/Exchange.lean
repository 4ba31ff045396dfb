import ZoneKeeper.Watch.Change
import ZoneKeeper.Watch.Interrupted
import ZoneKeeper.Watch.Request

/-!
# Exchanges with the server

A watch asks for the pages of a full listing, and then for the stream of the changes after the
version of that listing.  A stream that ends is taken up again at the last version seen.  When the
server has forgotten that version, or a listing fails, the watch lists everything again.
-/

namespace ZoneKeeper.Watch

inductive Response where
  /-- A text, and whether the response ends behind it. -/
  | answer (text : String) (ends : Bool)
  | failure
  deriving DecidableEq, Repr

/-- What a watch takes in: a change, or a fault behind which it waits a while before it goes on. -/
inductive Step where
  | change (change : Change)
  | pause
  deriving DecidableEq, Repr

/-- What a response amounts to: the steps it makes the watch take, and the next request unless the
response does not end. -/
structure Exchange where
  steps : List Step
  next : Option Request
  deriving DecidableEq, Repr

namespace Exchange

/-- The start of a new listing, with which every watch begins. -/
def startListing : Exchange :=
  ⟨[.change .listingStarted], some (.list none)⟩

def take (step : Step) (rest : Exchange) : Exchange :=
  { rest with steps := step :: rest.steps }

/-- A page that has neither a token nor a version leads nowhere. -/
def ofPage (page : Page) : Exchange :=
  let listed := page.resources.map fun resource => Step.change (.listed resource)
  match page.token, page.version with
  | some token, _ => ⟨listed, some (.list (some token))⟩
  | none, some version => ⟨listed ++ [.change .listingDone], some (.follow version)⟩
  | none, none => startListing

/-- Follows a stream; an object without a version desynchronizes it. -/
def ofStream (ends : Bool) (version : String) : List StreamEntry → Exchange
  | [] => ⟨[], if ends then some (.follow version) else none⟩
  | .applied resource :: entries =>
      match resource.metadata.resourceVersion.filter (· ≠ "") with
      | some version => take (.change (.applied resource)) (ofStream ends version entries)
      | none => startListing
  | .deleted resource :: entries =>
      match resource.metadata.resourceVersion.filter (· ≠ "") with
      | some version => take (.change (.deleted resource)) (ofStream ends version entries)
      | none => startListing
  | .bookmark version :: entries => ofStream ends version entries
  | .expired :: _ => startListing
  | .faulty :: entries => take .pause (ofStream ends version entries)

/-- Takes in the response to a request.  A page is read as a whole, once it has ended. -/
def ofResponse (kind : Kind) : Request → Response → Exchange
  | .list _, .answer text true => ((Page.ofText? kind text).map ofPage).getD startListing
  | .list _, .answer _ false => ⟨[], none⟩
  | .list _, .failure => startListing
  | .follow version, .answer text ends =>
      ofStream ends version (StreamEntry.ofText kind text)
  | .follow version, .failure => ⟨[], some (.follow version)⟩

end Exchange

end ZoneKeeper.Watch
