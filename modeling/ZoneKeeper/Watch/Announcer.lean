import ZoneKeeper.Notice
import ZoneKeeper.Sorting
import ZoneKeeper.Watch.Change

/-!
# Announcing changes

The announcer remembers the last state of every object that has a key.  When a listing ends, the
objects that were known before and are missing from it are reported as deleted, with the state in
which they were last seen.
-/

namespace ZoneKeeper

structure Announcer where
  known : Table String Resource := {}
  listing : List (String × Resource) := []
  deriving DecidableEq, Repr

namespace Announcer

/-- The known objects that a listing does not have, by the order of their keys. -/
def vanished (known : Table String Resource) (listing : List (String × Resource)) :
    List Resource :=
  (sortBy (fun left right => left.1 ≤ right.1) (known.entries.filter fun entry =>
    !(listing.map Prod.fst).contains entry.1)).map Prod.snd

/-- The events of a change, and what is remarked about it. -/
structure Announcement where
  announcer : Announcer
  events : List WatchEvent := []
  notices : List Notice := []

/-- The deletions of what has vanished may come in any order. -/
def finishListing (kind : Kind) (announcer : Announcer) (shuffle : Shuffle Resource) :
    Announcement :=
  let gone := shuffle.arrange (vanished announcer.known announcer.listing)
  { announcer := { known := Table.ofList announcer.listing }
    events := gone.map .deleted ++
      announcer.listing.map fun entry => .applied ⟨entry.1, kind⟩
    notices := if gone.isEmpty then [] else [.vanished kind gone.length] }

/-- Announces a change that the store already reflects. -/
def announce (kind : Kind) (announcer : Announcer) (change : Change)
    (shuffle : Shuffle Resource := .asGiven) : Announcement :=
  match change with
  | .applied resource =>
      match resource.path with
      | .ok path =>
          { announcer := { announcer with known := announcer.known.insert path resource }
            events := [.applied ⟨path, kind⟩] }
      | .error error => { announcer, notices := [.unaddressableChange kind error] }
  | .deleted resource =>
      match resource.path with
      | .ok path =>
          { announcer := { announcer with known := announcer.known.erase path }
            events := [.deleted resource] }
      | .error error => { announcer, notices := [.unaddressableChange kind error] }
  | .listingStarted => { announcer := { announcer with listing := [] } }
  | .listed resource =>
      match resource.path with
      | .ok path =>
          { announcer := { announcer with listing := announcer.listing ++ [(path, resource)] } }
      | .error error => { announcer, notices := [.unaddressableChange kind error] }
  | .listingDone => announcer.finishListing kind shuffle

end Announcer

end ZoneKeeper
