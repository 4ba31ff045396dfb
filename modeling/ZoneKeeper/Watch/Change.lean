import ZoneKeeper.Resource

/-!
# Changes

What the server reports about the objects of one kind, and what the dispatcher is told about it.
-/

namespace ZoneKeeper

/-- A report of the server.  A listing is reported object by object between its start and its
end, and takes effect as a whole at its end. -/
inductive Change where
  | applied (resource : Resource)
  | deleted (resource : Resource)
  | listingStarted
  | listed (resource : Resource)
  | listingDone
  deriving DecidableEq, Repr

/-- A change as the dispatcher sees it: of an object that is there only the key matters, of one
that is gone the last known state. -/
inductive WatchEvent where
  | applied (key : ResourceKey)
  | deleted (resource : Resource)
  deriving DecidableEq, Repr

end ZoneKeeper
