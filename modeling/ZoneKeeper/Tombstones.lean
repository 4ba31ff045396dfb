import ZoneKeeper.Resource
import ZoneKeeper.Sorting

/-!
# Tombstones

When an object is gone from the store, its deletion still has to be handled with the state in which
it was last seen.  That state is kept under the key of the object until it has been handled.
-/

namespace ZoneKeeper

abbrev Tombstones := Table ResourceKey Resource

namespace Tombstones

/-- Keeps the last state of a deleted object, in place of an older one. -/
def bury (tombstones : Tombstones) (resource : Resource) :
    Except KeyError (ResourceKey × Tombstones) :=
  resource.key.map fun key => (key, tombstones.insert key resource)

def sorted (tombstones : Tombstones) : List Resource :=
  (sortBy (fun left right => left.1.precedes right.1) tombstones.entries).map Prod.snd

end Tombstones

end ZoneKeeper
