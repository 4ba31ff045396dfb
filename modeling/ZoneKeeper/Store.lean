import ZoneKeeper.Failure
import ZoneKeeper.Selector
import ZoneKeeper.Sorting
import ZoneKeeper.Watch.Change

/-!
# The store of observed objects

The store holds the last reported state of every object of one kind.  A listing is collected aside
and replaces the whole store when it is complete.  Lookups and listings read the store.  An object
without a name cannot be told from others, and a store that meets one breaks.
-/

namespace ZoneKeeper

/-- What tells the objects of one kind apart. -/
structure ObjectRef where
  name : String
  space : Option String
  deriving DecidableEq, Repr

def Resource.ref? (resource : Resource) : Option ObjectRef :=
  resource.metadata.name.map fun name => ⟨name, resource.metadata.space⟩

/-- Resources are listed by namespace and then by name; those without a namespace come first. -/
def Resource.listedBefore (left right : Resource) : Bool :=
  let space (resource : Resource) := resource.space?.elim [] fun space => [space]
  space left < space right ||
    space left = space right && left.nameAny ≤ right.nameAny

structure Store where
  objects : Table ObjectRef Resource := {}
  listing : Table ObjectRef Resource := {}
  deriving DecidableEq, Repr

namespace Store

/-- The store after a change, unless the change is of an object without a name. -/
def accept? (store : Store) : Change → Option Store
  | .applied resource => resource.ref?.map fun ref =>
      { store with objects := store.objects.insert ref resource }
  | .deleted resource => resource.ref?.map fun ref =>
      { store with objects := store.objects.erase ref }
  | .listingStarted => some { store with listing := {} }
  | .listed resource => resource.ref?.map fun ref =>
      { store with listing := store.listing.insert ref resource }
  | .listingDone => some ⟨store.listing, {}⟩

def size (store : Store) : Nat :=
  store.objects.size

def isEmpty (store : Store) : Bool :=
  store.objects.isEmpty

/-- The object at an address, or else the object of that name that has no namespace. -/
def find? (store : Store) (address : Address) : Option Resource :=
  (store.objects.get? ⟨address.name, some address.space⟩).or
    (store.objects.get? ⟨address.name, none⟩)

/-- The object that a key refers to.  Only a malformed key fails. -/
def lookup (store : Store) (kind : Kind) (key : String) : Except CacheError (Option Resource) :=
  match Address.parse key with
  | .error fault => .error (.lookup kind key fault.message)
  | .ok address => .ok (store.find? address)

/-- The objects of a namespace whose labels the selector admits, in the order of their names. -/
def list (store : Store) (space : String) (selector : Selector := .all) : List Resource :=
  sortBy Resource.listedBefore (store.objects.values.filter fun resource =>
    resource.space? = some space && selector.admits resource.labels)

end Store

structure Cache where
  store : Store := {}
  isSynced : Bool := false
  deriving DecidableEq, Repr

end ZoneKeeper
