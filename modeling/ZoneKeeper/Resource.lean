import ZoneKeeper.Instant
import ZoneKeeper.Json.Equality
import ZoneKeeper.Key
import ZoneKeeper.Table

/-!
# Resources

A resource is a zone or a record: the metadata that the server keeps of it and the zone name that
it declares.  Several zones of one namespace may declare the same zone name; which of them owns it
is settled in `ZoneKeeper.Canonical`.
-/

namespace ZoneKeeper

structure Owner where
  apiVersion : String
  kind : String
  name : String
  uid : String
  isController : Option Bool := none
  blocksDeletion : Option Bool := none
  deriving DecidableEq, Repr, Inhabited

/-- Which fields of an object somebody has set, and when. -/
structure FieldOwnership where
  manager : Option String := none
  operation : Option String := none
  apiVersion : Option String := none
  subresource : Option String := none
  fieldsType : Option String := none
  fields : Option Json := none
  time : Option Instant := none
  deriving DecidableEq, Repr, Inhabited

structure Metadata where
  name : Option String := none
  generateName : Option String := none
  space : Option String := none
  uid : Option String := none
  resourceVersion : Option String := none
  labels : Option (Table String String) := none
  annotations : Option (Table String String) := none
  finalizers : Option (List String) := none
  generation : Option Int := none
  created : Option Instant := none
  deleted : Option Instant := none
  gracePeriod : Option Int := none
  owners : Option (List Owner) := none
  managedFields : Option (List FieldOwnership) := none
  selfLink : Option String := none
  deriving DecidableEq, Repr, Inhabited

structure Resource where
  kind : Kind
  metadata : Metadata := {}
  zoneName : String
  deriving DecidableEq, Repr, Inhabited

namespace Resource

/-- The name, or else the stem that the server makes a name from, or else nothing. -/
def nameAny (resource : Resource) : String :=
  (resource.metadata.name.or resource.metadata.generateName).getD ""

def space? (resource : Resource) : Option String :=
  resource.metadata.space

def labels (resource : Resource) : Table String String :=
  resource.metadata.labels.getD {}

/-- The text `namespace/name`, which only an object that has both can be addressed by. -/
def path (resource : Resource) : Except KeyError String :=
  match resource.metadata.name, resource.metadata.space with
  | none, _ => .error .missingName
  | some name, none => .error (.missingNamespace name)
  | some name, some space => .ok (Address.text ⟨space, name⟩)

def key (resource : Resource) : Except KeyError ResourceKey :=
  resource.path.map fun path => ⟨path, resource.kind⟩

theorem key_kind {resource : Resource} {key : ResourceKey} (keyed : resource.key = .ok key) :
    key.kind = resource.kind := by
  unfold Resource.key at keyed
  cases pathed : resource.path with
  | error fault => simp [pathed, Except.map] at keyed
  | ok path =>
      simp only [pathed, Except.map, Except.ok.injEq] at keyed
      exact keyed ▸ rfl

end Resource

end ZoneKeeper
