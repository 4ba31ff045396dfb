import ZoneKeeper.Json.Nesting
import ZoneKeeper.Resource

/-!
# Manifests

A manifest is the JSON form of a resource.  Reading one checks the fields that a resource has and
passes over all others; a field of the metadata may be absent or `null`.  Writing one leaves out
what is absent.
-/

namespace ZoneKeeper

def apiGroupVersion : String := "corezone.io/v1"

namespace Json

def stringTable? : Json → Option (Table String String)
  | .object fields => do
      let entries ← fields.mapM fun (name, value) => value.string?.map fun text => (name, text)
      some (Table.ofList entries)
  | _ => none

/-- A list whose items are read one by one. -/
def list? {α : Type} (read : Json → Option α) : Json → Option (List α)
  | .array items => items.mapM read
  | _ => none

def stringList? : Json → Option (List String) :=
  list? string?

def int64? (value : Json) : Option Int :=
  value.int?.bind fun number =>
    if -0x8000000000000000 ≤ number && number < 0x8000000000000000 then some number else none

def instant? (value : Json) : Option Instant :=
  value.string?.bind Instant.parse?

def ofTable (table : Table String String) : Json :=
  .object (table.entries.map fun (name, value) => (name, .string value))

end Json

namespace Owner

/-- Reads an owner; the texts that are missing are empty. -/
def ofJson? (value : Json) : Option Owner := do
  let _ ← value.object?
  let apiVersion ← value.optional? Json.string? "apiVersion"
  let kind ← value.optional? Json.string? "kind"
  let name ← value.optional? Json.string? "name"
  let uid ← value.optional? Json.string? "uid"
  let isController ← value.optional? Json.bool? "controller"
  let blocksDeletion ← value.optional? Json.bool? "blockOwnerDeletion"
  some
    { apiVersion := apiVersion.getD "", kind := kind.getD "", name := name.getD ""
      uid := uid.getD "", isController, blocksDeletion }

def toJson (owner : Owner) : Json :=
  .ofFields
    [ ("apiVersion", some (.string owner.apiVersion)),
      ("blockOwnerDeletion", owner.blocksDeletion.map .bool),
      ("controller", owner.isController.map .bool),
      ("kind", some (.string owner.kind)),
      ("name", some (.string owner.name)),
      ("uid", some (.string owner.uid)) ]

end Owner

namespace FieldOwnership

/-- Reads what a manager owns; the set of its fields may be nested so deep. -/
def ofJson? (levels : Nat) (value : Json) : Option FieldOwnership := do
  let _ ← value.object?
  let manager ← value.optional? Json.string? "manager"
  let operation ← value.optional? Json.string? "operation"
  let apiVersion ← value.optional? Json.string? "apiVersion"
  let subresource ← value.optional? Json.string? "subresource"
  let fieldsType ← value.optional? Json.string? "fieldsType"
  let fields ← value.optional? (Json.kept? levels) "fieldsV1"
  let time ← value.optional? Json.instant? "time"
  some { manager, operation, apiVersion, subresource, fieldsType, fields, time }

def toJson (ownership : FieldOwnership) : Json :=
  .ofFields
    [ ("apiVersion", ownership.apiVersion.map .string),
      ("fieldsType", ownership.fieldsType.map .string),
      ("fieldsV1", ownership.fields),
      ("manager", ownership.manager.map .string),
      ("operation", ownership.operation.map .string),
      ("subresource", ownership.subresource.map .string),
      ("time", ownership.time.map fun instant => .string instant.text) ]

end FieldOwnership

namespace Metadata

/-- The number of levels that are left for a set of fields within an object. -/
def fieldLevels : Nat := 122

/-- Reads the metadata of an object; the sets of fields in it may be nested so deep. -/
def ofJson? (levels : Nat) (value : Json) : Option Metadata := do
  let _ ← value.object?
  let name ← value.optional? Json.string? "name"
  let generateName ← value.optional? Json.string? "generateName"
  let space ← value.optional? Json.string? "namespace"
  let uid ← value.optional? Json.string? "uid"
  let resourceVersion ← value.optional? Json.string? "resourceVersion"
  let labels ← value.optional? Json.stringTable? "labels"
  let annotations ← value.optional? Json.stringTable? "annotations"
  let finalizers ← value.optional? Json.stringList? "finalizers"
  let generation ← value.optional? Json.int64? "generation"
  let created ← value.optional? Json.instant? "creationTimestamp"
  let deleted ← value.optional? Json.instant? "deletionTimestamp"
  let gracePeriod ← value.optional? Json.int64? "deletionGracePeriodSeconds"
  let owners ← value.optional? (Json.list? Owner.ofJson?) "ownerReferences"
  let managedFields ← value.optional? (Json.list? (FieldOwnership.ofJson? levels)) "managedFields"
  let selfLink ← value.optional? Json.string? "selfLink"
  some
    { name, generateName, space, uid, resourceVersion, labels, annotations, finalizers,
      generation, created, deleted, gracePeriod, owners, managedFields, selfLink }

def toJson (metadata : Metadata) : Json :=
  .ofFields
    [ ("annotations", metadata.annotations.map .ofTable),
      ("creationTimestamp", metadata.created.map fun instant => .string instant.text),
      ("deletionGracePeriodSeconds", metadata.gracePeriod.map .integer),
      ("deletionTimestamp", metadata.deleted.map fun instant => .string instant.text),
      ("finalizers", metadata.finalizers.map .strings),
      ("generateName", metadata.generateName.map .string),
      ("generation", metadata.generation.map .integer),
      ("labels", metadata.labels.map .ofTable),
      ("managedFields", metadata.managedFields.map fun entries =>
        .array (entries.map FieldOwnership.toJson)),
      ("name", metadata.name.map .string),
      ("namespace", metadata.space.map .string),
      ("ownerReferences", metadata.owners.map fun owners => .array (owners.map Owner.toJson)),
      ("resourceVersion", metadata.resourceVersion.map .string),
      ("selfLink", metadata.selfLink.map .string),
      ("uid", metadata.uid.map .string) ]

end Metadata

namespace Resource

/-- Reads what is specified of a resource: its zone name. -/
def zoneName? (specification : Json) : Option String := do
  let [zoneName] ← specification.struct? ["zoneName"] | none
  zoneName.bind Json.string?

/-- Reads a manifest as a resource of a given kind, whatever kind it names itself; the sets of
fields in it may be nested so deep. -/
def ofManifestWithin? (levels : Nat) (kind : Kind) (manifest : Json) : Option Resource := do
  let [metadata, specification] ← manifest.struct? ["metadata", "spec"] | none
  let metadata ← metadata.bind (Metadata.ofJson? levels)
  let zoneName ← specification.bind zoneName?
  some { kind, metadata, zoneName }

/-- Reads a manifest that is not part of a listing. -/
def ofManifest? (kind : Kind) (manifest : Json) : Option Resource :=
  ofManifestWithin? Metadata.fieldLevels kind manifest

/-- Reads a manifest as a resource of the kind that it names. -/
def parseManifest? (manifest : Json) : Option Resource := do
  let kind ← (manifest.get "kind").string?.bind Kind.ofName?
  ofManifest? kind manifest

def manifest (resource : Resource) : Json :=
  .object
    [ ("apiVersion", .string apiGroupVersion),
      ("kind", .string resource.kind.name),
      ("metadata", resource.metadata.toJson),
      ("spec", .object [("zoneName", .string resource.zoneName)]) ]

end Resource

end ZoneKeeper
