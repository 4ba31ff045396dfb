import ZoneKeeper.Json.Reader
import ZoneKeeper.Watch.Page

/-!
# Entries of a stream

A stream is a sequence of lines with one entry each, and a line that cannot be read spoils itself
only.
-/

namespace ZoneKeeper

namespace Watch

inductive StreamEntry where
  | applied (resource : Resource)
  | deleted (resource : Resource)
  /-- Nothing changed up to this version. -/
  | bookmark (version : String)
  /-- The changes after the last version seen are no longer known. -/
  | expired
  /-- An error that passes, or an entry that makes no sense. -/
  | faulty
  deriving DecidableEq, Repr

namespace StreamEntry

def bookmarkVersion? (metadata : Json) : Option String := do
  let [version, annotations] ← metadata.structFrom? 1 ["resourceVersion", "annotations"] | none
  let _ ← Json.readOr? Json.stringTable? default annotations
  version.bind Json.string?

def bookmark? (value : Json) : Option String := do
  let value ← value.withRest? ["metadata"] (Json.levelsWithin - 1)
  let _ ← (← value.single? "apiVersion").bind Json.string?
  let _ ← (← value.single? "kind").bind Json.string?
  (← value.single? "metadata").bind bookmarkVersion?

/-- The code with which the server says that a version is gone. -/
def goneCode : Nat := 410

/-- Whether a value tells one of the causes of an error. -/
def isCause (value : Json) : Bool :=
  match value.structFrom? 0 ["reason", "message", "field"] with
  | some texts => texts.all fun text => (Json.readOr? Json.string? "" text).isSome
  | none => false

/-- Whether a value tells the details of an error. -/
def areDetails (value : Json) : Bool :=
  match value.structFrom? 0 ["name", "group", "kind", "uid", "causes", "retryAfterSeconds"] with
  | some [name, group, kind, uid, causes, seconds] =>
      ([name, group, kind, uid].all fun text => (Json.readOr? Json.string? "" text).isSome) &&
        ((Json.readOr? Json.array? [] causes).any fun causes => causes.all isCause) &&
        (Json.readOr? (Json.unsigned? 32) 0 seconds).isSome
  | _ => false

def errorCode? (value : Json) : Option Nat := do
  let [status, code, message, metadata, reason, details] ← value.structFrom? 0
    ["status", "code", "message", "metadata", "reason", "details"] | none
  let _ ← Json.readOr? (Json.nullable? (Json.word? ["Success", "Failure"])) none status
  let _ ← Json.readOr? Json.string? "" message
  let _ ← Json.readOr? (Json.nullable? ListMetadata.ofJson?) none metadata
  let _ ← Json.readOr? Json.string? "" reason
  if details.all fun details => details = .null || areDetails details then
    Json.readOr? (Json.unsigned? 16) 0 code
  else none

def labels : List String :=
  ["ADDED", "MODIFIED", "DELETED", "BOOKMARK", "ERROR"]

/-- Reads a label, which may also be the name of an empty field. -/
def label? (value : Json) : Option String :=
  value.word? labels

/-- Reads a label that is written as a text. -/
def plainLabel? (value : Json) : Option String :=
  value.string?.filter labels.contains

/-- The content of an entry is read as its label says; if it comes first, it is kept until then. -/
def isInOrder : Json → Bool
  | .object fields =>
      match fields.find? fun (name, _) => name = "type" || name = "object" with
      | some ("object", content) => content.fits Json.levelsWithin
      | _ => true
  | _ => true

/-- Reads the content of an entry as its label says. -/
def ofContent? (kind : Kind) (label : String) (content : Json) : Option StreamEntry :=
  match label with
  | "ADDED" | "MODIFIED" => (Resource.ofManifest? kind content).map .applied
  | "DELETED" => (Resource.ofManifest? kind content).map .deleted
  | "BOOKMARK" => (bookmark? content).map .bookmark
  | _ => (errorCode? content).map fun code => if code = goneCode then .expired else .faulty

/-- Reads an entry, which may also be written as an array of its label and its content. -/
def ofJson? (kind : Kind) (value : Json) : Option StreamEntry := do
  let [label, content] ← value.struct? ["type", "object"] | none
  let label ← label.bind (if value.array?.isSome then plainLabel? else label?)
  if isInOrder value then ofContent? kind label (← content) else none

end StreamEntry

end Watch

end ZoneKeeper
