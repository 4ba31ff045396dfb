import ZoneKeeper.Json.Reader
import ZoneKeeper.Manifest

/-!
# Pages of a listing

A page is one JSON value; one object on it that cannot be read spoils the whole page.  What stands
in a value besides the fields that are read is passed over, unless it has to be kept until it is
known what the value is.
-/

namespace ZoneKeeper

namespace Json

/-- The levels that are left within the outermost value. -/
def levelsWithin : Nat := 126

/-- The object, if all its fields but the named ones can be kept. -/
def withRest? (names : List String) (levels : Nat) : Json → Option Json
  | .object fields =>
      if fields.all fun (name, value) => names.contains name || value.fits levels then
        some (.object fields)
      else none
  | _ => none

/-- Reads one of several words, which may also be the name of an empty field. -/
def word? (words : List String) (value : Json) : Option String :=
  let found := match value with
    | .string word => some word
    | .object [(word, .null)] => some word
    | _ => none
  found.filter words.contains

/-- An integer of so many bits without a sign. -/
def unsigned? (bits : Nat) (value : Json) : Option Nat :=
  value.nat?.filter (· < Nat.pow 2 bits)

end Json

namespace Watch

structure Page where
  resources : List Resource
  token : Option String
  version : Option String
  deriving DecidableEq, Repr

structure ListMetadata where
  token : Option String
  version : Option String

def ListMetadata.ofJson? (value : Json) : Option ListMetadata := do
  let _ ← value.object?
  let token ← value.optional? Json.string? "continue"
  let version ← value.optional? Json.string? "resourceVersion"
  let _ ← value.optional? Json.int64? "remainingItemCount"
  let _ ← value.optional? Json.string? "selfLink"
  some ⟨token, version⟩

namespace Page

/-- Reads a page; an empty token or version stands for none. -/
def ofJson? (kind : Kind) (value : Json) : Option Page := do
  let value ← value.withRest? ["items", "metadata"] Json.levelsWithin
  let items ← (← value.single? "items").bind (Json.nullable? Json.array?)
  let levels := Metadata.fieldLevels - 1
  let resources ← (items.getD []).mapM (Resource.ofManifestWithin? levels kind)
  let metadata ← (← value.single? "metadata").elim (some ⟨none, none⟩) ListMetadata.ofJson?
  some ⟨resources, metadata.token.filter (· ≠ ""), metadata.version.filter (· ≠ "")⟩

def ofText? (kind : Kind) (text : String) : Option Page :=
  (Json.parse? text).bind (ofJson? kind)

end Page

end Watch

end ZoneKeeper
