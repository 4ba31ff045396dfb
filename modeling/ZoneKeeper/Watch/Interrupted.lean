import ZoneKeeper.Json.Unfinished
import ZoneKeeper.Watch.Entry

/-!
# Lines that end too early

A line that ends within its entry is passed over silently, unless what stands in it is wrong
already: a line is read from its front, and the first thing that is wrong with it counts.
-/

namespace ZoneKeeper

namespace Watch.Interrupted

open Json (Unfinished)

/-- Whether a text may come of what is known. -/
def mayBeText : Unfinished → Bool
  | .unknown => true
  | .array .. | .object .. => false

/-- Whether a field that may be there once is not there, or has been read without fault. -/
def isSound (fields : List (String × Json)) (last : Option (String × Unfinished)) (name : String)
    (reads : Json → Bool) (mayRead : Unfinished → Bool) : Bool :=
  let behind := last.filter fun field => field.1 = name
  match (Json.object fields).all name, behind with
  | [], behind => behind.all fun field => mayRead field.2
  | [value], none => reads value
  | _, _ => false

def mayBeMetadata : Unfinished → Bool
  | .unknown => true
  | .array .. => false
  | .object fields _ => (Metadata.ofJson? Metadata.fieldLevels (.object fields)).isSome

def mayBeSpecification : Unfinished → Bool
  | .unknown => true
  | .array [] last => last.all mayBeText
  | .array items last => last.isNone && items.length = 1 && items.all (·.string?.isSome)
  | .object fields last =>
      isSound fields last "zoneName" (fun value => value.string?.isSome) mayBeText

/-- Whether a resource may come of what is known. -/
def mayBeResource : Unfinished → Bool
  | .unknown => true
  | .array [] last => last.all mayBeMetadata
  | .array [metadata] last => isMetadata metadata && last.all mayBeSpecification
  | .array items last => last.isNone && (Resource.ofManifest? .zone (.array items)).isSome
  | .object fields last =>
      isSound fields last "metadata" isMetadata mayBeMetadata &&
        isSound fields last "spec" (fun value => (Resource.zoneName? value).isSome)
          mayBeSpecification
where
  isMetadata (value : Json) : Bool :=
    (Metadata.ofJson? Metadata.fieldLevels value).isSome

/-- Whether a bookmark may come of what is known. -/
def mayBeBookmark : Unfinished → Bool
  | .unknown => true
  | .array .. => false
  | .object fields last =>
      isSound fields last "metadata" (fun value => (StreamEntry.bookmarkVersion? value).isSome)
        fun _ => true

/-- Whether an error may come of what is known. -/
def mayBeError : Unfinished → Bool
  | .unknown => true
  | .array items _ => (StreamEntry.errorCode? (.array items)).isSome
  | .object fields _ => (StreamEntry.errorCode? (.object fields)).isSome

/-- Whether the content of an entry with this label may come of what is known. -/
def mayBeContent (label : String) (content : Unfinished) : Bool :=
  match label with
  | "BOOKMARK" => mayBeBookmark content
  | "ERROR" => mayBeError content
  | _ => mayBeResource content

def mayBeLabel : Unfinished → Bool
  | .array .. => false
  | .unknown | .object .. => true

def isLabelOrContent (name : String) : Bool :=
  name = "type" || name = "object"

/-- Whether an entry may come of what is known. -/
def mayBeEntry (kind : Kind) : Unfinished → Bool
  | .unknown => true
  | .array [] last => last.all mayBeText
  | .array [label] last =>
      (StreamEntry.plainLabel? label).any fun label => last.all (mayBeContent label)
  | .array items last => last.isNone && (StreamEntry.ofJson? kind (.array items)).isSome
  | .object fields last =>
      let known := fields.filter fun field => isLabelOrContent field.1
      match known, last.filter fun field => isLabelOrContent field.1 with
      | [], none => true
      | [], some ("type", label) => mayBeLabel label
      | [], some _ => true
      | [("type", label)], last =>
          (StreamEntry.label? label).any fun label =>
            last.all fun field => field.1 = "object" && mayBeContent label field.2
      | [("object", content)], last =>
          content.fits Json.levelsWithin &&
            last.all fun field => field.1 = "type" && mayBeLabel field.2
      | known, last => last.isNone && (StreamEntry.ofJson? kind (.object known)).isSome

/-- Whether a line ends before anything is wrong with it. -/
def isInterrupted (kind : Kind) (line : String) : Bool :=
  (Unfinished.ofText? line).any (mayBeEntry kind)

end Watch.Interrupted

namespace Watch.StreamEntry

/-- The entry of a line, if there is one. -/
def ofLine? (kind : Kind) (line : String) : Option StreamEntry :=
  match Json.parse? line with
  | some value => some ((ofJson? kind value).getD .faulty)
  | none => if Interrupted.isInterrupted kind line then none else some .faulty

/-- The entries of a text of lines. -/
def ofText (kind : Kind) (text : String) : List StreamEntry :=
  (text.splitOn "\n").filterMap (ofLine? kind)

end Watch.StreamEntry

end ZoneKeeper
