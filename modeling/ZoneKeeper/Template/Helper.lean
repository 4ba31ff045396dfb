import ZoneKeeper.Failure
import ZoneKeeper.Json.Equality
import ZoneKeeper.Number.Notation
import ZoneKeeper.Number.Shortest

/-!
# Helpers

A helper makes a value of its parameters.  The helpers of blocks, which choose what a block puts
out, make an empty text of them if they are called where there is no block.
-/

namespace ZoneKeeper.Template

/-- Whether a value counts as true; zero and the smallest fractions do only if `includesZero` is
set. -/
def isTruthy (includesZero : Bool) : Json → Bool
  | .null | .unreadable => false
  | .bool value => value
  | .integer value => includesZero || value ≠ 0
  | .float value => includesZero || value.isNormal
  | .string value => value ≠ ""
  | .array items => !items.isEmpty
  | .object fields => !fields.isEmpty

mutual

def display : Json → String
  | .null | .unreadable => ""
  | .bool true => "true"
  | .bool false => "false"
  | .integer value => toString value
  | .float value => value.pointedText
  | .string value => value
  | .array items => "[" ++ ", ".intercalate (displayItems items) ++ "]"
  | .object _ => "[object]"

def displayItems : List Json → List String
  | [] => []
  | item :: items => display item :: displayItems items

end

mutual

/-- The value with a positive zero for every negative one. -/
def withoutSignedZeros : Json → Json
  | .float value => .float { value with negative := value.negative && !value.isZero }
  | .array items => .array (itemsWithoutSignedZeros items)
  | .object fields => .object (fieldsWithoutSignedZeros fields)
  | value => value

def itemsWithoutSignedZeros : List Json → List Json
  | [] => []
  | item :: items => withoutSignedZeros item :: itemsWithoutSignedZeros items

def fieldsWithoutSignedZeros : List (String × Json) → List (String × Json)
  | [] => []
  | (name, value) :: fields => (name, withoutSignedZeros value) :: fieldsWithoutSignedZeros fields

end

/-- Whether two values are equal; an integer is never equal to a number of another sort. -/
def areEqual (first second : Json) : Bool :=
  withoutSignedZeros first = withoutSignedZeros second

/-- The floating-point number nearest to a number. -/
def float? : Json → Option Binary
  | .integer value => some (.ofInt value)
  | .float value => some value
  | _ => none

/-- The order of a number and what a text stands for in decimal notation. -/
def compareToText (number : Json) (text : String) : Option Ordering := do
  let number ← float? number
  number.orderTo? (← Numeral.ofText? text)

/-- A number as it is, of which an integer may have more digits than a floating-point number has. -/
def exactNumber? : Json → Option Binary
  | .integer value => some ⟨value < 0, value.natAbs, 0⟩
  | .float value => some value
  | _ => none

/-- The order of two values of one sort, or of a number and a text. -/
def compareValues (first second : Json) : Option Ordering :=
  match first, second with
  | .string first, .string second => some (compare first second)
  | .bool first, .bool second => some (compare first.toNat second.toNat)
  | .string first, second => (compareToText second first).map Ordering.swap
  | first, .string second => compareToText first second
  | first, second => do
      let first ← exactNumber? first
      let second ← exactNumber? second
      some (first.order second)

/-- How much there is in a value: a text counts by its bytes. -/
def lengthOf : Json → Nat
  | .string text => text.utf8ByteSize
  | .array items => items.length
  | .object fields => fields.length
  | _ => 0

/-- The item of an array, or the field of an object, that another value names. -/
def lookUp (value key : Json) : Json :=
  match value with
  | .array items => (key.nat?.bind fun index => items[index]?).getD .null
  | .object _ => (key.string?.bind value.field?).getD .null
  | _ => .null

abbrev Options := List (String × Json)

def option? (options : Options) (name : String) : Option Json :=
  (options.find? fun entry => entry.1 = name).map Prod.snd

def blockHelpers : List String :=
  ["if", "unless", "with", "each", "raw"]

def comparisons : List String :=
  ["eq", "ne", "gt", "gte", "lt", "lte"]

def questions : List String :=
  comparisons ++ ["not", "and", "or"]

def isHelper (name : String) : Bool :=
  (blockHelpers ++ questions ++ ["len", "lookup", "log"]).contains name

def holdsFor (helper : String) (first second : Json) : Bool :=
  let order := compareValues first second
  match helper with
  | "eq" => areEqual first second
  | "ne" => !areEqual first second
  | "gt" => order == some .gt
  | "gte" => order == some .gt || order == some .eq
  | "lt" => order == some .lt
  | _ => order == some .lt || order == some .eq

def oneOf (helper : String) : List Json → Except RenderFault Json
  | value :: _ => .ok value
  | [] => .error (.missingParameter helper)

def twoOf (helper : String) : List Json → Except RenderFault (Json × Json)
  | first :: second :: _ => .ok (first, second)
  | _ => .error (.missingParameter helper)

/-- The names of the levels of importance that a note can have. -/
def levels : List String :=
  ["error", "warn", "info", "debug", "trace"]

/-- Whether a note can be taken at the level that an option names. -/
def checkLevel (options : Options) : Except RenderFault Unit :=
  match option? options "level" with
  | some (.string level) =>
      if levels.contains (level.map Char.toLower) then .ok () else .error (.unknownLevel level)
  | _ => .ok ()

/-- The answer to a question.  Of all values taken together, or of none, any number is fine. -/
def answer (helper : String) (values : List Json) : Except RenderFault Bool :=
  match helper with
  | "and" => .ok (values.all (isTruthy false))
  | "or" => .ok (values.any (isTruthy false))
  | "not" => (oneOf helper values).map fun value => !isTruthy false value
  | _ => (twoOf helper values).map fun (first, second) => holdsFor helper first second

/-- The value of a helper that is called where there is no block. -/
def callHelper (helper : String) (values : List Json) (options : Options) :
    Except RenderFault Json :=
  if questions.contains helper then (answer helper values).map .bool
  else
    match helper with
    | "len" => (oneOf helper values).map fun value => .nat (lengthOf value)
    | "lookup" => (twoOf helper values).map fun (value, key) => lookUp value key
    | "if" | "unless" | "with" | "each" => (oneOf helper values).map fun _ => .string ""
    | "raw" => .ok (.string "")
    | "log" => (checkLevel options).map fun _ => .string ""
    | _ => .error (.unknownHelper helper)

end ZoneKeeper.Template
