import ZoneKeeper.Number.Binary

/-!
# JSON values

A number that is written without fraction and exponent, and fits 64 bits, is an integer; every
other number is a floating-point number.  A text may be well-formed and still name no value: such a
part of it may be passed over, but cannot be read.
-/

namespace ZoneKeeper

inductive Json where
  | null
  | bool (value : Bool)
  | integer (value : Int)
  | float (value : Binary)
  | string (value : String)
  | array (items : List Json)
  | object (fields : List (String × Json))
  /-- A string with half a surrogate pair, an object with such a name, or a number beyond all
  floating-point numbers. -/
  | unreadable
  deriving Repr, Inhabited

namespace Json

def nat (value : Nat) : Json :=
  .integer value

def strings (values : List String) : Json :=
  .array (values.map .string)

/-- The value of a field of an object; of two fields with one name the later one counts. -/
def field? (name : String) : Json → Option Json
  | .object fields => (fields.reverse.find? fun field => field.1 = name).map Prod.snd
  | _ => none

/-- The value of a field, where an absent field counts as `null`. -/
def get (value : Json) (name : String) : Json :=
  (value.field? name).getD .null

def string? : Json → Option String
  | .string value => some value
  | _ => none

def bool? : Json → Option Bool
  | .bool value => some value
  | _ => none

def int? : Json → Option Int
  | .integer value => some value
  | _ => none

def nat? (value : Json) : Option Nat :=
  value.int?.bind fun number => if 0 ≤ number then some number.toNat else none

def array? : Json → Option (List Json)
  | .array items => some items
  | _ => none

def object? : Json → Option (List (String × Json))
  | .object fields => some fields
  | _ => none

def all (value : Json) (name : String) : List Json :=
  (value.object?.getD []).filterMap fun field => if field.1 = name then some field.2 else none

/-- Reads `null` as no value. -/
def nullable? {α : Type} (read : Json → Option α) : Json → Option (Option α)
  | .null => some none
  | present => (read present).map some

/-- Reads the value of a field that may be absent or `null`.  If there are several fields of the
name, all of them have to be readable, and the last one counts. -/
def optional? {α : Type} (read : Json → Option α) (value : Json) (name : String) :
    Option (Option α) :=
  ((value.all name).mapM (nullable? read)).map fun values => values.getLast?.join

/-- The value of a field that may be absent, but must not be there twice. -/
def single? (value : Json) (name : String) : Option (Option Json) :=
  match value.all name with
  | [] => some none
  | [present] => some (some present)
  | _ => none

/-- The values of the named fields of an object, none of which is there twice, or of an array that
lists the values of at least so many of them, from the first one on. -/
def structFrom? (least : Nat) (names : List String) : Json → Option (List (Option Json))
  | .object fields => names.mapM (Json.object fields).single?
  | .array items =>
      if least ≤ items.length && items.length ≤ names.length then
        some (items.map some ++ List.replicate (names.length - items.length) none)
      else none
  | _ => none

/-- The values of the named fields of an object, or of an array that lists just these values. -/
def struct? (names : List String) : Json → Option (List (Option Json)) :=
  structFrom? names.length names

/-- Reads a value that may be absent, but not `null`. -/
def readOr? {α : Type} (read : Json → Option α) (default : α) : Option Json → Option α
  | none => some default
  | some value => read value

/-- The fields that have a value. -/
def ofFields (fields : List (String × Option Json)) : Json :=
  .object (fields.filterMap fun (name, value) => value.map fun value => (name, value))

end Json

end ZoneKeeper
