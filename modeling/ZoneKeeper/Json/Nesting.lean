import ZoneKeeper.Json.Basic

/-!
# Values that are kept as they are

Some values are kept without a look at their parts.  Such a value has to be readable in all its
parts, and arrays and objects may be nested in it only so deep.
-/

namespace ZoneKeeper.Json

mutual

/-- Whether all parts are readable and at most so many arrays and objects are nested. -/
def fits : (levels : Nat) → Json → Bool
  | 0, .array _ | 0, .object _ => false
  | levels + 1, .array items => itemsFit levels items
  | levels + 1, .object fields => fieldsFit levels fields
  | _, .unreadable => false
  | _, .null | _, .bool _ | _, .integer _ | _, .float _ | _, .string _ => true

def itemsFit (levels : Nat) : List Json → Bool
  | [] => true
  | item :: items => fits levels item && itemsFit levels items

def fieldsFit (levels : Nat) : List (String × Json) → Bool
  | [] => true
  | (_, value) :: fields => fits levels value && fieldsFit levels fields

end

/-- The value, if it fits. -/
def kept? (levels : Nat) (value : Json) : Option Json :=
  if value.fits levels then some value else none

end ZoneKeeper.Json
