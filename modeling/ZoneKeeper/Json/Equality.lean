import ZoneKeeper.Json.Basic

/-!
# Equality of JSON values

Two values are equal if they are built alike; of objects the order of the fields counts.
-/

namespace ZoneKeeper.Json

mutual

/-- Values of one sort are compared by their parts. -/
def decEq : (left right : Json) → Decidable (left = right)
  | .null, right =>
      match right with
      | .null => isTrue rfl
      | .bool _ | .integer _ | .float _ | .string _ | .array _ | .object _ | .unreadable =>
          isFalse nofun
  | .bool left, right =>
      match right with
      | .bool right => decidable_of_iff (left = right) (by simp)
      | .null | .integer _ | .float _ | .string _ | .array _ | .object _ | .unreadable =>
          isFalse nofun
  | .integer left, right =>
      match right with
      | .integer right => decidable_of_iff (left = right) (by simp)
      | .null | .bool _ | .float _ | .string _ | .array _ | .object _ | .unreadable =>
          isFalse nofun
  | .float left, right =>
      match right with
      | .float right => decidable_of_iff (left = right) (by simp)
      | .null | .bool _ | .integer _ | .string _ | .array _ | .object _ | .unreadable =>
          isFalse nofun
  | .string left, right =>
      match right with
      | .string right => decidable_of_iff (left = right) (by simp)
      | .null | .bool _ | .integer _ | .float _ | .array _ | .object _ | .unreadable =>
          isFalse nofun
  | .array left, right =>
      match right with
      | .array right =>
          match decEqItems left right with
          | isTrue same => isTrue (congrArg _ same)
          | isFalse differ => isFalse fun same => differ (Json.array.inj same)
      | .null | .bool _ | .integer _ | .float _ | .string _ | .object _ | .unreadable =>
          isFalse nofun
  | .object left, right =>
      match right with
      | .object right =>
          match decEqFields left right with
          | isTrue same => isTrue (congrArg _ same)
          | isFalse differ => isFalse fun same => differ (Json.object.inj same)
      | .null | .bool _ | .integer _ | .float _ | .string _ | .array _ | .unreadable =>
          isFalse nofun
  | .unreadable, right =>
      match right with
      | .unreadable => isTrue rfl
      | .null | .bool _ | .integer _ | .float _ | .string _ | .array _ | .object _ =>
          isFalse nofun

def decEqItems : (left right : List Json) → Decidable (left = right)
  | [], [] => isTrue rfl
  | [], _ :: _ => isFalse nofun
  | _ :: _, [] => isFalse nofun
  | left :: lefts, right :: rights =>
      match decEq left right, decEqItems lefts rights with
      | isTrue first, isTrue others => isTrue (by rw [first, others])
      | isFalse differ, _ => isFalse fun same => differ (List.cons.inj same).1
      | _, isFalse differ => isFalse fun same => differ (List.cons.inj same).2

def decEqFields : (left right : List (String × Json)) → Decidable (left = right)
  | [], [] => isTrue rfl
  | [], _ :: _ => isFalse nofun
  | _ :: _, [] => isFalse nofun
  | (name, left) :: lefts, (other, right) :: rights =>
      match decEq left right, decEqFields lefts rights with
      | isTrue first, isTrue others =>
          decidable_of_iff (name = other) (by simp [first, others])
      | isFalse differ, _ => isFalse fun same => differ (by simp_all)
      | _, isFalse differ => isFalse fun same => differ (by simp_all)

end

instance : DecidableEq Json := decEq

end ZoneKeeper.Json
