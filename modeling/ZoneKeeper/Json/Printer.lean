import ZoneKeeper.Json.Basic
import ZoneKeeper.Number.Shortest

/-!
# Writing JSON

The text of a JSON value on one line, without blanks between its parts.
-/

namespace ZoneKeeper

namespace Json

/-- A control character is written by its code, a quote and a backslash behind a backslash. -/
def escape (char : Char) : List Char :=
  if char = '"' then ['\\', '"']
  else if char = '\\' then ['\\', '\\']
  else if char.toNat < 0x20 then
    ['\\', 'u'] ++ (Nat.toDigits 16 char.toNat).leftpad 4 '0'
  else [char]

def quoted (text : String) : String :=
  "\"" ++ String.ofList (text.toList.flatMap escape) ++ "\""

mutual

def text : Json → String
  | .null => "null"
  | .bool true => "true"
  | .bool false => "false"
  | .integer value => toString value
  | .float value => value.pointedText
  | .string value => quoted value
  | .array items => "[" ++ ",".intercalate (itemTexts items) ++ "]"
  | .object fields => "\x7b" ++ ",".intercalate (fieldTexts fields) ++ "\x7d"
  | .unreadable => "null"

def itemTexts : List Json → List String
  | [] => []
  | item :: items => item.text :: itemTexts items

def fieldTexts : List (String × Json) → List String
  | [] => []
  | (name, value) :: fields => (quoted name ++ ":" ++ value.text) :: fieldTexts fields

end

end Json

end ZoneKeeper
