import ZoneKeeper.Text.Hidden

/-!
# Quoted texts

A text between double quotes, on one line and in characters that show.  A backslash stands before a
quote and before a backslash; a line end, a tab and a NUL have short escapes, and every other
character that would not show by itself is written by its code point.
-/

namespace ZoneKeeper.Text

def hexDigits (number : Nat) : String :=
  String.ofList (Nat.toDigits 16 number)

def escape (char : Char) : String :=
  match char with
  | '"' => "\\\""
  | '\\' => "\\\\"
  | '\n' => "\\n"
  | '\r' => "\\r"
  | '\t' => "\\t"
  | '\x00' => "\\0"
  | other =>
      if isHidden other then "\\u\x7b" ++ hexDigits other.toNat ++ "\x7d"
      else other.toString

def quoted (text : String) : String :=
  "\"" ++ String.join (text.toList.map escape) ++ "\""

/-- A list of quoted texts between brackets. -/
def quotedList (texts : List String) : String :=
  "[" ++ ", ".intercalate (texts.map quoted) ++ "]"

end ZoneKeeper.Text
