import ZoneKeeper.Json.Number

/-!
# Reading JSON

The grammar of RFC 8259 on a list of characters.  Every reader takes a value off the front of the
text.  The number of nested values that it may enter is bounded by the length of the text, so the
bound is never met.  What is well-formed but names no value is read as such.
-/

namespace ZoneKeeper.Json

def isBlank (char : Char) : Bool :=
  char = ' ' || char = '\t' || char = '\n' || char = '\r'

def skipBlanks (text : List Char) : List Char :=
  text.dropWhile isBlank

def hexDigit? (char : Char) : Option Nat :=
  if '0' ≤ char && char ≤ '9' then some (char.toNat - '0'.toNat)
  else if 'a' ≤ char && char ≤ 'f' then some (char.toNat - 'a'.toNat + 10)
  else if 'A' ≤ char && char ≤ 'F' then some (char.toNat - 'A'.toNat + 10)
  else none

/-- Four hexadecimal digits: one UTF-16 unit. -/
def readUnit : Read Nat
  | a :: b :: c :: d :: rest => do
      let a ← hexDigit? a
      let b ← hexDigit? b
      let c ← hexDigit? c
      let d ← hexDigit? d
      some (((a * 16 + b) * 16 + c) * 16 + d, rest)
  | _ => none

/-- What stands after `\u`: a unit, or both units of a surrogate pair.  A surrogate that is not part
of a pair is no character. -/
def readUnicode : Read (Option Char) := fun text => do
  let (unit, rest) ← readUnit text
  let isHigh := 0xD800 ≤ unit && unit ≤ 0xDBFF
  let isLow (unit : Nat) : Bool := 0xDC00 ≤ unit && unit ≤ 0xDFFF
  if !isHigh && !isLow unit then some (some (Char.ofNat unit), rest)
  else
    let low := match rest with
      | '\\' :: 'u' :: rest => readUnit rest
      | _ => none
    match isHigh, low with
    | true, some (low, behind) =>
        if isLow low then
          some (some (Char.ofNat (0x10000 + (unit - 0xD800) * 0x400 + (low - 0xDC00))), behind)
        else some (none, rest)
    | _, _ => some (none, rest)

def plainEscape? : Char → Option Char
  | '"' => some '"'
  | '\\' => some '\\'
  | '/' => some '/'
  | 'b' => some '\x08'
  | 'f' => some '\x0c'
  | 'n' => some '\n'
  | 'r' => some '\r'
  | 't' => some '\t'
  | _ => none

/-- The rest of a string after its opening quote; `limit` bounds the number of characters, and the
characters read so far are last first. -/
def readChars : Nat → List (Option Char) → Read (Option String)
  | 0, _, _ => none
  | limit + 1, read, text =>
      match text with
      | [] => none
      | '"' :: rest => some ((read.reverse.mapM id).map String.ofList, rest)
      | '\\' :: 'u' :: rest => do
          let (char, rest) ← readUnicode rest
          readChars limit (char :: read) rest
      | '\\' :: mark :: rest => do
          let char ← plainEscape? mark
          readChars limit (some char :: read) rest
      | char :: rest =>
          if char.toNat < 0x20 || char = '\\' then none
          else readChars limit (some char :: read) rest

/-- A string; half a surrogate pair in it makes it no text. -/
def readString : Read (Option String)
  | '"' :: rest => readChars (rest.length + 1) [] rest
  | _ => none

private def literal (word : String) (value : Json) (text : List Char) :
    Option (Json × List Char) :=
  if word.toList.isPrefixOf text then some (value, text.drop word.length) else none

/-- An object whose names can all be read. -/
def ofNamed? (fields : List (Option String × Json)) : Option Json :=
  (fields.mapM fun (field : Option String × Json) =>
    field.1.map fun name => (name, field.2)).map .object

mutual

def readValue : Nat → List Char → Option (Json × List Char)
  | 0, _ => none
  | limit + 1, text =>
      match skipBlanks text with
      | 'n' :: rest => literal "null" .null ('n' :: rest)
      | 't' :: rest => literal "true" (.bool true) ('t' :: rest)
      | 'f' :: rest => literal "false" (.bool false) ('f' :: rest)
      | '"' :: rest => (readString ('"' :: rest)).map fun (value, rest) =>
          (value.elim .unreadable .string, rest)
      | '[' :: rest =>
          match skipBlanks rest with
          | ']' :: rest => some (.array [], rest)
          | rest => (readItems limit [] rest).map fun (items, rest) => (.array items, rest)
      | '\x7b' :: rest =>
          match skipBlanks rest with
          | '\x7d' :: rest => some (.object [], rest)
          | rest => (readFields limit [] rest).map fun (fields, rest) =>
              ((ofNamed? fields).getD .unreadable, rest)
      | text => readNumber text

/-- The items of an array that has at least one, and its closing bracket. -/
def readItems : Nat → List Json → List Char → Option (List Json × List Char)
  | 0, _, _ => none
  | limit + 1, read, text => do
      let (item, rest) ← readValue limit text
      match skipBlanks rest with
      | ',' :: rest => readItems limit (item :: read) rest
      | ']' :: rest => some ((item :: read).reverse, rest)
      | _ => none

/-- The fields of an object that has at least one, and its closing brace. -/
def readFields : Nat → List (Option String × Json) → List Char →
    Option (List (Option String × Json) × List Char)
  | 0, _, _ => none
  | limit + 1, read, text => do
      let (name, rest) ← readString (skipBlanks text)
      match skipBlanks rest with
      | ':' :: rest =>
          let (value, rest) ← readValue limit rest
          match skipBlanks rest with
          | ',' :: rest => readFields limit ((name, value) :: read) rest
          | '\x7d' :: rest => some (((name, value) :: read).reverse, rest)
          | _ => none
      | _ => none

end

def readPrefix (text : List Char) : Option (Json × List Char) :=
  readValue (2 * text.length + 1) text

def parse? (text : String) : Option Json := do
  let (value, rest) ← readPrefix text.toList
  if (skipBlanks rest).isEmpty then some value else none

end ZoneKeeper.Json
