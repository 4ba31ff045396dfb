import ZoneKeeper.Json.Reader
import ZoneKeeper.Table
import ZoneKeeper.Template.Basic

/-!
# Literals in tags

A literal is a value in JSON, or a text between apostrophes.  First it is found where it ends; what
is found need not be a value yet, as a number may start with zeros and an escape may name half a
character.
-/

namespace ZoneKeeper.Template

/-- Takes something off the front of a text and leaves the rest; it fails if it is not there. -/
abbrev Skip := List Char → Option (List Char)

/-- The rest of the text after a given beginning. -/
def after? (beginning : String) : Skip := fun text =>
  if beginning.toList.isPrefixOf text then some (text.drop beginning.length) else none

/-- Letters, digits and a few signs, and everything that is not ASCII. -/
def isNameChar (char : Char) : Bool :=
  char.isAlphanum || char = '-' || char = '_' || char = '$' || char = ':' || 0x80 ≤ char.toNat

def continuesName (text : List Char) : Bool :=
  text.head?.any isNameChar

/-- The rest after a closing quote.  An escape is one of JSON's, or of the quote. -/
def skipQuoted (quote : Char) : Skip
  | [] => none
  | '\\' :: 'u' :: a :: b :: c :: d :: rest =>
      if [a, b, c, d].all fun digit => (Json.hexDigit? digit).isSome then skipQuoted quote rest
      else none
  | '\\' :: mark :: rest =>
      if mark = quote || ['\\', '/', 'b', 'f', 'n', 'r', 't'].contains mark then
        skipQuoted quote rest
      else none
  | char :: rest =>
      if char = '\\' then none else if char = quote then some rest else skipQuoted quote rest

/-- Digits, perhaps with a point in or behind them, and an exponent with a capital letter. -/
def skipNumber : Skip := fun text =>
  let unsigned := (after? "-" text).getD text
  if unsigned.head?.any Char.isDigit then
    let rest := unsigned.dropWhile Char.isDigit
    let rest := ((after? "." rest).map fun rest => rest.dropWhile Char.isDigit).getD rest
    let exponent := (after? "E" rest).map fun rest => (after? "-" rest).getD rest
    let rest := match exponent with
      | some digits => if digits.head?.any Char.isDigit then digits.dropWhile Char.isDigit else rest
      | none => rest
    if continuesName rest then none else some rest
  else none

/-- A word that does not go on as a name. -/
def skipWord (word : String) : Skip := fun text =>
  (after? word text).filter fun rest => !continuesName rest

mutual

def skipLiteral : Nat → Skip
  | 0, _ => none
  | limit + 1, text =>
      match text with
      | '"' :: rest => skipQuoted '"' rest
      | '\'' :: rest => skipQuoted '\'' rest
      | '[' :: rest =>
          let rest := Json.skipBlanks rest
          let rest := ((skipLiteral limit rest).map Json.skipBlanks).getD rest
          after? "]" (skipItems limit rest)
      | '\x7b' :: rest =>
          let rest := Json.skipBlanks rest
          let rest := ((skipField limit rest).map Json.skipBlanks).getD rest
          after? "\x7d" (skipFields limit rest)
      | text => (skipNumber text).or <| (skipWord "null" text).or <|
          (skipWord "true" text).or (skipWord "false" text)

/-- As many literals as there are with a comma before each, and the blanks behind them. -/
def skipItems : Nat → List Char → List Char
  | 0, text => text
  | limit + 1, text =>
      match (after? "," text).bind fun rest => skipLiteral limit (Json.skipBlanks rest) with
      | some rest => skipItems limit (Json.skipBlanks rest)
      | none => text

/-- A name between quotes, a colon and a literal. -/
def skipField : Nat → Skip
  | 0, _ => none
  | limit + 1, text =>
      let name := match text with
        | '"' :: rest => skipQuoted '"' rest
        | '\'' :: rest => skipQuoted '\'' rest
        | _ => none
      match name.bind fun rest => after? ":" (Json.skipBlanks rest) with
      | some rest => skipLiteral limit (Json.skipBlanks rest)
      | none => none

def skipFields : Nat → List Char → List Char
  | 0, text => text
  | limit + 1, text =>
      match (after? "," text).bind fun rest => skipField limit (Json.skipBlanks rest) with
      | some rest => skipFields limit (Json.skipBlanks rest)
      | none => text

end

/-- The inside of a text between apostrophes as it would stand between quotes. -/
def requote : List Char → List Char
  | [] => []
  | '\\' :: '\'' :: rest => '\'' :: requote rest
  | '"' :: rest => '\\' :: '"' :: requote rest
  | char :: rest => char :: requote rest

mutual

/-- The value with the fields of every object in the order of their names, each name once. -/
def canonical : Json → Json
  | .array items => .array (canonicalItems items)
  | .object fields =>
      let table := Table.ofList (canonicalFields fields)
      .object (table.entries.mergeSort fun left right => left.1 ≤ right.1)
  | value => value

def canonicalItems : List Json → List Json
  | [] => []
  | item :: items => canonical item :: canonicalItems items

def canonicalFields : List (String × Json) → List (String × Json)
  | [] => []
  | (name, value) :: fields => (name, canonical value) :: canonicalFields fields

end

/-- The value of a literal as it is written; not every literal has one. -/
def literalValue (text : List Char) : Json :=
  let text := match text with
    | '\'' :: rest => '"' :: requote rest.dropLast ++ ['"']
    | text => text
  ((Json.parse? (String.ofList text)).map canonical).getD .unreadable

end ZoneKeeper.Template
