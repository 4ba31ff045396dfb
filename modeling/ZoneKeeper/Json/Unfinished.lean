import ZoneKeeper.Json.Reader

/-!
# Texts that end too early

A text that is not a value may be the front of one.  What can be told of the value then are the
parts that are complete, and whether the last part is an array or an object.
-/

namespace ZoneKeeper.Json

/-- What is known of a value whose text ends too early. -/
inductive Unfinished where
  /-- No value has begun, or one that has no parts. -/
  | unknown
  /-- An array with the items that are complete, and the one that is not, behind a comma. -/
  | array (items : List Json) (last : Option Unfinished)
  /-- An object with the fields that are complete, and the one that is not, once it has a name. -/
  | object (fields : List (String × Json)) (last : Option (String × Unfinished))
  deriving Repr, Inhabited

namespace Unfinished

/-- Whether a text ends within a string, the opening quote of which is passed. -/
def isInString : List Char → Bool
  | [] => true
  | '"' :: _ => false
  | ['\\'] => true
  | '\\' :: 'u' :: a :: b :: c :: d :: rest =>
      if [a, b, c, d].all fun digit => (hexDigit? digit).isSome then isInString rest
      else String.utf8ByteSize (String.ofList (a :: b :: c :: d :: rest)) < 4
  | '\\' :: 'u' :: rest => String.utf8ByteSize (String.ofList rest) < 4
  | '\\' :: mark :: rest => (plainEscape? mark).isSome && isInString rest
  | char :: rest => 0x20 ≤ char.toNat && isInString rest

/-- Whether a text is the front of a word, but not the word. -/
def isFrontOf (word : String) (text : List Char) : Bool :=
  text.isPrefixOf word.toList && text.length < word.length

/-- Whether a text ends within a number, where at least a digit is missing. -/
def isInNumber (text : List Char) : Bool :=
  let unsigned := match text with
    | '-' :: rest => rest
    | rest => rest
  match readWhole unsigned with
  | none => unsigned.isEmpty && !text.isEmpty
  | some (_, ['.']) => true
  | some (_, rest) =>
      match readFraction rest with
      | some (_, mark :: rest) =>
          (mark = 'e' || mark = 'E') && [[], ['+'], ['-']].contains rest
      | _ => false

mutual

/-- What is known of a value, if the text is only the front of one. -/
def ofValue? : Nat → List Char → Option Unfinished
  | 0, _ => none
  | limit + 1, text =>
      match skipBlanks text with
      | [] => some .unknown
      | '"' :: rest => if isInString rest then some .unknown else none
      | '[' :: rest => ofItems? limit [] rest
      | '\x7b' :: rest => ofFields? limit [] rest
      | text =>
          if isInNumber text || ["null", "true", "false"].any (isFrontOf · text) then some .unknown
          else none

def ofItems? : Nat → List Json → List Char → Option Unfinished
  | 0, _, _ => none
  | limit + 1, read, text =>
      match readPrefix text with
      | none => (ofValue? limit text).map fun last => .array read.reverse (some last)
      | some (item, rest) =>
          match skipBlanks rest with
          | [] => some (.array (item :: read).reverse none)
          | ',' :: rest => ofItems? limit (item :: read) rest
          | _ => none

def ofFields? : Nat → List (String × Json) → List Char → Option Unfinished
  | 0, _, _ => none
  | limit + 1, read, text =>
      let known := read.reverse
      match skipBlanks text with
      | [] => some (.object known none)
      | '"' :: rest =>
          match readString ('"' :: rest) with
          | none => if isInString rest then some (.object known none) else none
          | some (none, _) => none
          | some (some name, rest) =>
              match skipBlanks rest with
              | [] => some (.object known (some (name, .unknown)))
              | ':' :: rest =>
                  match readPrefix rest with
                  | none => (ofValue? limit rest).map fun last =>
                      .object known (some (name, last))
                  | some (value, rest) =>
                      match skipBlanks rest with
                      | [] => some (.object ((name, value) :: read).reverse none)
                      | ',' :: rest => ofFields? limit ((name, value) :: read) rest
                      | _ => none
              | _ => none
      | _ => none

end

/-- What is known of the value of a text that ends too early; any other text is not like that. -/
def ofText? (text : String) : Option Unfinished :=
  ofValue? (2 * text.length + 1) text.toList

end Unfinished

end ZoneKeeper.Json
