import ZoneKeeper.Template.Literal

/-!
# Reading tags

A tag stands between double braces.  The readers take a part of a tag off the front of the text;
they fail if there is none.  Blanks are allowed between the parts of a tag, but not within a name
or a reference.
-/

namespace ZoneKeeper.Template

/-- A reader takes a value off the front of the text; it fails if there is none. -/
abbrev Read (α : Type) := List Char → Option (α × List Char)

def readWhile (inside : Char → Bool) : Read String := fun text =>
  if text.head?.any inside then
    some (String.ofList (text.takeWhile inside), text.dropWhile inside)
  else none

def readName : Read String :=
  readWhile isNameChar

/-- A field: a name, or anything between brackets. -/
def readField : Read String
  | '[' :: text =>
      match text.dropWhile (· ≠ ']') with
      | _ :: rest => some (String.ofList (text.takeWhile (· ≠ ']')), rest)
      | [] => none
  | text => readName text

def isSeparator (char : Char) : Bool :=
  char = '/' || char = '.'

/-- Steps outwards at the front of a reference. -/
def readOutwards : Nat → List Char → Nat × List Char
  | 0, text => (0, text)
  | limit + 1, text =>
      match text with
      | '.' :: '.' :: separator :: rest =>
          if isSeparator separator then
            let (count, rest) := readOutwards limit rest
            (count + 1, rest)
          else (0, text)
      | _ => (0, text)

def readFields : Nat → List Char → List String × List Char
  | 0, text => ([], text)
  | limit + 1, text =>
      match text with
      | separator :: rest =>
          if isSeparator separator then
            match readField rest with
            | some (field, rest) =>
                let (fields, rest) := readFields limit rest
                (field :: fields, rest)
            | none => ([], text)
          else ([], text)
      | [] => ([], [])

/-- A word and the separator behind it. -/
def readLead (word : String) (text : List Char) : Option (List Char) :=
  match after? word text with
  | some (separator :: rest) => if isSeparator separator then some rest else none
  | _ => none

/-- The fields of a reference do not count the word `this`. -/
def readReference : Read Reference := fun text => do
  let start := text
  let text := ((readLead "this" text).or (after? "./" text)).getD text
  let (fromRoot, text) := match readLead "@root" text with
    | some rest => (true, rest)
    | none => (false, text)
  let (isLocal, text) := match text with
    | '@' :: rest => (true, rest)
    | _ => (false, text)
  let (outwards, text) := readOutwards text.length text
  let (first, text) ← readField text
  let (others, text) := readFields text.length text
  some
    ({ text := String.ofList (start.take (start.length - text.length))
       isLocal, fromRoot, outwards
       fields := (first :: others).filter (· ≠ "this") }, text)

/-- The words that stand for no value, unless a name follows them. -/
def readsKeyword (text : List Char) : Bool :=
  ["as", "else"].any fun word =>
    (after? word text).any fun rest => !continuesName (Json.skipBlanks rest)

abbrev Argument := Option String × Parameter

/-- The parameters and the options among the arguments of a call. -/
def params (arguments : List Argument) : List Parameter :=
  arguments.filterMap fun argument => if argument.1.isNone then some argument.2 else none

/-- Of two options of one name the later one counts. -/
def options (arguments : List Argument) : List (String × Parameter) :=
  (Table.ofList (arguments.filterMap fun argument =>
    argument.1.map fun name => (name, argument.2))).entries

/-- The name of an option and the equals sign behind it. -/
def readOption : Read String := fun text => do
  let (name, text) ← readName text
  let rest ← after? "=" (Json.skipBlanks text)
  some (name, Json.skipBlanks rest)

mutual

/-- A literal, a reference, or a call between parentheses. -/
def readParameter : Nat → List Char → Option (Parameter × List Char)
  | 0, _ => none
  | limit + 1, text =>
      if readsKeyword text then none
      else
        match skipLiteral (3 * text.length + 3) text with
        | some rest =>
            some (.literal (literalValue (text.take (text.length - rest.length))), rest)
        | none =>
            match readReference text with
            | some (reference, rest) => some (.reference reference, rest)
            | none => readCall limit text

/-- A call between parentheses; the helper may be named by a reference. -/
def readCall : Nat → List Char → Option (Parameter × List Char)
  | 0, _ => none
  | limit + 1, text => do
      let text := Json.skipBlanks (← after? "(" text)
      let called := (readName text).bind fun (helper, rest) =>
        match readArguments limit (Json.skipBlanks rest) with
        | ([], _) => none
        | (arguments, rest) =>
            some (Parameter.call helper (params arguments) (options arguments), rest)
      let (call, rest) ← called.or <| (readReference text).map fun (reference, rest) =>
        (.call reference.text [] [], rest)
      let rest ← after? ")" (Json.skipBlanks rest)
      some (call, rest)

def readArguments : Nat → List Char → List Argument × List Char
  | 0, text => ([], text)
  | limit + 1, text =>
      let read := match readOption text with
        | some (name, rest) =>
            (readParameter limit rest).map fun (value, rest) => ((some name, value), rest)
        | none => (readParameter limit text).map fun (value, rest) => ((none, value), rest)
      match read with
      | some (argument, rest) =>
          let (arguments, rest) := readArguments limit (Json.skipBlanks rest)
          (argument :: arguments, rest)
      | none => ([], text)

end

/-- A bound on the number of parts of a tag. -/
def limitOf (text : List Char) : Nat :=
  3 * text.length + 3

/-- A helper with at least one argument. -/
def readOutputCall : Read Call := fun text => do
  let (helper, rest) ← readName text
  match readArguments (limitOf text) (Json.skipBlanks rest) with
  | ([], _) => none
  | (arguments, rest) =>
      some ({ helper, params := params arguments, options := options arguments }, rest)

/-- A reference, or a call between parentheses. -/
def readTarget : Read Parameter := fun text =>
  match readCall (limitOf text) text with
  | some found => some found
  | none => (readReference text).map fun (reference, rest) => (.reference reference, rest)

/-- The names that a block gives to its values, between bars. -/
def readBindings : Read (List String) := fun text =>
  let bound := do
    let text ← after? "as" text
    let text ← after? "|" (Json.skipBlanks text)
    let (first, text) ← readName (Json.skipBlanks text)
    let text := Json.skipBlanks text
    let (others, text) := match readName text with
      | some (second, rest) => ([second], Json.skipBlanks rest)
      | none => ([], text)
    let text ← after? "|" text
    some (first :: others, Json.skipBlanks text)
  some (bound.getD ([], text))

def readHelper : Read Call := fun text => do
  let (helper, text) ← readName (Json.skipBlanks text)
  let (arguments, text) := readArguments (limitOf text) (Json.skipBlanks text)
  let (names, text) ← readBindings text
  some ({ helper, params := params arguments, options := options arguments, names }, text)

/-- Letters, digits, a few signs and separators, and everything that is not ASCII. -/
def isTemplateNameChar (char : Char) : Bool :=
  char.isAlphanum || char = '-' || char = '_' || isSeparator char || 0x80 ≤ char.toNat

/-- The name of another template, in which there may be points and slashes, or anything at all
between apostrophes. -/
def readTemplateName : Read String := fun text =>
  let bare := readWhile isTemplateNameChar text
  bare.or <|
    match text with
    | '\'' :: rest =>
        (skipInner rest).bind fun behind =>
          let name := text.take (text.length - behind.length)
          if name.length ≤ 2 then none else some (String.ofList name, behind)
    | _ => none
where
  /-- The rest after an apostrophe that has no backslash before it. -/
  skipInner : Skip
    | [] => none
    | '\\' :: '\'' :: rest => skipInner rest
    | '\'' :: rest => some rest
    | _ :: rest => skipInner rest

/-- The name of another template and its arguments. -/
def readInsertion : Read Insertion := fun text => do
  let text := Json.skipBlanks text
  let named := (readTemplateName text).map fun (name, rest) =>
    (Parameter.literal (.string name), rest)
  let (name, text) ← named.or (readTarget text)
  let (arguments, text) := readArguments (limitOf text) (Json.skipBlanks text)
  some ({ name, params := params arguments, options := options arguments }, text)

/-- The end of a tag, with the sign that eats the blanks behind it. -/
def readEnd (braces : String) : Read Bool := fun text =>
  let text := Json.skipBlanks text
  match after? "~" text with
  | some rest => (after? braces (Json.skipBlanks rest)).map fun rest => (true, rest)
  | none => (after? braces text).map fun rest => (false, rest)

/-- Reads up to the end of a tag of some kind. -/
def ended {α : Type} (read : Read α) (braces : String) : Read (α × Bool) := fun text => do
  let (value, rest) ← read text
  let (trims, rest) ← readEnd braces rest
  some ((value, trims), rest)

/-- The sign that eats the blanks before a tag, if it is there, and the blanks behind it. -/
def readSign (text : List Char) : Bool × List Char :=
  let text := Json.skipBlanks text
  match after? "~" text with
  | some rest => (true, Json.skipBlanks rest)
  | none => (false, text)

/-- A tag of some kind up to its double braces. -/
def readPlain {α : Type} (trimsBefore : Bool) (read : Read α) (tag : α → Tag) :
    Read TrimmedTag := fun text =>
  (ended read "\x7d\x7d" text).map fun ((value, trimsAfter), rest) =>
    ({ tag := tag value, trimsBefore, trimsAfter }, rest)

/-- What puts out a value, up to its end. -/
def readOutput (trimsBefore : Bool) : Read TrimmedTag := fun text =>
  (readPlain trimsBefore readOutputCall .helper text).or
    (readPlain trimsBefore readTarget .output text)

/-- What begins the inverse of a block, or the next block of a chain. -/
def readOtherwise (trimsBefore : Bool) : Read TrimmedTag := fun text =>
  (readPlain trimsBefore (fun text => some ((), text)) (fun _ => .otherwise) text).or
    (readPlain trimsBefore readHelper .elseIf text)

/-- The name of a template that closes a block: none is taken of a call, and it may be empty. -/
def readClosingTemplate : Read (Option String) := fun text =>
  match readTemplateName text with
  | some (name, rest) => some (some name, rest)
  | none =>
      match readTarget text with
      | some (.reference reference, rest) => some (some reference.text, rest)
      | some (_, rest) => some (none, rest)
      | none => some (some "", text)

/-- The name of a helper that closes a block, which may be empty. -/
def readClosingHelper : Read String := fun text =>
  (readName text).or (some ("", text))

def readClose (trimsBefore : Bool) : Read TrimmedTag := fun text =>
  let text := Json.skipBlanks text
  let helper := readPlain trimsBefore readClosingHelper
    (fun name => .close { helper := some name }) text
  let template := readPlain trimsBefore readClosingTemplate
    (fun name => .close { template := some name }) text
  match helper, template with
  | some ({ tag := .close asHelper, .. }, _), some ({ tag := .close asTemplate, .. }, _) =>
      helper.map fun (tag, rest) =>
        ({ tag with tag := .close { asHelper with template := asTemplate.template } }, rest)
  | _, _ => helper.or template

/-- What stands between braces within the braces of a tag. -/
def readInner (trimsBefore : Bool) (text : List Char) : Option (TrimmedTag × List Char) :=
  let inner (read : Read Tag) := do
    let (tag, rest) ← read (Json.skipBlanks text)
    let rest ← after? "\x7d" (Json.skipBlanks rest)
    let (trimsAfter, rest) ← readEnd "\x7d\x7d" rest
    some ({ tag, trimsBefore, trimsAfter : TrimmedTag }, rest)
  (inner fun text => (readOutputCall text).map fun (call, rest) => (.helper call, rest)).or
    (inner fun text => (readTarget text).map fun (value, rest) => (.output value, rest))

/-- What stands between threefold braces. -/
def readThreefold (text : List Char) : Option (TrimmedTag × List Char) :=
  let (trimsBefore, text) := readSign text
  let inner (read : Read Tag) := do
    let ((tag, trimsAfter), rest) ← ended read "\x7d\x7d\x7d" text
    some ({ tag, trimsBefore, trimsAfter : TrimmedTag }, rest)
  (inner fun text => (readOutputCall text).map fun (call, rest) => (.helper call, rest)).or
    (inner fun text => (readTarget text).map fun (value, rest) => (.output value, rest))

/-- What opens a block, behind the number sign. -/
def readOpening (trimsBefore : Bool) (text : List Char) : Option (TrimmedTag × List Char) :=
  match Json.skipBlanks text with
  | '*' :: text => readPlain trimsBefore readHelper .openDecorator text
  | '>' :: text => readPlain trimsBefore readInsertion .openInsertion text
  | text => readPlain trimsBefore readHelper .openBlock text

/-- The tag without its opening braces and the sign that eats the blanks before it. -/
def readBody (trimsBefore : Bool) : Read TrimmedTag
  | '#' :: text => readOpening trimsBefore text
  | '/' :: text => readClose trimsBefore text
  | '^' :: text => readOtherwise trimsBefore text
  | '*' :: text => readPlain trimsBefore readHelper .decorator text
  | '>' :: text => readPlain trimsBefore readInsertion .insertion text
  | '&' :: text => readPlain trimsBefore readTarget .output (Json.skipBlanks text)
  | '\x7b' :: text => readInner trimsBefore text
  | text =>
      ((after? "else" text).bind (readOtherwise trimsBefore)).or (readOutput trimsBefore text)

/-- The text behind the first of the given braces. -/
def skipThrough (braces : List Char) : Skip
  | [] => none
  | char :: rest =>
      if braces.isPrefixOf (char :: rest) then some ((char :: rest).drop braces.length)
      else skipThrough braces rest

/-- A comment goes on to the first closing braces, or to those behind two hyphens if it starts with
two hyphens and there are such. -/
def skipComment : Skip := fun text =>
  let long := (after? "--" (Json.skipBlanks text)).bind (skipThrough "--\x7d\x7d".toList)
  long.or (skipThrough "\x7d\x7d".toList text)

/-- The opening of a block between fourfold braces. -/
def readVerbatim : Read TrimmedTag := fun text =>
  let (trimsBefore, text) := readSign text
  (ended readHelper "\x7d\x7d\x7d\x7d" text).map fun ((call, trimsAfter), rest) =>
    ({ tag := .openVerbatim call, trimsBefore, trimsAfter }, rest)

/-- The end of a block between fourfold braces. -/
def readVerbatimEnd : Read TrimmedTag := fun text => do
  let (trimsBefore, text) := readSign text
  let text ← after? "/" text
  let ((name, trimsAfter), text) ← ended readName "\x7d\x7d\x7d\x7d" (Json.skipBlanks text)
  some ({ tag := .close { helper := some name }, trimsBefore, trimsAfter }, text)

/-- A tag without its two opening braces. -/
def readTag : Read TrimmedTag := fun text =>
  match text with
  | '!' :: rest => (skipComment rest).map fun rest => ({ tag := .comment }, rest)
  | '\x7b' :: '\x7b' :: rest => readVerbatim rest
  | '\x7b' :: rest => (readThreefold rest).or (readInner false rest)
  | _ =>
      let (trimsBefore, text) := readSign text
      readBody trimsBefore text

end ZoneKeeper.Template
