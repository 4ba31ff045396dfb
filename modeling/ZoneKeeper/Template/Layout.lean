import ZoneKeeper.Template.Reader
import ZoneKeeper.Text.Blank

/-!
# The layout of a template

A source is a sequence of texts with tags between them.  A backslash before the braces of a tag
makes the braces part of the text.  Blanks next to a tag are dropped if the tag asks for it; a
block tag or a comment that has a line to itself takes the whole line with it.  What is left is
nested by the block tags.
-/

namespace ZoneKeeper.Template

/-- The text up to the next braces that begin a tag, and the source from these braces on.  One
backslash before braces is dropped: a single one guards the braces, several stay but for one.
Behind the first of several, `areBarsKept` says that the others are kept. -/
def readGap (braces : List Char) : (areBarsKept : Bool) → List Char → List Char × List Char
  | _, [] => ([], [])
  | true, '\\' :: rest =>
      let (gap, rest) := readGap braces true rest
      ('\\' :: gap, rest)
  | _, '\\' :: '\x7b' :: '\x7b' :: '\x7b' :: '\x7b' :: rest =>
      let (gap, rest) := readGap braces false rest
      ('\x7b' :: '\x7b' :: '\x7b' :: '\x7b' :: gap, rest)
  | _, '\\' :: '\x7b' :: '\x7b' :: rest =>
      let (gap, rest) := readGap braces false rest
      ('\x7b' :: '\x7b' :: gap, rest)
  | _, '\\' :: '\\' :: rest =>
      if "\x7b\x7b".toList.isPrefixOf (rest.dropWhile (· = '\\')) then
        let (gap, rest) := readGap braces true rest
        ('\\' :: gap, rest)
      else
        let (gap, rest) := readGap braces false ('\\' :: rest)
        ('\\' :: gap, rest)
  | _, char :: rest =>
      if braces.isPrefixOf (char :: rest) then ([], char :: rest)
      else
        let (gap, rest) := readGap braces false rest
        (char :: gap, rest)

/-- A source: a text, and then tags with a text behind each. -/
structure Source where
  first : List Char
  rest : List (TrimmedTag × List Char)

/-- Splits a source into texts and tags; `limit` bounds the number of tags.  In a verbatim block
only fourfold braces begin a tag. -/
def scan : (limit : Nat) → (isVerbatim : Bool) → List Char → Except TemplateFault Source
  | 0, _, _ => .error .malformedTag
  | limit + 1, isVerbatim, text =>
      let braces := List.replicate (if isVerbatim then 4 else 2) '\x7b'
      let (first, rest) := readGap braces false text
      match rest with
      | [] => .ok ⟨first, []⟩
      | _ =>
          let read := if isVerbatim then readVerbatimEnd else readTag
          match read (rest.drop braces.length) with
          | none => .error .malformedTag
          | some (tag, rest) =>
              if !tag.tag.isReadable then .error .malformedTag
              else
                match scan limit tag.tag.isVerbatim rest with
                | .error fault => .error fault
                | .ok source => .ok ⟨first, (tag, source.first) :: source.rest⟩

/-- What the tags so far ask for: that the next text starts without its blanks, and that it starts
without the rest of the line.  The text of a verbatim block has no blanks at its front. -/
structure Margin where
  dropsBlanks : Bool := false
  dropsLine : Bool := false
  isVerbatim : Bool := false

/-- The text as its margin wants it, and the margin behind it. -/
def Margin.trim (margin : Margin) (text : List Char) : List Char × Margin :=
  let text := if margin.isVerbatim then Json.skipBlanks text else text
  if text.isEmpty then ([], margin)
  else if text.all Json.isBlank && margin.dropsBlanks then ([], margin)
  else
    ( if margin.dropsBlanks then text.dropWhile Text.isBlank
      else if margin.dropsLine then Text.dropEmptyLine text
      else text,
      { margin with dropsLine := false } )

inductive Piece where
  | text (text : String)
  | tag (tag : Tag)

/-- Whether a tag has its line to itself, between a text and the next.  The line ends with the
source if the tag is the last and nothing stands behind it. -/
def standsAlone (isFirst isLast : Bool) (before : List Char) (tag : Tag) (behind : List Char) :
    Bool :=
  tag.isStatement && (Text.startsWithEmptyLine behind || isLast && behind.isEmpty) &&
    (Text.endsWithEmptyLine before || isFirst && before.all Text.isIndent)

/-- The text before a tag, without what the tag takes from it. -/
def trimBefore (tag : TrimmedTag) (alone : Bool) (text : List Char) : List Char :=
  let text := if tag.trimsBefore then Text.dropEndWhile Text.isBlank text else text
  if alone then Text.dropEndWhile Text.isIndent text else text

def textPiece (text : List Char) : List Piece :=
  if text.isEmpty then [] else [.text (String.ofList text)]

def Margin.after (margin : Margin) (tag : TrimmedTag) (alone : Bool) : Margin where
  dropsBlanks := if tag.tag.isComment then margin.dropsBlanks else tag.trimsAfter
  dropsLine := if tag.tag.isStatement then alone else margin.dropsLine
  isVerbatim := tag.tag.isVerbatim

/-- The tag, where an insertion knows how far it is indented and whether it has a line to itself. -/
def indented (tag : TrimmedTag) (alone : Bool) (before : List Char) : Tag :=
  let isAlone := alone && !tag.trimsBefore
  match tag.tag with
  | .insertion place =>
      let indent := (before.reverse.takeWhile Text.isIndent).reverse
      .insertion
        { place with isAlone, indent := if tag.trimsBefore then "" else String.ofList indent }
  | .openInsertion place => .openInsertion { place with isAlone }
  | tag => tag

/-- The texts without the blanks that the tags around them take. -/
def layOut (isFirst : Bool) (margin : Margin) (text : List Char) :
    List (TrimmedTag × List Char) → List Piece
  | [] => textPiece (margin.trim text).1
  | (tag, behind) :: rest =>
      let (kept, margin) := margin.trim text
      let alone := standsAlone isFirst rest.isEmpty text tag.tag behind
      textPiece (trimBefore tag alone kept) ++
        .tag (indented tag alone text) :: layOut false (margin.after tag alone) behind rest

inductive Opening where
  | block (call : Call)
  | decorator (call : Call)
  | insertion (insertion : Insertion)

/-- Whether a name closes a block.  The empty name closes all but the blocks of helpers. -/
def Opening.isClosedBy (closing : Closing) : Opening → Bool
  | .block call => closing.helper = some call.helper
  | .decorator call => closing.helper = some call.helper || closing.helper = some ""
  | .insertion place =>
      closing.template = some place.givenName || closing.template = some (some "")

structure Frame where
  opening : Opening
  /-- Whether the block is the inverse of the one around it, and is closed with it. -/
  isChained : Bool := false
  body : Option (List Element) := none
  /-- What stands before the block, last first. -/
  before : List Element

/-- The elements read so far inside the innermost open block, last first, and the open blocks. -/
structure Nest where
  elements : List Element := []
  frames : List Frame := []

namespace Nest

def put (nest : Nest) (element : Element) : Nest :=
  { nest with elements := element :: nest.elements }

def enter (nest : Nest) (opening : Opening) : Nest :=
  { elements := [], frames := { opening, before := nest.elements } :: nest.frames }

/-- Ends the body of the innermost block and begins its inverse. -/
def invert (nest : Nest) : Except TemplateFault Nest :=
  match nest.frames with
  | frame :: frames =>
      match frame.opening, frame.body with
      | .block _, none =>
          .ok
            { elements := []
              frames := { frame with body := some nest.elements.reverse } :: frames }
      | _, _ => .error .unbalanced
  | [] => .error .unbalanced

/-- The element that a block becomes when it is closed behind some elements. -/
def closed (frame : Frame) (elements : List Element) : Element :=
  match frame.opening with
  | .block call =>
      match frame.body with
      | none => .block call elements.reverse []
      | some body => .block call body elements.reverse
  | .decorator call => .decorator call (some elements.reverse)
  | .insertion place => .insertion place (some elements.reverse)

/-- Closes the innermost block, and with a chained block the one around it. -/
def leave (closing : Closing) (elements : List Element) : List Frame → Except TemplateFault Nest
  | [] => .error .unbalanced
  | frame :: frames =>
      let elements := closed frame elements :: frame.before
      if frame.isChained then leave closing elements frames
      else if frame.opening.isClosedBy closing then .ok ⟨elements, frames⟩
      else .error .unbalanced

def step (nest : Nest) : Piece → Except TemplateFault Nest
  | .text text => .ok (nest.put (.text text))
  | .tag tag =>
      match tag with
      | .output value => .ok (nest.put (.output value))
      | .helper call => .ok (nest.put (.helper call))
      | .comment => .ok nest
      | .openBlock call | .openVerbatim call => .ok (nest.enter (.block call))
      | .elseIf call => do
          let nest ← nest.invert
          .ok
            { elements := []
              frames := { opening := .block call, isChained := true, before := [] } ::
                nest.frames }
      | .otherwise => nest.invert
      | .close closing => leave closing nest.elements nest.frames
      | .decorator call => .ok (nest.put (.decorator call none))
      | .openDecorator call => .ok (nest.enter (.decorator call))
      | .insertion place => .ok (nest.put (.insertion place none))
      | .openInsertion place => .ok (nest.enter (.insertion place))

end Nest

def compile (text : String) : Except TemplateFault Template := do
  let source ← scan (text.toList.length + 1) false text.toList
  let nest ← (layOut true {} source.first source.rest).foldlM Nest.step {}
  if nest.frames.isEmpty then .ok ⟨nest.elements.reverse⟩ else .error .unbalanced

end ZoneKeeper.Template
