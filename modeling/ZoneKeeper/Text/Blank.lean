/-!
# Blanks

The characters that Unicode counts as white space, the removal of blanks at the ends of a text, and
the indentation of its lines.
-/

namespace ZoneKeeper.Text

/-- Ranges of code points with the property `White_Space`. -/
def blankRanges : List (Nat × Nat) :=
  [ (0x09, 0x0D), (0x20, 0x20), (0x85, 0x85), (0xA0, 0xA0), (0x1680, 0x1680), (0x2000, 0x200A),
    (0x2028, 0x2029), (0x202F, 0x202F), (0x205F, 0x205F), (0x3000, 0x3000) ]

def isBlank (char : Char) : Bool :=
  blankRanges.any fun (first, last) => first ≤ char.toNat && char.toNat ≤ last

/-- A blank that does not end a line. -/
def isIndent (char : Char) : Bool :=
  char = ' ' || char = '\t'

def isLineEnd (char : Char) : Bool :=
  char = '\n' || char = '\r'

def dropEndWhile (drops : Char → Bool) (text : List Char) : List Char :=
  (text.reverse.dropWhile drops).reverse

def startsWithEmptyLine (text : List Char) : Bool :=
  (text.dropWhile isIndent).head?.any isLineEnd

def endsWithEmptyLine (text : List Char) : Bool :=
  (dropEndWhile isIndent text).getLast?.any isLineEnd

/-- The text with an indentation behind every line end but one at the end of the text. -/
def indentLines (indent : List Char) : List Char → List Char
  | [] => []
  | ['\n'] => ['\n']
  | '\n' :: rest => '\n' :: indent ++ indentLines indent rest
  | char :: rest => char :: indentLines indent rest

/-- The text without indentation and one line end at its front. -/
def dropEmptyLine (text : List Char) : List Char :=
  match text.dropWhile isIndent with
  | '\r' :: '\n' :: rest => rest
  | '\n' :: rest => rest
  | rest => rest

end ZoneKeeper.Text
