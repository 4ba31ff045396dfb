/-!
# What a terminal shows

A terminal takes some characters of a text as commands.  An escape character begins a command, which
goes on to a character that ends it; controls outside of commands show nothing.  White space shows
even within a command, and breaks it off, unless the command carries a text.  The text of a command
is a sequence of bytes, and most of them end with a byte that may also be a part of a character.
-/

namespace ZoneKeeper.Text

/-- What a terminal takes the next character for. -/
inductive Screen where
  | shown
  /-- The kind of a command. -/
  | kind
  /-- The last character of a short command, perhaps behind some signs. -/
  | ending
  /-- The parameters of a command. -/
  | parameters
  /-- The text of a command that a bell ends. -/
  | title
  /-- The text of a command that a terminating byte ends. -/
  | string
  /-- The front of a command to a device, before its text. -/
  | device
  /-- The parameters of a command to a device. -/
  | deviceParameters
  /-- The signs behind the parameters of a command to a device. -/
  | deviceSigns
  deriving DecidableEq, Repr

namespace Screen

/-- White space of ASCII, other than the vertical tab. -/
def isSpacing (char : Char) : Bool :=
  [' ', '\t', '\n', '\x0c', '\r'].contains char

def isControl (char : Char) : Bool :=
  char.toNat < 0x20 || char.toNat = 0x7F

/-- What a character behind an escape character begins. -/
def ofKind (char : Char) : Screen :=
  if char = '[' then parameters
  else if char = ']' then title
  else if char = 'P' then device
  else if ['X', '^', '_'].contains char then string
  else if ' ' ≤ char && char ≤ '/' then ending
  else if '0' ≤ char && char ≤ '~' then shown
  else kind

/-- The byte that ends the text of a command. -/
def terminator : UInt8 := 0x9C

/-- Whether a byte of a character ends the text of a command. -/
def isTerminating (char : Char) : Bool :=
  (String.utf8EncodeChar char).contains terminator

/-- What a character within the parameters of a command to a device is taken for. -/
def ofParameter (char : Char) : Screen :=
  if char.isDigit || char = ';' then deviceParameters
  else if ' ' ≤ char && char ≤ '/' then deviceSigns
  else if ':' ≤ char && char ≤ '~' then string
  else deviceParameters

/-- What the next character is taken for. -/
def next (screen : Screen) (char : Char) : Screen :=
  if char = '\x1b' then kind
  else if char = '\x18' || char = '\x1a' then shown
  else
    match screen with
    | shown => shown
    | kind => if isControl char then kind else ofKind char
    | ending => if '0' ≤ char && char ≤ '~' then shown else ending
    | parameters => if '@' ≤ char && char ≤ '~' then shown else parameters
    | title => if char = '\x07' then shown else title
    | string => if isTerminating char then shown else string
    | device =>
        if '<' ≤ char && char ≤ '?' then deviceParameters
        else if isControl char || 0x80 ≤ char.toNat then device
        else ofParameter char
    | deviceParameters => ofParameter char
    | deviceSigns => if '0' ≤ char && char ≤ '~' then string else deviceSigns

/-- Whether a control within a command has its effect all the same. -/
def obeysControls : Screen → Bool
  | title | string | device | deviceParameters | deviceSigns => false
  | _ => true

/-- What shows of a text. -/
def showing (screen : Screen) : List Char → List Char
  | [] => []
  | char :: text =>
      if screen = shown && !isControl char then char :: showing shown text
      else if isControl char && isSpacing char && screen.obeysControls then
        char :: showing shown text
      else showing (screen.next char) text

end Screen

def shownText (text : String) : String :=
  String.ofList (Screen.shown.showing text.toList)

end ZoneKeeper.Text
