import ZoneKeeper.Json.Nesting
import ZoneKeeper.Json.Equality

/-!
# Templates

A template is a sequence of texts and tags.  A tag puts out a value, calls a helper, defines or
inserts another template, or opens a block whose body or inverse is put out in its place.
-/

namespace ZoneKeeper

/-- A path to a value: some steps outwards, and then the names of fields. -/
structure Reference where
  text : String
  isLocal : Bool := false
  fromRoot : Bool := false
  outwards : Nat := 0
  fields : List String := []
  deriving DecidableEq, Repr, Inhabited

inductive Parameter where
  | literal (value : Json)
  | reference (reference : Reference)
  | call (helper : String) (params : List Parameter) (options : List (String × Parameter))
  deriving Repr, Inhabited

namespace Parameter

/-- The arrays and objects that may be nested in a literal. -/
def literalLevels : Nat := 127

mutual

/-- Whether all literals can be read. -/
def isReadable : Parameter → Bool
  | .literal value => value.fits literalLevels
  | .reference _ => true
  | .call _ params options => areReadable params && optionsAreReadable options

def areReadable : List Parameter → Bool
  | [] => true
  | parameter :: parameters => parameter.isReadable && areReadable parameters

def optionsAreReadable : List (String × Parameter) → Bool
  | [] => true
  | (_, parameter) :: options => parameter.isReadable && optionsAreReadable options

end

end Parameter

/-- A helper with what it is given; a block may give names to the values it works on. -/
structure Call where
  helper : String
  params : List Parameter := []
  options : List (String × Parameter) := []
  names : List String := []
  deriving Repr, Inhabited

def Call.isReadable (call : Call) : Bool :=
  Parameter.areReadable call.params && Parameter.optionsAreReadable call.options

/-- A place for another template, with the value that it is expanded with. -/
structure Insertion where
  name : Parameter
  params : List Parameter := []
  options : List (String × Parameter) := []
  /-- The blanks that stand right before the insertion. -/
  indent : String := ""
  /-- Whether the insertion takes the line that it stands on, blanks and all. -/
  isAlone : Bool := false
  deriving Repr, Inhabited

def Insertion.isReadable (insertion : Insertion) : Bool :=
  insertion.name.isReadable && Parameter.areReadable insertion.params &&
    Parameter.optionsAreReadable insertion.options

/-- The name of the template that is to be inserted, unless a call makes it. -/
def Insertion.givenName (place : Insertion) : Option String :=
  match place.name with
  | .literal (.string name) => some name
  | .reference reference => some reference.text
  | _ => none

/-- The name with which a block is closed, as the name of a helper and as that of a template, if it
may be one.  A template may also be closed by a call, which is no name; a name may be empty. -/
structure Closing where
  helper : Option String := none
  template : Option (Option String) := none
  deriving Repr, Inhabited

/-- What stands between the braces of a tag. -/
inductive Tag where
  /-- Puts out a value, or what the helper of this name makes of nothing. -/
  | output (value : Parameter)
  /-- Puts out what a helper makes of its parameters. -/
  | helper (call : Call)
  | comment
  | openBlock (call : Call)
  /-- Opens a block whose body is text up to the next fourfold braces. -/
  | openVerbatim (call : Call)
  | elseIf (call : Call)
  | otherwise
  | close (closing : Closing)
  | decorator (call : Call)
  | openDecorator (call : Call)
  | insertion (insertion : Insertion)
  | openInsertion (insertion : Insertion)
  deriving Repr, Inhabited

namespace Tag

/-- Whether the tag may have a line to itself. -/
def isStatement : Tag → Bool
  | .output _ | .helper _ => false
  | _ => true

def isComment : Tag → Bool
  | .comment => true
  | _ => false

def isVerbatim : Tag → Bool
  | .openVerbatim _ => true
  | _ => false

/-- Whether all literals in the tag can be read. -/
def isReadable : Tag → Bool
  | .output value => value.isReadable
  | .helper call | .openBlock call | .openVerbatim call | .elseIf call | .decorator call
  | .openDecorator call => call.isReadable
  | .insertion place | .openInsertion place => place.isReadable
  | .comment | .otherwise | .close _ => true

end Tag

/-- A tag together with the signs that eat the blanks before or after it. -/
structure TrimmedTag where
  tag : Tag
  trimsBefore : Bool := false
  trimsAfter : Bool := false
  deriving Repr, Inhabited

inductive Element where
  | text (text : String)
  | output (value : Parameter)
  | helper (call : Call)
  | block (call : Call) (body inverse : List Element)
  /-- A call that changes what is put out after it; the body may be missing. -/
  | decorator (call : Call) (body : Option (List Element))
  /-- Another template, or the body if there is no such template. -/
  | insertion (insertion : Insertion) (body : Option (List Element))
  deriving Repr, Inhabited

structure Template where
  elements : List Element

inductive TemplateFault where
  /-- A tag is not closed or not well formed. -/
  | malformedTag
  /-- A block is closed by another name, or not at all, or was never opened. -/
  | unbalanced
  deriving DecidableEq, Repr

def TemplateFault.message : TemplateFault → String
  | malformedTag => "a tag is not well formed"
  | unbalanced => "the blocks are not balanced"

end ZoneKeeper
