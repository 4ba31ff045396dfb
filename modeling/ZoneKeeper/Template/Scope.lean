import ZoneKeeper.Failure
import ZoneKeeper.Template.Basic

/-!
# Where references lead

A reference is looked up from the blocks around it.  Each block works on a value, may have given
names to values, and tells which item of a collection it is at.  A reference that leads nowhere is
no fault, but an array has no items other than those with a number.
-/

namespace ZoneKeeper.Template

/-- A block around what is expanded. -/
structure Block where
  value : Json
  names : List (String × Json) := []
  /-- What the block tells about the item that it is at. -/
  locals : List (String × Json) := []

/-- The value that a template is expanded with, and the blocks, innermost first. -/
structure Scope where
  root : Json
  block : Block
  around : List Block := []

namespace Scope

def ofRoot (root : Json) : Scope :=
  { root, block := { value := root } }

def enter (scope : Scope) (block : Block) : Scope :=
  { scope with block, around := scope.block :: scope.around }

def blocks (scope : Scope) : List Block :=
  scope.block :: scope.around

/-- What all blocks tell about their items, innermost first. -/
def locals (scope : Scope) : List (String × Json) :=
  scope.blocks.flatMap Block.locals

def entry? (entries : List (String × Json)) (name : String) : Option Json :=
  (entries.find? fun entry => entry.1 = name).map Prod.snd

/-- The value that the innermost block with this name has given to it. -/
def named? (scope : Scope) (name : String) : Option Json :=
  scope.blocks.findSome? fun block => entry? block.names name

/-- The place of an item in an array, as it is written in a reference. -/
def index? (text : String) : Option Nat :=
  let digits := match text.toList with
    | '+' :: digits => digits
    | digits => digits
  let index := digits.foldl (fun index digit => 10 * index + (digit.toNat - '0'.toNat)) 0
  if !digits.isEmpty && digits.all Char.isDigit && index < 0x10000000000000000 then some index
  else none

/-- Goes one field into a value. -/
def field? (value : Json) (name : String) : Except RenderFault (Option Json) :=
  match value with
  | .object _ => .ok (value.field? name)
  | .array items =>
      match index? name with
      | some index => .ok items[index]?
      | none => .error (.noIndex name)
  | _ => .ok none

/-- Goes into a value, field by field. -/
def follow? (value : Json) : List String → Except RenderFault (Option Json)
  | [] => .ok (some value)
  | name :: names => do
      match ← field? value name with
      | some inner => follow? inner names
      | none => .ok none

/-- The value that a reference leads to.  Steps that go too far outwards lead to where they began,
and a name that a block has given is found in spite of them.  What a block tells about its item is
known in the blocks within it. -/
def find? (scope : Scope) (reference : Reference) : Except RenderFault (Option Json) :=
  if reference.fromRoot then follow? scope.root reference.fields
  else if reference.isLocal then
    match reference.fields with
    | [] => .ok (some scope.block.value)
    | name :: _ =>
        .ok ((scope.blocks.drop reference.outwards).findSome? fun block =>
          entry? block.locals name)
  else
    let start := (scope.blocks.getD reference.outwards scope.block).value
    match reference.fields with
    | [] => .ok (some start)
    | name :: names =>
        match scope.named? name with
        | some value => follow? value names
        | none => follow? start (name :: names)

end Scope

end ZoneKeeper.Template
