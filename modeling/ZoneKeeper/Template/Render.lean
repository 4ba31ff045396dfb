import ZoneKeeper.Template.Helper
import ZoneKeeper.Template.Layout
import ZoneKeeper.Template.Scope

/-!
# Expanding templates

A template is expanded with a single value, which it refers to as `this`.  Nothing is escaped, and
a reference that leads nowhere is expanded to nothing.  A helper that is not known, or that lacks a
parameter, ends the expansion.  A template may define further templates and insert them, and these
may insert others; how many are inserted into one another is bounded.
-/

namespace ZoneKeeper.Template

mutual

/-- The value of a parameter, where a reference is never the name of a helper. -/
def evaluate (scope : Scope) : Parameter → Except RenderFault Json
  | .literal value => .ok value
  | .reference reference => (scope.find? reference).map fun found => found.getD .null
  | .call helper params options => do
      let values ← evaluateAll scope params
      let options ← evaluateOptions scope options
      callHelper helper values options

def evaluateAll (scope : Scope) : List Parameter → Except RenderFault (List Json)
  | [] => .ok []
  | parameter :: parameters => do
      let value ← evaluate scope parameter
      let values ← evaluateAll scope parameters
      .ok (value :: values)

def evaluateOptions (scope : Scope) : List (String × Parameter) → Except RenderFault Options
  | [] => .ok []
  | (name, parameter) :: options => do
      let value ← evaluate scope parameter
      let options ← evaluateOptions scope options
      .ok ((name, value) :: options)

end

/-- What a tag puts out: a value, unless the tag names a helper. -/
def outputOf (scope : Scope) (value : Parameter) : Except RenderFault String :=
  match value with
  | .reference reference =>
      if isHelper reference.text then (callHelper reference.text [] []).map display
      else (evaluate scope value).map display
  | _ => do
      let text := display (← evaluate scope value)
      if isHelper text then (callHelper text [] []).map display else .ok text

def helperOutput (scope : Scope) (call : Call) : Except RenderFault String := do
  let values ← evaluateAll scope call.params
  let options ← evaluateOptions scope call.options
  (callHelper call.helper values options).map display

inductive Choice where
  /-- The body, once in each of the scopes. -/
  | body (scopes : List Scope)
  | inverse
  | text (text : String)

/-- The block for a single value, which takes one name or none. -/
def valueBlock (names : List String) (value : Json) : Block where
  value
  names := match names with
    | [name] => [(name, value)]
    | _ => []

/-- The block for one item of a collection; `position` tells which item it is. -/
def itemBlock (names : List String) (count index : Nat) (position : String × Json)
    (value : Json) : Block where
  value
  names := match names with
    | [name] => [(name, value)]
    | name :: other :: _ => [(name, value), (other, position.2)]
    | [] => []
  locals :=
    [ ("first", .bool (index = 0)), ("last", .bool (index + 1 = count)),
      ("index", .nat index), position ]

/-- The scopes for the items of a collection; a value of another kind has none. -/
def itemScopes (scope : Scope) (names : List String) : Json → List Scope
  | .array items => items.mapIdx fun index item =>
      scope.enter (itemBlock names items.length index ("index", .nat index) item)
  | .object fields => fields.mapIdx fun index (key, item) =>
      scope.enter (itemBlock names fields.length index ("key", .string key) item)
  | _ => []

/-- What the helper of a block chooses. -/
def choose (scope : Scope) (call : Call) : Except RenderFault Choice := do
  let values ← evaluateAll scope call.params
  let options ← evaluateOptions scope call.options
  let includesZero := option? options "includeZero" == some (.bool true)
  let bodyIf (holds : Bool) : Choice := if holds then .body [scope] else .inverse
  match call.helper with
  | "if" => (oneOf "if" values).map fun value => bodyIf (isTruthy includesZero value)
  | "unless" => (oneOf "unless" values).map fun value => bodyIf !(isTruthy includesZero value)
  | "with" => (oneOf "with" values).map fun value =>
      if isTruthy false value then .body [scope.enter (valueBlock call.names value)] else .inverse
  | "each" => (oneOf "each" values).map fun value =>
      match itemScopes scope call.names value with
      | [] => .inverse
      | scopes => .body scopes
  | "raw" => .ok (.body [scope])
  | helper =>
      if questions.contains helper then (answer helper values).map bodyIf
      else (callHelper helper values options).map fun value => .text (display value)

/-- How far a template has been expanded. -/
structure Progress where
  /-- The templates that have been defined, by their names. -/
  defined : Table String (List Element) := default
  /-- Whether the template itself is being expanded, and not a block of it or another template. -/
  isWhole : Bool := true
  /-- Whether what was put out last ends a line. -/
  endsLine : Bool := false
  /-- Whether what is put out next starts with the indentation. -/
  startsLine : Bool := false

/-- What is put out depends on what has been expanded before. -/
abbrev Expansion := StateT Progress (Except RenderFault)

/-- What stays the same until another template is inserted. -/
structure Surroundings where
  /-- The elements of the template itself. -/
  whole : List Element
  scope : Scope
  indent : String := ""
  /-- The bodies of the insertions around, innermost first. -/
  bodies : List (List Element) := []
  /-- How many of these bodies are being expanded themselves. -/
  depth : Nat := 0

namespace Surroundings

/-- Puts out a text with the indentation of the lines that it begins. -/
def put (around : Surroundings) (text : String) : Expansion String := fun progress =>
  if text = "" then .ok ("", progress)
  else
    let chars := text.toList
    let ends := chars.getLast?.any Text.isLineEnd
    let indent := around.indent.toList
    let front := if progress.startsLine && !chars.head?.any Text.isLineEnd then indent else []
    let indented := String.ofList (front ++ Text.indentLines indent chars)
    .ok (if around.indent = "" then text else indented,
      { progress with endsLine := ends, startsLine := ends })

end Surroundings

/-- Defines a template, which is all that a decorator can do. -/
def define (scope : Scope) (call : Call) (body : Option (List Element)) : Expansion Unit := do
  let values ← evaluateAll scope call.params
  let _ ← evaluateOptions scope call.options
  if call.helper ≠ "inline" then throw (.unknownDecorator call.helper)
  else
    match values, body with
    | .string name :: _, some elements => modify fun progress =>
        { progress with defined := progress.defined.insert name elements }
    | .string _ :: _, none => throw (.missingBody call.helper)
    | _, _ => throw (.missingParameter call.helper)

/-- Defines the templates of a body, without those in blocks within it. -/
def defineAll (scope : Scope) (body : List Element) : Expansion Unit :=
  body.forM fun element =>
    match element with
    | .decorator call body => define scope call body
    | _ => pure ()

/-- The name of the template itself, which must not be inserted into it. -/
def ownName : String := "coredns.tmpl"

/-- The name under which the body of the insertion around can be inserted. -/
def bodyName : String := "@partial-block"

/-- The name of the template that is to be inserted. -/
def insertedName (scope : Scope) (place : Insertion) : Except RenderFault String :=
  match place.name with
  | .reference reference => .ok reference.text
  | name => (evaluate scope name).map display

/-- The template of a name, or else the body of its insertion. -/
def inserted? (around : Surroundings) (progress : Progress) (name : String)
    (body : Option (List Element)) : Option (List Element) :=
  let found := if name = bodyName then around.bodies[around.depth]? else progress.defined.get? name
  (found.or (if name = ownName then some around.whole else none)).or body

/-- The scope in which a template is expanded.  It works on its parameter, or else on what is worked
on around it, and the options become fields of that value.  The blocks around are not known in it,
but what they tell about their items is. -/
def insertedScope (scope : Scope) (values : List Json) (options : Options) : Scope :=
  let value := values.headD scope.block.value
  let value := if options.isEmpty then value
    else canonical (.object (value.object?.getD [] ++ options))
  { scope with block := { value, locals := scope.locals }, around := [] }

/-- The surroundings within a template that is inserted. -/
def insertedSurroundings (around : Surroundings) (place : Insertion) (name : String)
    (body : Option (List Element)) (scope : Scope) : Surroundings where
  whole := around.whole
  scope
  indent := around.indent ++ place.indent
  bodies := body.toList ++ around.bodies
  depth := if name = bodyName then around.depth + 1 else around.depth - 1

/-- Inserts a template.  What it defines stays known behind it, and what it puts out starts with the
indentation if the insertion has a line to itself. -/
def insert (expand : Surroundings → List Element → Expansion String) (around : Surroundings)
    (place : Insertion) (body : Option (List Element)) : Expansion String := do
  let name ← insertedName around.scope place
  let values ← evaluateAll around.scope place.params
  let options ← evaluateOptions around.scope place.options
  defineAll around.scope (body.getD [])
  let before ← get
  if before.isWhole && name = ownName then throw (.unknownPartial name)
  else
    match inserted? around before name body with
    | none => throw (.unknownPartial name)
    | some elements =>
        let within := insertedSurroundings around place name body
          (insertedScope around.scope values options)
        let startsLine := place.isAlone && (before.endsLine || place.indent ≠ "")
        let isWhole := name = ownName && !before.defined.contains name
        set { before with startsLine, isWhole }
        let text ← expand within elements
        modify fun progress =>
          { before with
            defined := progress.defined
            endsLine := progress.endsLine
            startsLine := if text = "" then before.startsLine else progress.endsLine }
        pure text

mutual

/-- The text that an element puts out, where `expand` expands the templates that are inserted. -/
def renderElement (expand : Surroundings → List Element → Expansion String)
    (around : Surroundings) : Element → Expansion String
  | .text text => around.put text
  | .output value => do around.put (← outputOf around.scope value)
  | .helper call => do around.put (← helperOutput around.scope call)
  | .block call body inverse => do
      match ← choose around.scope call with
      | .body scopes => do
          modify fun progress => { progress with isWhole := false }
          let texts ← scopes.mapM fun scope => renderElements expand { around with scope } body
          pure (String.join texts)
      | .inverse => do
          modify fun progress => { progress with isWhole := progress.isWhole && inverse.isEmpty }
          renderElements expand around inverse
      | .text text => around.put text
  | .decorator call body => do
      define around.scope call body
      pure ""
  | .insertion place body => insert expand around place body

def renderElements (expand : Surroundings → List Element → Expansion String)
    (around : Surroundings) : List Element → Expansion String
  | [] => pure ""
  | element :: elements => do
      let first ← renderElement expand around element
      let rest ← renderElements expand around elements
      pure (first ++ rest)

end

/-- The most templates that are inserted into one another. -/
def deepest : Nat := 1000

/-- The text that elements put out, with so many templates inserted into one another. -/
def renderWithin : Nat → Surroundings → List Element → Expansion String
  | 0, _, _ => throw .endless
  | limit + 1, around, elements => renderElements (renderWithin limit) around elements

/-- The template expanded with a text. -/
def expand (template : Template) (value : String) : Except RenderFault String :=
  let around :=
    { whole := template.elements, scope := .ofRoot (.string value) : Surroundings }
  (renderWithin deepest around template.elements).run' {}

end ZoneKeeper.Template
