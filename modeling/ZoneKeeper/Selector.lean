import ZoneKeeper.Manifest

/-!
# Label selectors

A selector is a conjunction of wanted labels and of requirements on single labels.  A requirement
whose operator is not known holds of nothing, so a misspelt operator cannot widen a selection.
-/

namespace ZoneKeeper

abbrev Labels := Table String String

structure Requirement where
  key : String
  operator : String
  values : Option (List String) := none
  deriving DecidableEq, Repr

namespace Requirement

def admits (requirement : Requirement) (labels : Labels) : Bool :=
  let values := requirement.values.getD []
  match requirement.operator with
  | "In" => (labels.get? requirement.key).any values.contains
  | "NotIn" => (labels.get? requirement.key).all fun value => !values.contains value
  | "Exists" => labels.contains requirement.key
  | "DoesNotExist" => !labels.contains requirement.key
  | _ => false

def ofJson? (value : Json) : Option Requirement := do
  let [key, operator, values] ← value.struct? ["key", "operator", "values"] | none
  let key ← key.bind Json.string?
  let operator ← operator.bind Json.string?
  let values ← match values with
    | none | some .null => some none
    | some values => values.stringList?.map some
  some { key, operator, values }

def toJson (requirement : Requirement) : Json :=
  .ofFields
    [ ("key", some (.string requirement.key)),
      ("operator", some (.string requirement.operator)),
      ("values", requirement.values.map .strings) ]

end Requirement

structure Selector where
  wanted : Option Labels := none
  requirements : Option (List Requirement) := none
  deriving DecidableEq, Repr

namespace Selector

def all : Selector := {}

def admits (selector : Selector) (labels : Labels) : Bool :=
  (selector.wanted.all fun wanted =>
    wanted.entries.all fun (key, value) => labels.get? key = some value) &&
  selector.requirements.all fun requirements =>
    requirements.all fun requirement => requirement.admits labels

def isEmpty (selector : Selector) : Bool :=
  selector.wanted.all Table.isEmpty && selector.requirements.all List.isEmpty

@[simp]
theorem admits_all (labels : Labels) : all.admits labels = true :=
  rfl

def ofJson? (value : Json) : Option Selector := do
  let [wanted, requirements] ← value.struct? ["matchLabels", "matchExpressions"] | none
  let wanted ← match wanted with
    | none | some .null => some none
    | some wanted => wanted.stringTable?.map some
  let requirements ← match requirements with
    | none | some .null => some none
    | some (.array items) => (items.mapM Requirement.ofJson?).map some
    | some _ => none
  some { wanted, requirements }

def toJson (selector : Selector) : Json :=
  .ofFields
    [ ("matchLabels", selector.wanted.map .ofTable),
      ("matchExpressions", selector.requirements.map fun requirements =>
        .array (requirements.map Requirement.toJson)) ]

end Selector

end ZoneKeeper
