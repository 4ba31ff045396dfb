/-!
# YAML documents

Documents made of texts, lists and maps, written in block style.  A text is written as it is, so it
has to be one that needs no quotes.
-/

namespace ZoneKeeper

inductive Yaml where
  | text (value : String)
  | lines (values : List String)
  | list (items : List Yaml)
  | map (fields : List (String × Yaml))
  deriving Repr, Inhabited

namespace Yaml

/-- A line two columns further to the right; an empty line stays empty. -/
def indent (line : String) : String :=
  if line = "" then "" else "  " ++ line

/-- What stands behind the name of a field or the dash of an item, and the lines below it. -/
structure Layout where
  behind : String
  below : List String := []

/-- The lines of an item of a list: what would stand below the dash begins behind it. -/
def itemLines (layout : Layout) : List String :=
  match layout.behind, layout.below with
  | "", first :: rest => ("- " ++ first) :: rest.map indent
  | behind, below => ("- " ++ behind) :: below.map indent

/-- The lines of a field of a map. -/
def fieldLines (name : String) (layout : Layout) (isList : Bool) : List String :=
  let head := if layout.behind = "" then name ++ ":" else name ++ ": " ++ layout.behind
  head :: if isList then layout.below else layout.below.map indent

def isList : Yaml → Bool
  | list _ => true
  | _ => false

mutual

def layout : Yaml → Layout
  | text value => ⟨value, []⟩
  | lines values => ⟨"|-", values⟩
  | list [] => ⟨"[]", []⟩
  | list (item :: items) => ⟨"", listLines (item :: items)⟩
  | map [] => ⟨"\x7b\x7d", []⟩
  | map (field :: fields) => ⟨"", mapLines (field :: fields)⟩

def listLines : List Yaml → List String
  | [] => []
  | item :: items => itemLines item.layout ++ listLines items

/-- The lines of a map; a list begins in the column of its name, anything else further right. -/
def mapLines : List (String × Yaml) → List String
  | [] => []
  | (name, value) :: fields => fieldLines name value.layout value.isList ++ mapLines fields

end

def document (fields : List (String × Yaml)) : String :=
  String.join ((mapLines fields).map fun line => line ++ "\n")

end Yaml

end ZoneKeeper
