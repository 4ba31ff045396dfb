/-!
# Keys of resources

A namespaced object is addressed by the text `namespace/name`; together with its kind this is the
key under which it is queued, remembered and handled.
-/

namespace ZoneKeeper

inductive Kind where
  | zone
  | record
  deriving DecidableEq, Repr, Inhabited

namespace Kind

def name : Kind → String
  | zone => "Zone"
  | record => "Record"

def ofName? : String → Option Kind
  | "Zone" => some zone
  | "Record" => some record
  | _ => none

/-- Zones come before records. -/
def rank : Kind → Nat
  | zone => 0
  | record => 1

/-- The name under which the server lists the objects of this kind. -/
def plural : Kind → String
  | zone => "zones"
  | record => "records"

end Kind

/-- Why no key can be made from an object, or no address from a key. -/
inductive KeyError where
  | malformed (key : String)
  | missingName
  | missingNamespace (name : String)
  deriving DecidableEq, Repr

def KeyError.message : KeyError → String
  | malformed key => s!"invalid resource key '{key}': expected 'namespace/name'"
  | missingName => "object has no metadata.name"
  | missingNamespace name => s!"object '{name}' has no metadata.namespace"

/-- The two halves of a well-formed key. -/
structure Address where
  space : String
  name : String
  deriving DecidableEq, Repr

namespace Address

def text (address : Address) : String :=
  address.space ++ "/" ++ address.name

/-- Splits `namespace/name`.  There has to be exactly one slash, and neither half may be empty. -/
def parse (key : String) : Except KeyError Address :=
  let space := key.toList.takeWhile (· != '/')
  match key.toList.dropWhile (· != '/') with
  | [] => .error (.malformed key)
  | _ :: name =>
      if space.isEmpty || name.isEmpty || name.contains '/' then .error (.malformed key)
      else .ok ⟨String.ofList space, String.ofList name⟩

end Address

/-- What is queued: a text that should be `namespace/name`, and the kind it refers to. -/
structure ResourceKey where
  path : String
  kind : Kind
  deriving DecidableEq, Repr, Inhabited

namespace ResourceKey

def text (key : ResourceKey) : String :=
  key.kind.name ++ " " ++ key.path

def address (key : ResourceKey) : Except KeyError Address :=
  Address.parse key.path

/-- Keys are ordered by their text, and a zone comes before a record with the same text. -/
def precedes (left right : ResourceKey) : Bool :=
  left.path < right.path || left.path = right.path && left.kind.rank ≤ right.kind.rank

end ResourceKey

end ZoneKeeper
