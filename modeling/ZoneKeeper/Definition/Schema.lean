import ZoneKeeper.Definition.Yaml
import ZoneKeeper.Manifest

/-!
# Definitions of the kinds

Before the server keeps objects of a kind it has to be given a definition of it: its names, and a
schema that manifests have to follow.
-/

namespace ZoneKeeper

def apiGroup : String := "corezone.io"

def apiVersion : String := "v1"

namespace Kind

def singular : Kind → String
  | zone => "zone"
  | record => "record"

def description : Kind → String
  | zone =>
      "Zone declares a DNS zone that the controller renders into a CoreDNS zone file. " ++
        "When several Zones in a namespace declare the same zoneName, the oldest one wins."
  | record => "Record declares a DNS record belonging to the zone named by zoneName."

def exampleName : Kind → String
  | zone => "example-com"
  | record => "www-example-com"

def explanation : Kind → List String
  | zone =>
      [ "`Zone` declares a DNS zone served by CoreDNS.",
        "",
        "Several `Zone` objects in one namespace may declare the same `zoneName`. Only one of",
        "them, the oldest, is materialized; the others are superseded." ]
  | record =>
      [ "`Record` declares a DNS record inside a zone.",
        "",
        "The association with a zone is advisory: records are watched and tracked, but no",
        "file-system state is produced for them yet." ]

def sample (kind : Kind) : List String :=
  [ "# Example",
    "",
    "```yaml",
    "apiVersion: " ++ apiGroupVersion,
    "kind: " ++ kind.name,
    "metadata:",
    "  name: " ++ kind.exampleName,
    "  namespace: dns-system",
    "spec:",
    "  zoneName: example.com",
    "```" ]

/-- A label of a zone name: up to 63 letters, digits and hyphens, with no hyphen at its ends. -/
def labelPattern : String :=
  "[a-zA-Z0-9]([a-zA-Z0-9-]\x7b0,61\x7d[a-zA-Z0-9])?"

/-- What the zone name has to look like. -/
def zoneNamePattern : String :=
  "^(" ++ labelPattern ++ "\\.)*" ++ labelPattern ++ "$"

def zoneNameSchema : Kind → List (String × Yaml)
  | zone =>
      [ ("description", .text "DNS zone name as seen by clients (e.g., \"example.com\")."),
        ("pattern", .text zoneNamePattern),
        ("type", .text "string") ]
  | record =>
      [ ("description",
          .text "Name of the zone this record belongs to (e.g., \"example.com\")."),
        ("type", .text "string") ]

def specSchema (kind : Kind) : List (String × Yaml) :=
  [ ("description", .lines (kind.explanation ++ [""] ++ kind.sample)),
    ("properties", .map [("zoneName", .map kind.zoneNameSchema)]),
    ("required", .list [.text "zoneName"]),
    ("type", .text "object") ]

def schema (kind : Kind) : List (String × Yaml) :=
  [ ("description", .text kind.description),
    ("properties", .map [("spec", .map kind.specSchema)]),
    ("required", .list [.text "spec"]),
    ("title", .text kind.name),
    ("type", .text "object") ]

def versionDefinition (kind : Kind) : List (String × Yaml) :=
  [ ("additionalPrinterColumns", .list []),
    ("name", .text apiVersion),
    ("schema", .map [("openAPIV3Schema", .map kind.schema)]),
    ("served", .text "true"),
    ("storage", .text "true"),
    ("subresources", .map []) ]

def definition (kind : Kind) : List (String × Yaml) :=
  [ ("apiVersion", .text "apiextensions.k8s.io/v1"),
    ("kind", .text "CustomResourceDefinition"),
    ("metadata", .map [("name", .text (kind.plural ++ "." ++ apiGroup))]),
    ("spec", .map
      [ ("group", .text apiGroup),
        ("names", .map
          [ ("categories", .list []),
            ("kind", .text kind.name),
            ("plural", .text kind.plural),
            ("shortNames", .list []),
            ("singular", .text kind.singular) ]),
        ("scope", .text "Namespaced"),
        ("versions", .list [.map kind.versionDefinition]) ]) ]

end Kind

end ZoneKeeper
