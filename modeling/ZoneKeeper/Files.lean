import ZoneKeeper.Failure
import ZoneKeeper.Table

/-!
# Files

A tree of directories and files with the operations of a file system.  A place is the list of names
that leads to it from the root; a path is a text, which is resolved to a place by walking through
the directories that it names.  An operation that fails changes nothing, except that making a
directory with its parents keeps the parents that it made.
-/

namespace ZoneKeeper

/-- The parts of a text between the separators. -/
def splitAt (separator : Char) : List Char → List (List Char)
  | [] => [[]]
  | char :: text =>
      if char = separator then [] :: splitAt separator text
      else
        match splitAt separator text with
        | part :: parts => (char :: part) :: parts
        | [] => [[char]]

theorem splitAt_ne_nil (separator : Char) (text : List Char) : splitAt separator text ≠ [] := by
  induction text with
  | nil => simp [splitAt]
  | cons char text ih =>
      rw [splitAt]
      split
      · simp
      · split <;> simp

/-- A text without the separator is a single part. -/
theorem splitAt_of_not_mem {separator : Char} {text : List Char} (absent : separator ∉ text) :
    splitAt separator text = [text] := by
  induction text with
  | nil => rfl
  | cons char text ih =>
      simp only [List.mem_cons, not_or] at absent
      rw [splitAt, if_neg (Ne.symm absent.1), ih absent.2]

/-- A separator divides the parts of what stands before it from the parts of what follows. -/
theorem splitAt_append (separator : Char) (first second : List Char) :
    splitAt separator (first ++ separator :: second) =
      splitAt separator first ++ splitAt separator second := by
  induction first with
  | nil => simp [splitAt]
  | cons char first ih =>
      simp only [List.cons_append, splitAt, ih]
      split
      · simp
      · cases parts : splitAt separator first with
        | nil => exact absurd parts (splitAt_ne_nil separator first)
        | cons part rest => simp

namespace Path

/-- The names on a path.  Empty names and the name of the directory itself do not count. -/
def names (path : String) : List String :=
  ((splitAt '/' path.toList).map String.ofList).filter fun name => name ≠ "" && name ≠ "."

def isAbsolute (path : String) : Bool :=
  path.toList.head? = some '/'

/-- Whether a path ends with the name of the directory itself. -/
def endsInPlace (path : String) : Bool :=
  (((splitAt '/' path.toList).filter fun name => !name.isEmpty).getLast?).any (· = ['.'])

/-- Whether a path can only lead to a directory. -/
def namesDirectory (path : String) : Bool :=
  ((splitAt '/' path.toList).getLast?.map String.ofList).any fun name => name = "" || name = "."

def join (directory path : String) : String :=
  if isAbsolute path || directory.isEmpty then path
  else if directory.toList.getLast? = some '/' then directory ++ path
  else directory ++ "/" ++ path

end Path

/-- The names that lead to a node from the root. -/
abbrev Place := List String

inductive Node where
  | file (content : ByteArray)
  | directory

instance : DecidableEq Node
  | .file first, .file second =>
      match ByteArray.instDecidableEq first second with
      | isTrue same => isTrue (congrArg Node.file same)
      | isFalse different => isFalse fun same => different (Node.file.inj same)
  | .file _, .directory => isFalse nofun
  | .directory, .file _ => isFalse nofun
  | .directory, .directory => isTrue rfl

/-- The nodes below the root, and the directory from which relative paths start. -/
structure Files where
  nodes : Table Place Node := {}
  current : Place := []

namespace Files

def node? (files : Files) (place : Place) : Option Node :=
  if place.isEmpty then some .directory else files.nodes.get? place

def set (files : Files) (place : Place) (node : Node) : Files :=
  { files with nodes := files.nodes.insert place node }

def remove (files : Files) (place : Place) : Files :=
  { files with nodes := files.nodes.erase place }

def isDirectory (files : Files) (place : Place) : Bool :=
  files.node? place = some .directory

/-- No name may be longer than this many bytes. -/
def longestName : Nat := 255

/-- Walks from a directory through the named directories; the last name need not be there. -/
def walk (files : Files) (directory : Place) : List String → Except FileError Place
  | [] => .ok directory
  | name :: names =>
      if name = ".." then walk files directory.dropLast names
      else if longestName < name.utf8ByteSize then .error .nameTooLong
      else
        let place := directory ++ [name]
        if names.isEmpty then .ok place
        else
          match files.node? place with
          | none => .error .notFound
          | some (.file _) => .error .notDirectory
          | some .directory => walk files place names

/-- No path may be longer than this many bytes. -/
def longestPath : Nat := 4095

def resolve (files : Files) (path : String) : Except FileError Place :=
  if path.toList.contains '\x00' then .error .nulByte
  else if path.isEmpty then .error .notFound
  else if longestPath < path.utf8ByteSize then .error .nameTooLong
  else walk files (if Path.isAbsolute path then [] else files.current) (Path.names path)

def read (files : Files) (path : String) : Except FileError ByteArray := do
  let place ← files.resolve path
  match files.node? place with
  | some (.file content) =>
      if Path.namesDirectory path then .error .notDirectory else .ok content
  | some .directory => .error .isDirectory
  | none => .error .notFound

def write (files : Files) (path : String) (content : ByteArray) : Except FileError Files := do
  let place ← files.resolve path
  if files.isDirectory place then .error .isDirectory else .ok (files.set place (.file content))

def rename (files : Files) (source target : String) : Except FileError Files := do
  let source ← files.resolve source
  let target ← files.resolve target
  match files.node? source with
  | none => .error .notFound
  | some .directory => .error .isDirectory
  | some (.file content) =>
      if files.isDirectory target then .error .isDirectory
      else .ok ((files.remove source).set target (.file content))

def removeFile (files : Files) (path : String) : Except FileError Files := do
  let place ← files.resolve path
  match files.node? place with
  | none => .error .notFound
  | some .directory => .error .isDirectory
  | some (.file _) => .ok (files.remove place)

def makeDirectory (files : Files) (from_ : Place) (names : List String) :
    Except FileError Files := do
  let place ← files.walk from_ names
  match files.node? place with
  | some _ => .error .alreadyExists
  | none => .ok (files.set place .directory)

/-- Makes a directory and, where they are missing, those that it lies in; the names are given last
first.  A directory that is there already is no failure. -/
def makeTree (files : Files) (from_ : Place) : List String → Except FileError Unit × Files
  | [] => (.ok (), files)
  | name :: parents =>
      let names := (name :: parents).reverse
      let settle (files : Files) (error : FileError) : Except FileError Unit × Files :=
        match files.walk from_ names with
        | .ok place => (if files.isDirectory place then .ok () else .error error, files)
        | .error _ => (.error error, files)
      match files.makeDirectory from_ names with
      | .ok made => (.ok (), made)
      | .error .notFound =>
          match makeTree files from_ parents with
          | (.error error, files) => (.error error, files)
          | (.ok (), files) =>
              match files.makeDirectory from_ names with
              | .ok made => (.ok (), made)
              | .error error => settle files error
      | .error error => settle files error

/-- Looks for a directory; if it is missing, the directories that it lies in are made, but not the
directory. -/
def findDirectory (files : Files) (from_ : Place) (names : List String) :
    Except FileError Unit × Files :=
  let found (files : Files) := (files.walk from_ (names ++ ["."])).map fun _ => ()
  match found files with
  | .error .notFound =>
      match files.makeTree from_ names.dropLast.reverse with
      | (.error error, files) => (.error error, files)
      | (.ok (), files) => (found files, files)
  | result => (result, files)

/-- Makes a directory and those that it lies in.  A path that ends with the name of the directory
itself asks for a directory that is there. -/
def makeDirectories (files : Files) (path : String) : Except FileError Unit × Files :=
  let from_ := if Path.isAbsolute path then [] else files.current
  let names := Path.names path
  if path.toList.contains '\x00' then (.error .nulByte, files)
  else if longestPath < path.utf8ByteSize then (.error .nameTooLong, files)
  else if Path.endsInPlace path then files.findDirectory from_ names
  else files.makeTree from_ names.reverse

/-- The nodes below a directory, with the names that lead to them from there. -/
def below (files : Files) (directory : Place) : List (Place × Node) :=
  files.nodes.entries.filterMap fun (place, node) =>
    if directory.isPrefixOf place && directory.length < place.length then
      some (place.drop directory.length, node)
    else none

/-- Removes a node and whatever lies below it. -/
def removeAll (files : Files) (place : Place) : Files :=
  (files.nodes.keys.filter place.isPrefixOf).foldl remove files

end Files

end ZoneKeeper
