/-!
# Targets of requests

A target tells what is asked of a server: a path, and a query behind a question mark.  It may also
name the server, with a scheme before it, or consist of a server alone.
-/

namespace ZoneKeeper

structure Target where
  path : List Char
  query : List Char
  deriving DecidableEq, Repr

namespace Target

/-- Whether a character may stand both in a path and in a query. -/
def isPlain (char : Char) : Bool :=
  char = '!' || '$' ≤ char && char ≤ ';' || char = '=' || '@' ≤ char && char ≤ '_' ||
    'a' ≤ char && char ≤ 'z' || char = '|' || char = '~' || 0x80 ≤ char.toNat

def mayStandInPath (char : Char) : Bool :=
  isPlain char || char = '"' || char = '\x7b' || char = '\x7d'

def mayStandInQuery (char : Char) : Bool :=
  isPlain char || '?' ≤ char && char ≤ '~'

/-- Splits a target without a server; what stands behind a number sign is not part of it. -/
def ofPath? (text : List Char) : Option Target :=
  let sent := text.takeWhile (· ≠ '#')
  let path := sent.takeWhile (· ≠ '?')
  let query := (sent.dropWhile (· ≠ '?')).drop 1
  if path.all mayStandInPath && query.all mayStandInQuery then some ⟨path, query⟩ else none

/-- The value of the first parameter of a name, as it is written. -/
def parameter? (target : Target) (name : String) : Option (List Char) :=
  let start := (name ++ "=").toList
  ((target.query.splitOnP (· = '&')).find? start.isPrefixOf).map fun text =>
    text.drop start.length

/-- What is known of the name of a server that has been read up to some character. -/
structure Reading where
  /-- The colons behind the last sign that a colon belongs to. -/
  colons : Nat := 0
  isOpened : Bool := false
  isClosed : Bool := false
  /-- Whether there is a percent sign that only a user or an address may have. -/
  hasPercent : Bool := false
  endsAfterUser : Bool := false

/-- No name of a server has more colons than this in one of its parts. -/
def mostColons : Nat := 8

def mayStandInServer (char : Char) : Bool :=
  char.isAlphanum || "!$&'()*+,-.;=_~".toList.contains char

def Reading.next? (reading : Reading) (char : Char) : Option Reading :=
  let reading := { reading with endsAfterUser := false }
  match char with
  | ':' =>
      if reading.colons < mostColons then some { reading with colons := reading.colons + 1 }
      else none
  | '[' =>
      if reading.hasPercent || reading.isOpened then none
      else some { reading with isOpened := true }
  | ']' =>
      if !reading.isOpened || reading.isClosed then none
      else some { reading with isClosed := true, colons := 0, hasPercent := false }
  | '@' => some { reading with colons := 0, hasPercent := false, endsAfterUser := true }
  | '%' => some { reading with hasPercent := true }
  | char => if mayStandInServer char then some reading else none

/-- Whether a text names a server, perhaps with a user before it and a number behind it. -/
def isServer (text : List Char) : Bool :=
  (text.foldlM Reading.next? {}).any fun reading =>
    reading.isOpened = reading.isClosed && reading.colons ≤ 1 && !reading.hasPercent &&
      !reading.endsAfterUser

/-- No scheme is longer than this. -/
def longestScheme : Nat := 64

def mayStandInScheme (char : Char) : Bool :=
  char.isAlphanum || "+-.~".toList.contains char

/-- What stands behind a scheme. -/
inductive Scheme where
  | absent
  | tooLong
  | before (rest : List Char)

def Scheme.ofText (text : List Char) : Scheme :=
  let name := text.takeWhile mayStandInScheme
  match text.drop name.length with
  | ':' :: '/' :: '/' :: rest =>
      if longestScheme < name.length then .tooLong
      else if name.isEmpty && rest.isEmpty then .absent
      else .before rest
  | _ => .absent

/-- No target is longer than this many bytes. -/
def longest : Nat := 65534

/-- Reads a target of any form. -/
def ofText? (text : String) : Option Target :=
  let chars := text.toList
  let endsServer (char : Char) : Bool := char = '/' || char = '?' || char = '#'
  if longest < text.utf8ByteSize then none
  else if chars.head? = some '/' then ofPath? chars
  else if chars.isEmpty then none
  else if chars = ['*'] then some ⟨chars, []⟩
  else
    match Scheme.ofText chars with
    | .tooLong => none
    | .absent => if isServer chars then some ⟨[], []⟩ else none
    | .before rest =>
        let server := rest.takeWhile fun char => !endsServer char
        if server.isEmpty || !isServer server then none
        else
          (ofPath? (rest.drop server.length)).map fun target =>
            if target.path.isEmpty then { target with path := ['/'] } else target

end Target

end ZoneKeeper
