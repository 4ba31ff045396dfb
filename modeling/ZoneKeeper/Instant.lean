import ZoneKeeper.Calendar

/-!
# Instants

Points in time with nanosecond precision, and their text.  Read is a date, a time of day and an
offset from UTC, in the extended or the basic ISO 8601 layout; annotations in brackets after the
offset do not move the instant.  Written is UTC with whole seconds, rounded towards the past.
-/

namespace ZoneKeeper

/-- Nanoseconds since the start of 1970 in UTC. -/
structure Instant where
  nanoseconds : Int
  deriving DecidableEq, Repr, Inhabited

namespace Instant

def perSecond : Int := 1000000000

/-- The earliest and the latest second that an instant may lie in. -/
def earliestSecond : Int := -377705023201
def latestSecond : Int := 253402207200

/-- A reader takes a value off the front of the text, or fails. -/
abbrev Reader (α : Type) := List Char → Option (α × List Char)

private def digit? (char : Char) : Option Nat :=
  if char.isDigit then some (char.toNat - '0'.toNat) else none

/-- Exactly `count` decimal digits. -/
def readDigits (count : Nat) : Reader Nat := fun text =>
  let digits := (text.take count).filterMap digit?
  if digits.length = count then
    some (digits.foldl (fun value digit => value * 10 + digit) 0, text.drop count)
  else none

/-- Two digits, at most `limit`. -/
def readPair (limit : Nat) : Reader Nat := fun text => do
  let (value, rest) ← readDigits 2 text
  if value ≤ limit then some (value, rest) else none

/-- Four digits, or a sign and six digits; there is no negative year zero. -/
def readYear : Reader Int
  | '+' :: text => (readDigits 6 text).map fun (year, rest) => ((year : Int), rest)
  | '-' :: text => do
      let (year, rest) ← readDigits 6 text
      if year = 0 then none else some (-(year : Int), rest)
  | text => (readDigits 4 text).map fun (year, rest) => ((year : Int), rest)

/-- In the extended layout the separator has to be there, in the basic one it may not. -/
def readSeparator (separator : Char) (extended : Bool) : Reader Unit
  | char :: rest =>
      if char = separator then if extended then some ((), rest) else none
      else if extended then none else some ((), char :: rest)
  | [] => if extended then none else some ((), [])

def readDate : Reader Date := fun text => do
  let (year, text) ← readYear text
  let extended := text.head? = some '-'
  let ((), text) ← readSeparator '-' extended text
  let (month, text) ← readDigits 2 text
  let ((), text) ← readSeparator '-' extended text
  let (day, text) ← readDigits 2 text
  let date ← Date.ofParts? year month day
  some (date, text)

/-- Whether a further pair of digits follows, and the text from that pair on. -/
def nextPart (extended : Bool) (text : List Char) : Option (List Char) :=
  match text with
  | ':' :: rest => if extended then some rest else none
  | char :: _ => if !extended && char.isDigit then some text else none
  | [] => none

/-- A point or a comma and one to nine digits, as nanoseconds. -/
def readFraction : Reader Nat := fun text =>
  match text with
  | mark :: rest =>
      if mark = '.' || mark = ',' then
        let digits := ((rest.takeWhile Char.isDigit).take 9).filterMap digit?
        if digits.isEmpty then none
        else
          let padded := digits ++ List.replicate (9 - digits.length) 0
          some (padded.foldl (fun value digit => value * 10 + digit) 0, rest.drop digits.length)
      else some (0, text)
  | [] => some (0, [])

/-- A time of day, as nanoseconds since midnight.  Minutes and seconds may be left out, and the
leap second 60 is read as 59. -/
def readTime : Reader Nat := fun text => do
  let (hour, text) ← readPair 23 text
  let extended := text.head? = some ':'
  let whole (seconds : Nat) := seconds * 1000000000
  match nextPart extended text with
  | none => some (whole (hour * 3600), text)
  | some text =>
      let (minute, text) ← readPair 59 text
      match nextPart extended text with
      | none => some (whole (hour * 3600 + minute * 60), text)
      | some text =>
          let (second, text) ← readPair 60 text
          let (fraction, text) ← readFraction text
          some (whole (hour * 3600 + minute * 60 + min second 59) + fraction, text)

/-- An offset's hours, minutes and seconds in seconds, without its sign.  A fraction of a second
rounds to the nearest second. -/
def readOffsetParts (seconds : Bool) : Reader Nat := fun text => do
  let (hours, text) ← readPair 25 text
  let extended := text.head? = some ':'
  match nextPart extended text with
  | none => some (hours * 3600, text)
  | some text =>
      let (minutes, text) ← readPair 59 text
      match nextPart extended text with
      | none => some (hours * 3600 + minutes * 60, text)
      | some text =>
          if !seconds then none
          else
            let (second, text) ← readPair 59 text
            let (fraction, text) ← readFraction text
            let total := hours * 3600 + minutes * 60 + second
            let total := if fraction ≥ 500000000 then total + 1 else total
            if total ≤ 93599 then some (total, text) else none

/-- `Z` or a signed offset, in seconds. -/
def readOffset : Reader Int
  | 'Z' :: rest => some (0, rest)
  | 'z' :: rest => some (0, rest)
  | '+' :: rest => (readOffsetParts true rest).map fun (seconds, rest) => ((seconds : Int), rest)
  | '-' :: rest => (readOffsetParts true rest).map fun (seconds, rest) => (-(seconds : Int), rest)
  | _ => none

/-- One component of the name of a time zone. -/
def skipZonePart : List Char → Option (List Char)
  | [] => none
  | char :: rest =>
      if char.isAlpha || char = '_' || char = '.' then
        some (rest.dropWhile fun char =>
          char.isAlphanum || char = '_' || char = '.' || char = '+' || char = '-')
      else none

/-- The further components of a time zone's name, and the closing bracket. -/
def skipZoneTail : Nat → List Char → Option (List Char)
  | _, ']' :: rest => some rest
  | limit + 1, '/' :: rest => (skipZonePart rest).bind (skipZoneTail limit)
  | _, _ => none

/-- The values of a keyed annotation, joined by hyphens, and the closing bracket. -/
def skipValues : Nat → List Char → Option (List Char)
  | 0, _ => none
  | limit + 1, text =>
      let rest := text.dropWhile Char.isAlphanum
      if rest.length = text.length then none
      else
        match rest with
        | ']' :: rest => some rest
        | '-' :: rest => skipValues limit rest
        | _ => none

def skipKeyed : List Char → Option (List Char)
  | [] => none
  | char :: rest =>
      if char.isLower || char = '_' then
        match rest.dropWhile fun char =>
            char.isLower || char.isDigit || char = '_' || char = '-' with
        | '=' :: values => skipValues values.length values
        | _ => none
      else none

/-- Keyed annotations up to the end of the text. -/
def onlyKeyed : Nat → List Char → Bool
  | _, [] => true
  | limit + 1, '[' :: rest => ((skipKeyed rest).map (onlyKeyed limit)).getD false
  | _, _ => false

/-- Whether the text is a sequence of annotations: perhaps a time zone, then keyed ones, none of
which is marked critical. -/
def areAnnotations (text : List Char) : Bool :=
  match text with
  | [] => true
  | '[' :: inner =>
      let (critical, body) :=
        match inner with
        | '!' :: body => (true, body)
        | body => (false, body)
      match body with
      | '+' :: offset => zoneOffset offset
      | '-' :: offset => zoneOffset offset
      | _ =>
          match skipZonePart body with
          | some ('=' :: _) => !critical && onlyKeyed text.length text
          | some rest => ((skipZoneTail rest.length rest).map (onlyKeyed text.length)).getD false
          | none => false
  | _ => false
where
  zoneOffset (offset : List Char) : Bool :=
    match readOffsetParts false offset with
    | some (_, ']' :: rest) => onlyKeyed rest.length rest
    | _ => false

/-- Reads a date, a `T` or a blank, a time of day, an offset and perhaps annotations. -/
def parse? (text : String) : Option Instant := do
  let (date, rest) ← readDate text.toList
  match rest with
  | mark :: rest =>
      if mark = 'T' || mark = 't' || mark = ' ' then
        let (time, rest) ← readTime rest
        let (offset, rest) ← readOffset rest
        if areAnnotations rest then
          let second := date.dayNumber * 86400 + (time / 1000000000 : Nat) - offset
          if earliestSecond ≤ second && second ≤ latestSecond then
            some ⟨second * perSecond + (time % 1000000000 : Nat)⟩
          else none
        else none
      else none
  | [] => none

/-- The decimal digits of a number, with zeros in front up to `width` digits. -/
def padded (width : Nat) (value : Nat) : String :=
  let digits := toString value
  String.ofList (List.replicate (width - digits.length) '0') ++ digits

/-- The year with at least four characters, the sign of a negative year among them. -/
def yearText (year : Int) : String :=
  if year < 0 then "-" ++ padded 3 year.natAbs else padded 4 year.natAbs

/-- UTC with whole seconds, rounded towards the past. -/
def text (instant : Instant) : String :=
  let second := Int.fdiv instant.nanoseconds perSecond
  let day := Int.fdiv second 86400
  let time := (second - day * 86400).toNat
  let date := Date.ofDayNumber day
  yearText date.year ++ "-" ++ padded 2 date.month ++ "-" ++ padded 2 date.day ++
    "T" ++ padded 2 (time / 3600) ++ ":" ++ padded 2 (time / 60 % 60) ++ ":" ++
    padded 2 (time % 60) ++ "Z"

end Instant

end ZoneKeeper
