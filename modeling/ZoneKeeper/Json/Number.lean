import ZoneKeeper.Json.Basic

/-!
# Numbers in JSON

The digits of a number are gathered in a significand of 64 bits, and those that no longer fit are
dropped.  The significand is then scaled by powers of ten, each of them rounded before it is used,
so the result need not be the floating-point number that is nearest to what is written.  A number
beyond all floating-point numbers has no value.
-/

namespace ZoneKeeper.Json

/-- A reader takes a value off the front of the text; it fails if there is none. -/
abbrev Read (α : Type) := List Char → Option (α × List Char)

def largestSignificand : Nat := 0xFFFFFFFFFFFFFFFF

/-- Appends digits to a significand as long as it stays small enough, and leaves the others. -/
def appendDigits (significand : Nat) : List Char → Nat × List Char
  | [] => (significand, [])
  | digit :: digits =>
      let next := significand * 10 + (digit.toNat - '0'.toNat)
      if largestSignificand < next then (significand, digit :: digits)
      else appendDigits next digits

def largestPower : Nat := 308

/-- The number divided by `10 ^ exponent`, at most by the largest power at once.  After three such
steps nothing is left of a significand. -/
def shrink : (steps : Nat) → Binary → (exponent : Nat) → Binary
  | 0, number, _ => number
  | steps + 1, number, exponent =>
      if exponent ≤ largestPower then number.dividedBy (.powerOfTen exponent)
      else shrink steps (number.dividedBy (.powerOfTen largestPower)) (exponent - largestPower)

/-- The number `significand · 10 ^ exponent`, unless it is too large. -/
def scaled? (significand : Nat) (exponent : Int) : Option Binary :=
  let number := Binary.ofNat significand
  if exponent < 0 then some (shrink 3 number (-exponent).toNat)
  else if exponent ≤ largestPower then
    some (number.times (.powerOfTen exponent.toNat)) |>.filter Binary.isFinite
  else if significand = 0 then some number
  else none

def ofFloat (isNegative : Bool) (number : Binary) : Json :=
  .float (if isNegative then number.opposite else number)

/-- The number `significand · 10 ^ exponent` with a sign. -/
def ofParts (isNegative : Bool) (significand : Nat) (exponent : Int) : Json :=
  (scaled? significand exponent).elim .unreadable (ofFloat isNegative)

/-- An integer of 64 bits, signed or not, if there is one; the negative zero is none. -/
def ofInteger (isNegative : Bool) (significand : Nat) : Json :=
  if !isNegative then .integer significand
  else if 0 < significand && significand ≤ 0x8000000000000000 then .integer (-significand)
  else ofFloat true (.ofNat significand)

/-- The digits of an integer, without a zero in front of others. -/
def readWhole : Read (List Char) := fun text =>
  let digits := text.takeWhile Char.isDigit
  match digits with
  | [] => none
  | '0' :: _ :: _ => none
  | _ => some (digits, text.dropWhile Char.isDigit)

/-- The digits behind a point, or none if there is no point. -/
def readFraction : Read (List Char)
  | '.' :: rest =>
      let digits := rest.takeWhile Char.isDigit
      if digits.isEmpty then none else some (digits, rest.dropWhile Char.isDigit)
  | text => some ([], text)

def digitsValue (digits : List Char) : Nat :=
  digits.foldl (fun value digit => value * 10 + (digit.toNat - '0'.toNat)) 0

def readExponent : Read (Option Int)
  | mark :: rest =>
      if mark = 'e' || mark = 'E' then
        let (sign, rest) : Int × List Char :=
          match rest with
          | '+' :: rest => (1, rest)
          | '-' :: rest => (-1, rest)
          | rest => (1, rest)
        let digits := rest.takeWhile Char.isDigit
        if digits.isEmpty then none
        else some (some (sign * (digitsValue digits : Nat)), rest.dropWhile Char.isDigit)
      else some (none, mark :: rest)
  | [] => some (none, [])

def readNumber : Read Json := fun text => do
  let (isNegative, text) := match text with
    | '-' :: rest => (true, rest)
    | text => (false, text)
  let (whole, text) ← readWhole text
  let (fraction, text) ← readFraction text
  let (exponent, text) ← readExponent text
  let (significand, dropped) := appendDigits 0 whole
  if fraction.isEmpty && exponent.isNone && dropped.isEmpty then
    some (ofInteger isNegative significand, text)
  else
    let (significand, left) := appendDigits significand fraction
    let places : Int := (fraction.length : Int) - left.length
    some
      (ofParts isNegative significand (exponent.getD 0 + dropped.length - places), text)

end ZoneKeeper.Json
