import ZoneKeeper.Number.Binary

/-!
# Decimal notation

The number that a decimal stands for, rounded once.  A text in decimal notation may have a sign, a
fraction and an exponent, and there are words for infinity and for what is no number at all.
-/

namespace ZoneKeeper

/-- What a text in decimal notation stands for. -/
inductive Numeral where
  | finite (number : Binary)
  | infinite (negative : Bool)
  | undefined
  deriving DecidableEq, Repr

namespace Numeral

def digitsValue (digits : List Char) : Nat :=
  digits.foldl (fun value digit => value * 10 + (digit.toNat - '0'.toNat)) 0

/-- The number nearest to `mantissa · 10 ^ exponent`. -/
def ofScientific (negative : Bool) (mantissa : Nat) (exponent : Int) : Numeral :=
  let size : Int := (Nat.toDigits 10 mantissa).length + exponent
  if mantissa = 0 || size < -400 then .finite (.ofQuotient negative 0 1)
  else if 400 < size then .infinite negative
  else
    let number := Binary.ofQuotient negative (mantissa * Nat.pow 10 exponent.toNat)
      (Nat.pow 10 (-exponent).toNat)
    if number.isFinite then .finite number else .infinite negative

def splitSign : List Char → Bool × List Char
  | '-' :: text => (true, text)
  | '+' :: text => (false, text)
  | text => (false, text)

def exponent? : List Char → Option Int
  | [] => some 0
  | mark :: text =>
      let (negative, digits) := splitSign text
      if (mark = 'e' || mark = 'E') && !digits.isEmpty && digits.all Char.isDigit then
        some (if negative then -(digitsValue digits : Int) else digitsValue digits)
      else none

/-- Reads digits with a point between or beside them, and an exponent. -/
def ofDigits? (negative : Bool) (text : List Char) : Option Numeral := do
  let whole := text.takeWhile Char.isDigit
  let (fraction, rest) := match text.dropWhile Char.isDigit with
    | '.' :: rest => (rest.takeWhile Char.isDigit, rest.dropWhile Char.isDigit)
    | rest => ([], rest)
  let exponent ← exponent? rest
  if whole.isEmpty && fraction.isEmpty then none
  else
    some (ofScientific negative (digitsValue (whole ++ fraction)) (exponent - fraction.length))

def ofText? (text : String) : Option Numeral :=
  let (negative, body) := splitSign text.toList
  match String.ofList (body.map Char.toLower) with
  | "inf" | "infinity" => some (.infinite negative)
  | "nan" => some .undefined
  | _ => ofDigits? negative body

end Numeral

/-- The order of a number and what a text stands for, if they have one. -/
def Binary.orderTo? (number : Binary) : Numeral → Option Ordering
  | .finite other => some (number.order other)
  | .infinite negative => some (if negative then .gt else .lt)
  | .undefined => none

end ZoneKeeper
