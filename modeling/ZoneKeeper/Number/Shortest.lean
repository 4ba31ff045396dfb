import ZoneKeeper.Number.Binary

/-!
# Shortest decimals

The decimal with the fewest digits that still reads back as a given floating-point number, and its
text in positional notation or with an exponent.
-/

namespace ZoneKeeper

namespace Shortest

/-- The decimal `digits · 10 ^ place`. -/
structure Digits where
  digits : Nat
  place : Int
  deriving DecidableEq, Repr

/-- A positive number `mantissa · 2 ^ exponent` measured in steps of `10 ^ place`: a quotient whose
parts are whole. -/
structure Scale where
  factor : Nat
  divisor : Nat

def Scale.of (exponent place : Int) : Scale where
  factor := Nat.pow 2 exponent.toNat * Nat.pow 10 (-place).toNat
  divisor := Nat.pow 2 (-exponent).toNat * Nat.pow 10 place.toNat

def leadingPlace (mantissa : Nat) (exponent : Int) : Int :=
  let guess := ((Nat.log2 mantissa : Int) + exponent) * 30103 / 100000
  let reaches (place : Int) : Bool :=
    let scale := Scale.of exponent place
    scale.divisor ≤ mantissa * scale.factor
  if reaches (guess + 1) then guess + 1
  else if reaches guess then guess
  else guess - 1

/-- The nearer of the two neighbours on the grid of steps `10 ^ place` that lie between the middles
to the next floating-point numbers.  The middles count if the mantissa is even. -/
def onGrid? (mantissa : Nat) (exponent : Int) (place : Int) : Option Digits :=
  let scale := Scale.of (exponent - 2) place
  let value := 4 * mantissa * scale.factor
  let low := (4 * mantissa -
    if mantissa = Binary.hiddenBit && -1074 < exponent then 1 else 2) * scale.factor
  let high := (4 * mantissa + 2) * scale.factor
  let below := value / scale.divisor
  let fits (step : Nat) : Bool :=
    let point := step * scale.divisor
    if mantissa % 2 = 0 then low ≤ point && point ≤ high else low < point && point < high
  let nearerAbove := scale.divisor < 2 * (value % scale.divisor) ||
    scale.divisor = 2 * (value % scale.divisor) && below % 2 = 1
  match fits below, fits (below + 1) with
  | true, true => some ⟨if nearerAbove then below + 1 else below, place⟩
  | true, false => some ⟨below, place⟩
  | false, true => some ⟨below + 1, place⟩
  | false, false => none

/-- The first grid that has a fitting point, from one digit to seventeen. -/
def digits (mantissa : Nat) (exponent : Int) : Digits :=
  if mantissa = 0 then ⟨0, 0⟩
  else
    let leading := leadingPlace mantissa exponent
    ((List.range 17).findSome? fun count : Nat =>
      onGrid? mantissa exponent (leading - (count : Int))).getD
      ⟨mantissa, exponent⟩

def Digits.text (number : Digits) : String :=
  let shown := Nat.toDigits 10 (number.digits * Nat.pow 10 number.place.toNat)
  let places := (-number.place).toNat
  let padded := shown.leftpad (places + 1) '0'
  let whole := padded.take (padded.length - places)
  let fraction := (padded.drop (padded.length - places)).reverse.dropWhile (· = '0')
  String.ofList whole ++
    if fraction.isEmpty then "" else "." ++ String.ofList fraction.reverse

/-- The digits with a point between them if it stands at most sixteen digits behind the first or
fewer than five zeros before it; else with an exponent. -/
def Digits.pointedText (number : Digits) : String :=
  let shown := Nat.toDigits 10 number.digits
  let point := (shown.length : Int) + number.place
  if number.digits = 0 then "0.0"
  else if 0 ≤ number.place && point ≤ 16 then
    String.ofList (shown ++ List.replicate number.place.toNat '0') ++ ".0"
  else if -5 < point && point ≤ 16 then number.text
  else
    let fraction := if shown.length = 1 then [] else '.' :: shown.drop 1
    String.ofList (shown.take 1 ++ fraction) ++ (if 0 < point then "e+" else "e") ++
      toString (point - 1)

end Shortest

/-- The text of a floating-point number: as few digits as read back, and no exponent. -/
def floatText (number : Float) : String :=
  match Binary.ofFloat? number with
  | none => if number.isNaN then "NaN" else if 0 < number then "inf" else "-inf"
  | some binary =>
      (if binary.negative then "-" else "") ++
        (Shortest.digits binary.mantissa binary.exponent).text

/-- The text of a number that always has a point or an exponent. -/
def Binary.pointedText (number : Binary) : String :=
  (if number.negative then "-" else "") ++
    (Shortest.digits number.mantissa number.exponent).pointedText

end ZoneKeeper
