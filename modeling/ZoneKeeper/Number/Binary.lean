/-!
# Binary floating-point numbers

A finite floating-point number as the exact value that it stands for, and its arithmetic: the exact
result is rounded to the nearest number of 53 binary digits, from the middle between two to the one
with an even mantissa.
-/

namespace ZoneKeeper

/-- The number `mantissa · 2 ^ exponent`, with a sign of its own. -/
structure Binary where
  negative : Bool
  mantissa : Nat
  exponent : Int
  deriving DecidableEq, Repr, Inhabited

namespace Binary

/-- The weight of the sign among 64 bits. -/
def signBit : Nat := 0x8000000000000000

/-- The weight of the bit before the fraction, which is not written. -/
def hiddenBit : Nat := 0x10000000000000

def lastField : Nat := 0x7FF

/-- The value of a number of 64 bits; infinities and what is no number have none. -/
def ofFloat? (number : Float) : Option Binary :=
  let bits := number.toBits.toNat
  let negative := bits / signBit = 1
  let field : Nat := bits / hiddenBit % (lastField + 1)
  let fraction : Nat := bits % hiddenBit
  if field = lastField then none
  else if field = 0 then some ⟨negative, fraction, -1074⟩
  else some ⟨negative, hiddenBit + fraction, (field : Int) - 1075⟩

def toFloat (number : Binary) : Float :=
  let sign := if number.negative then signBit else 0
  let bits := if number.mantissa < hiddenBit then number.mantissa
    else (number.exponent + 1075).toNat * hiddenBit + (number.mantissa - hiddenBit)
  Float.ofBits (sign + bits).toUInt64

end Binary

/-- The whole number nearest to a quotient; from the middle between two, the even one. -/
def roundQuotient (dividend divisor : Nat) : Nat :=
  let quotient := dividend / divisor
  let double := 2 * (dividend % divisor)
  if double < divisor then quotient
  else if divisor < double then quotient + 1
  else quotient + quotient % 2

/-- The whole number nearest to `factor` times the magnitude of a number. -/
def Binary.scaled (number : Binary) (factor : Nat) : Nat :=
  if 0 ≤ number.exponent then number.mantissa * Nat.pow 2 number.exponent.toNat * factor
  else roundQuotient (number.mantissa * factor) (Nat.pow 2 (-number.exponent).toNat)

namespace Binary

/-- The least exponent; numbers that have it may have fewer binary digits than others. -/
def leastExponent : Int := -1074

/-- The place of the first binary digit of a quotient. -/
def leadingPlace (dividend divisor : Nat) : Int :=
  let place := (Nat.log2 dividend : Int) - Nat.log2 divisor
  if divisor * Nat.pow 2 place.toNat ≤ dividend * Nat.pow 2 (-place).toNat then place
  else place - 1

/-- The number nearest to a quotient, which may be too large for 64 bits. -/
def ofQuotient (negative : Bool) (dividend divisor : Nat) : Binary :=
  if dividend = 0 then ⟨negative, 0, leastExponent⟩
  else
    let exponent := max (leadingPlace dividend divisor - 52) leastExponent
    let mantissa := roundQuotient (dividend * Nat.pow 2 (-exponent).toNat)
      (divisor * Nat.pow 2 exponent.toNat)
    if mantissa = 2 * hiddenBit then ⟨negative, hiddenBit, exponent + 1⟩
    else ⟨negative, mantissa, exponent⟩

def ofNat (value : Nat) : Binary :=
  ofQuotient false value 1

def ofInt (value : Int) : Binary :=
  ofQuotient (value < 0) value.natAbs 1

def isFinite (number : Binary) : Bool :=
  number.exponent < 972

def isZero (number : Binary) : Bool :=
  number.mantissa = 0

def isNormal (number : Binary) : Bool :=
  hiddenBit ≤ number.mantissa

/-- The quotient of two numbers times `2 ^ exponent`, as a quotient of whole numbers. -/
def quotient (mantissa divisor : Nat) (exponent : Int) : Nat × Nat :=
  (mantissa * Nat.pow 2 exponent.toNat, divisor * Nat.pow 2 (-exponent).toNat)

def times (left right : Binary) : Binary :=
  let (dividend, divisor) :=
    quotient (left.mantissa * right.mantissa) 1 (left.exponent + right.exponent)
  ofQuotient (left.negative ≠ right.negative) dividend divisor

def dividedBy (left right : Binary) : Binary :=
  let (dividend, divisor) :=
    quotient left.mantissa right.mantissa (left.exponent - right.exponent)
  ofQuotient (left.negative ≠ right.negative) dividend divisor

def opposite (number : Binary) : Binary :=
  { number with negative := !number.negative }

/-- The number in steps of `2 ^ place`, which is not above its exponent. -/
def signedAt (number : Binary) (place : Int) : Int :=
  let magnitude : Int := (number.mantissa * Nat.pow 2 (number.exponent - place).toNat : Nat)
  if number.negative then -magnitude else magnitude

/-- The order of two numbers; both zeros are equal. -/
def order (left right : Binary) : Ordering :=
  let place := min left.exponent right.exponent
  compare (left.signedAt place) (right.signedAt place)

/-- `10 ^ exponent`, as near as it can be. -/
def powerOfTen (exponent : Nat) : Binary :=
  ofNat (Nat.pow 10 exponent)

end Binary

/-- `base` to the power of `exponent`, by squaring. -/
def powerOf (base : Float) (exponent : Nat) : Float :=
  go base exponent 1
where
  go (square : Float) (exponent : Nat) (product : Float) : Float :=
    let product := if exponent % 2 = 1 then product * square else product
    if exponent / 2 = 0 then product
    else go (square * square) (exponent / 2) product
  termination_by exponent
  decreasing_by omega

end ZoneKeeper
