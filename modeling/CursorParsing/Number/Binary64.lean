import CursorParsing.Number.Decimal

/-!
# Double-precision binary numbers

A finite number is a sign and `significand * 2 ^ exponent`, in the one form in which the significand
has 53 bits or the exponent is the least one. Every operation rounds the exact result once, a half
going to the even neighbour.
-/

namespace CursorParsing

open Number

inductive Binary64 where
  | finite (negative : Bool) (significand : Nat) (exponent : Int)
  | infinite (negative : Bool)
  | notANumber
deriving DecidableEq, Repr

namespace Binary64

def significandBits : Nat := 53

def hiddenBit : Nat := power 2 (significandBits - 1)

def leastExponent : Int := -1074
def greatestExponent : Int := 971

def zero (negative : Bool) : Binary64 := .finite negative 0 leastExponent

def isZero : Binary64 → Bool
  | .finite _ significand _ => significand == 0
  | _ => false

def neg : Binary64 → Binary64
  | .finite negative significand exponent => .finite (!negative) significand exponent
  | .infinite negative => .infinite (!negative)
  | .notANumber => .notANumber

/-! ## Rounding -/

/-- A quotient divided by `2 ^ exponent`, as numerator and denominator. -/
def scaleDown (numerator denominator : Nat) (exponent : Int) : Nat × Nat :=
  (numerator * power 2 (-exponent), denominator * power 2 exponent)

/-- The exponent at which a positive quotient has a significand of 53 bits, or the least exponent
if that is greater. -/
def exponentOf (numerator denominator : Nat) : Int :=
  let estimate : Int := (numerator.log2 : Int) - denominator.log2 - (significandBits - 1)
  let scaled := scaleDown numerator denominator estimate
  let exact := if scaled.1 < hiddenBit * scaled.2 then estimate - 1 else estimate
  max exact leastExponent

/-- The number nearest to a quotient of naturals with a positive denominator. -/
def ofQuotient (negative : Bool) (numerator denominator : Nat) : Binary64 :=
  if numerator = 0 then zero negative
  else
    let exponent := exponentOf numerator denominator
    let scaled := scaleDown numerator denominator exponent
    let significand := roundHalfEven scaled.1 scaled.2
    let carried := significand == 2 * hiddenBit
    let significand := if carried then significand / 2 else significand
    let exponent := if carried then exponent + 1 else exponent
    if exponent > greatestExponent then .infinite negative
    else .finite negative significand exponent

/-- Leading digits at or above this power of ten are too great, and below the other too small, for
any finite number but zero; powers of ten in between are small enough to compute with. -/
def decimalLimits : Int × Int := (-330, 310)

/-- The number nearest to `coefficient * 10 ^ exponent`. -/
def ofNumeral (negative : Bool) (numeral : Numeral) : Binary64 :=
  let leading := numeral.exponent + digitCount numeral.coefficient
  if numeral.coefficient = 0 ∨ leading < decimalLimits.1 then zero negative
  else if leading > decimalLimits.2 then .infinite negative
  else
    ofQuotient negative (numeral.coefficient * power 10 numeral.exponent)
      (power 10 (-numeral.exponent))

def ofInt (number : Int) : Binary64 := ofQuotient (decide (number < 0)) number.natAbs 1

/-- The number nearest to an integer; none if the integer is too great for a finite one. -/
def ofInt? (number : Int) : Option Binary64 :=
  match ofInt number with
  | .finite negative significand exponent => some (.finite negative significand exponent)
  | _ => none

example : ofNumeral false ⟨15, -1⟩ = .finite false (3 * power 2 51) (-52) := by decide +kernel
example : ofInt 9007199254740993 = .finite false hiddenBit 1 := by decide +kernel

/-! ## Arithmetic -/

/-- The value as an integer count of `2 ^ unit`, for a unit that is not above the exponent. -/
def scaledTo (unit : Int) (negative : Bool) (significand : Nat) (exponent : Int) : Int :=
  let magnitude := significand * power 2 (exponent - unit)
  if negative then -(magnitude : Int) else magnitude

def add : Binary64 → Binary64 → Binary64
  | .finite leftNegative leftSignificand leftExponent,
    .finite rightNegative rightSignificand rightExponent =>
    let unit := min leftExponent rightExponent
    let total := scaledTo unit leftNegative leftSignificand leftExponent +
      scaledTo unit rightNegative rightSignificand rightExponent
    if total = 0 then zero (leftNegative && rightNegative)
    else
      ofQuotient (decide (total < 0)) (total.natAbs * power 2 unit) (power 2 (-unit))
  | .finite .., .infinite negative => .infinite negative
  | .infinite negative, .finite .. => .infinite negative
  | .infinite left, .infinite right => if left = right then .infinite left else .notANumber
  | .notANumber, _ => .notANumber
  | _, .notANumber => .notANumber

/-- Every finite number is a decimal exactly. -/
def toDecimal? : Binary64 → Option Decimal
  | .finite negative significand exponent =>
    if 0 ≤ exponent then some ⟨negative, significand * power 2 exponent, 0⟩
    else some ⟨negative, significand * power 5 (-exponent), exponent⟩
  | _ => none

example : add (ofInt 1) (ofInt 2) = ofInt 3 := by decide +kernel
example : (ofInt 5).toDecimal?.map Decimal.reduced = some ⟨false, 5, 0⟩ := by decide +kernel

end Binary64

end CursorParsing
