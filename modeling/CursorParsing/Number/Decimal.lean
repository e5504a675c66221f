import CursorParsing.Number.Numeral
import CursorParsing.Number.Power
import CursorParsing.Number.Rounding

/-!
# Decimal numbers

A decimal keeps its coefficient and its power of ten as they were written, so `1.50` and `1.5` are
different decimals of equal value. Reading never rounds; negation and addition round to
`Decimal.precision` significant digits and give none for what is too great.
-/

namespace CursorParsing

open Number

/-- The number `coefficient * 10 ^ exponent` with a sign; zero has two signs. -/
structure Decimal where
  negative : Bool
  coefficient : Nat
  exponent : Int
deriving DecidableEq, Repr

namespace Decimal

def precision : Nat := 28

def ofInt (number : Int) : Decimal := ⟨decide (number < 0), number.natAbs, 0⟩

def ofNumeral (negative : Bool) (numeral : Numeral) : Decimal :=
  ⟨negative, numeral.coefficient, numeral.exponent⟩

def read? (text : List Char) : Option Decimal :=
  let (negative, body) := splitSign text
  (Numeral.read? body).map (ofNumeral negative)

def isZero (number : Decimal) : Bool := number.coefficient == 0

/-! ## Values -/

/-- Move up to `steps` trailing zeros from a coefficient into its power of ten. -/
def stripZeros : (steps coefficient : Nat) → (exponent : Int) → Nat × Int
  | 0, coefficient, exponent => (coefficient, exponent)
  | steps + 1, coefficient, exponent =>
    if coefficient % 10 = 0 then stripZeros steps (coefficient / 10) (exponent + 1)
    else (coefficient, exponent)

/-- The one decimal of the same value without trailing zeros; two decimals have the same value
exactly when these agree. -/
def reduced (number : Decimal) : Decimal :=
  if number.coefficient = 0 then ⟨false, 0, 0⟩
  else
    let (coefficient, exponent) :=
      stripZeros (digitCount number.coefficient) number.coefficient number.exponent
    ⟨number.negative, coefficient, exponent⟩

example : (Decimal.mk false 1500 (-2)).reduced = ⟨false, 15, 0⟩ := by decide
example : (Decimal.mk true 0 5).reduced = ⟨false, 0, 0⟩ := by decide

/-- The power of ten just above the leading digit. -/
def magnitude (number : Decimal) : Int := number.exponent + digitCount number.coefficient

/-- The value as an integer count of `10 ^ exponent`, for a power of ten that is not above the
decimal's own. -/
def scaledTo (exponent : Int) (number : Decimal) : Int :=
  if number.isZero then 0
  else
    let magnitude := number.coefficient * power 10 (number.exponent - exponent)
    if number.negative then -(magnitude : Int) else magnitude

def floor (number : Decimal) : Int :=
  let whole := number.coefficient * power 10 number.exponent
  let divisor := power 10 (-number.exponent)
  (if number.negative then -(whole : Int) else whole) / divisor

def ceiling (number : Decimal) : Int := -({ number with negative := !number.negative }).floor

example : (Decimal.mk false 25 (-1)).ceiling = 3 := by decide
example : (Decimal.mk true 25 (-1)).ceiling = -2 := by decide

/-! ## Rounding -/

/-- The nearest decimal without digits below a power of ten, a half going to the even neighbour. -/
def roundedAt (place : Int) (number : Decimal) : Decimal :=
  if place ≤ number.exponent then number
  else if number.magnitude < place then { number with coefficient := 0, exponent := place }
  else
    let coefficient := roundHalfEven number.coefficient (power 10 (place - number.exponent))
    { number with coefficient, exponent := place }

/-- A coefficient that was rounded up to a power of ten has a digit too many, which is a zero. -/
def withoutCarry (number : Decimal) : Decimal :=
  if digitCount number.coefficient > precision then
    { number with coefficient := number.coefficient / 10, exponent := number.exponent + 1 }
  else number

/-! ## Rounding arithmetic -/

/-- The greatest power of ten of a leading digit that arithmetic gives. -/
def greatestLeading : Int := 999999

/-- The least power of ten of a last digit that arithmetic gives. -/
def leastPlace : Int := -1000026

/-- The result of an operation: rounded to `precision` digits, or to fewer where more would lie below
`leastPlace`; none if it is too great. -/
def fit? (number : Decimal) : Option Decimal :=
  if number.isZero then
    some { number with exponent := max leastPlace (min number.exponent greatestLeading) }
  else
    let place := max (number.magnitude - precision) leastPlace
    let result := (number.roundedAt place).withoutCarry
    if result.magnitude > greatestLeading + 1 then none else some result

example : fit? ⟨false, power 10 30 - 1, 0⟩ = some ⟨false, power 10 27, 3⟩ := by decide +kernel

/-- Negation gives the positive zero for either zero. -/
def neg? (number : Decimal) : Option Decimal :=
  fit? ⟨!number.negative && !number.isZero, number.coefficient, number.exponent⟩

/-- A decimal that is added to one of a greater power of ten. If it lies wholly below all digits that
the sum can keep, any other decimal that does so and has its sign serves as well. -/
def asAddendTo (high low : Decimal) : Decimal :=
  let place := high.exponent + min (-1) ((digitCount high.coefficient : Int) - precision - 2)
  if !high.isZero && low.magnitude ≤ place then
    ⟨low.negative, if low.isZero then 0 else 1, place⟩
  else low

/-- The sum has the smaller of the two powers of ten, before it is rounded. -/
def addBelow? (high low : Decimal) : Option Decimal :=
  let addend := high.asAddendTo low
  let total := high.scaledTo addend.exponent + addend.scaledTo addend.exponent
  let negative := if total = 0 then high.negative && low.negative else decide (total < 0)
  fit? ⟨negative, total.natAbs, addend.exponent⟩

def add? (left right : Decimal) : Option Decimal :=
  if left.exponent < right.exponent then right.addBelow? left else left.addBelow? right

example : add? ⟨false, 110, -2⟩ ⟨false, 1, 0⟩ = some ⟨false, 210, -2⟩ := by decide
example : add? ⟨false, 9, 999999⟩ ⟨false, 9, 999999⟩ = none := by decide +kernel
example : neg? ⟨true, 0, -2⟩ = some ⟨false, 0, -2⟩ := by decide

/-! ## Writing -/

/-- The least power of ten of a leading digit that is still written out with zeros. -/
def leastPositional : Int := -6

/-- Digits with a point before the last `places` of them, and zeros in front if they are too few. -/
def withPoint (digits : List Char) (places : Nat) : List Char :=
  if places = 0 then digits
  else
    let padded := List.replicate (places + 1 - digits.length) '0' ++ digits
    padded.take (padded.length - places) ++ '.' :: padded.drop (padded.length - places)

/-- Digits with a point after the first of them, if any follow. -/
def withLeadingPoint : List Char → List Char
  | first :: second :: rest => first :: '.' :: second :: rest
  | digits => digits

/-- Every digit is written, and a power of ten only where zeros could not show the exponent. -/
def write (number : Decimal) : List Char :=
  let digits := digits number.coefficient
  let leading := number.exponent + digits.length - 1
  let body :=
    if number.exponent ≤ 0 ∧ leastPositional ≤ leading then
      withPoint digits (-number.exponent).toNat
    else
      let sign := if leading < 0 then '-' else '+'
      withLeadingPoint digits ++ 'E' :: sign :: Number.digits leading.natAbs
  if number.negative then '-' :: body else body

example : write ⟨false, 110, -2⟩ = ['1', '.', '1', '0'] := by decide
example : write ⟨false, 1, -7⟩ = ['1', 'E', '-', '7'] := by decide
example : write ⟨true, 0, 0⟩ = ['-', '0'] := by decide
example : write ⟨false, 12, -4⟩ = ['0', '.', '0', '0', '1', '2'] := by decide

end Decimal

end CursorParsing
