import CursorParsing.Number.Binary64

/-!
# The shortest decimal text of a binary number

The text has the fewest digits that read back as the number, and of those the digits nearest to it.
All comparisons are made on integers.
-/

namespace CursorParsing.Binary64

open Number

/-- A positive number in quarters of the unit of its significand, between the halfway points to its
neighbours. Below a power of two the neighbour is nearer. -/
structure Interval where
  lower : Nat
  value : Nat
  upper : Nat
  /-- Whether a halfway point reads back as the number. -/
  closed : Bool
  /-- A quarter of the unit, as a power of two. -/
  quarter : Int
deriving DecidableEq, Repr

def interval (significand : Nat) (exponent : Int) : Interval where
  lower :=
    if significand = hiddenBit ∧ exponent > leastExponent then 4 * significand - 1
    else 4 * significand - 2
  value := 4 * significand
  upper := 4 * significand + 2
  closed := significand % 2 == 0
  quarter := exponent - 2

namespace Interval

/-- The factors that turn quarters and multiples of `10 ^ place` into counts of one unit. -/
def commonUnits (bounds : Interval) (place : Int) : Nat × Nat :=
  (power 2 bounds.quarter * power 10 (-place), power 10 place * power 2 (-bounds.quarter))

/-- Whether `multiple * 10 ^ place` reads back as the number. -/
def contains (bounds : Interval) (place : Int) (multiple : Nat) : Bool :=
  let (quarters, multiples) := bounds.commonUnits place
  let position := multiple * multiples
  if bounds.closed then
    bounds.lower * quarters ≤ position && position ≤ bounds.upper * quarters
  else
    bounds.lower * quarters < position && position < bounds.upper * quarters

/-- The multiple of `10 ^ place` that is nearest to the number; of two, the even one. -/
def nearestOn (bounds : Interval) (place : Int) : Nat :=
  let (quarters, multiples) := bounds.commonUnits place
  roundHalfEven (bounds.value * quarters) multiples

/-- The multiple of `10 ^ place` just below the number. -/
def belowOn (bounds : Interval) (place : Int) : Nat :=
  let (quarters, multiples) := bounds.commonUnits place
  bounds.value * quarters / multiples

/-- The multiple of `10 ^ place` that reads back as the number, if one of the number's two neighbours
does; of two the nearer one. -/
def hitOn? (bounds : Interval) (place : Int) : Option Nat :=
  let below := bounds.belowOn place
  [bounds.nearestOn place, below, below + 1].find? (bounds.contains place)

/-- The hit on the first of the finer and finer grids from `10 ^ place` on that has one. If none of
the given number of grids has one, the next grid is fine enough. -/
def firstHit (bounds : Interval) : (grids : Nat) → (place : Int) → Nat × Int
  | 0, place => (bounds.nearestOn place, place)
  | grids + 1, place =>
    match bounds.hitOn? place with
    | some multiple => (multiple, place)
    | none => firstHit bounds grids (place - 1)

end Interval

/-- With so many digits the nearest decimal reads back as the number, whatever the number. -/
def mostDigits : Nat := 17

/-- Enough decimal places to give the least positive number a digit before the point. -/
def headroom : Nat := 400

/-- The power of ten of the leading digit of `significand * 2 ^ exponent`. -/
def leadingPlace (significand : Nat) (exponent : Int) : Int :=
  let whole := significand * power 2 exponent * power 10 headroom / power 2 (-exponent)
  (digitCount whole : Int) - 1 - headroom

/-- The digits of a positive number without trailing zeros, and the power of ten of the last one. -/
def shortestDigits (significand : Nat) (exponent : Int) : Nat × Int :=
  let (multiple, place) :=
    (interval significand exponent).firstHit (mostDigits - 1) (leadingPlace significand exponent)
  Decimal.stripZeros mostDigits multiple place

/-- Leading digits from this power of ten on up, or below the other, are written with an exponent. -/
def positionalRange : Int × Int := (-4, 16)

/-- An exponent is written with its sign and at least two digits. -/
def writeExponent (exponent : Int) : List Char :=
  let digits := digits exponent.natAbs
  let sign := if exponent < 0 then '-' else '+'
  'e' :: sign :: List.replicate (2 - digits.length) '0' ++ digits

/-- A whole number is written with one zero after the point. -/
def writeMagnitude (significand : Nat) (exponent : Int) : List Char :=
  if significand = 0 then ['0', '.', '0']
  else
    let (coefficient, place) := shortestDigits significand exponent
    let digits := digits coefficient
    let leading := place + digits.length - 1
    if positionalRange.1 ≤ leading ∧ leading < positionalRange.2 then
      if place ≥ 0 then digits ++ List.replicate place.toNat '0' ++ ['.', '0']
      else Decimal.withPoint digits (-place).toNat
    else Decimal.withLeadingPoint digits ++ writeExponent leading

def write : Binary64 → List Char
  | .finite negative significand exponent =>
    let magnitude := writeMagnitude significand exponent
    if negative then '-' :: magnitude else magnitude
  | .infinite negative => if negative then ['-', 'i', 'n', 'f'] else ['i', 'n', 'f']
  | .notANumber => ['n', 'a', 'n']

example : write (ofInt 300) = ['3', '0', '0', '.', '0'] := by decide +kernel
example : write (ofNumeral true ⟨1, -1⟩) = ['-', '0', '.', '1'] := by decide +kernel
example : write (ofNumeral false ⟨1, -7⟩) = ['1', 'e', '-', '0', '7'] := by decide +kernel
example : write (.finite false 1 leastExponent) = ['5', 'e', '-', '3', '2', '4'] := by decide +kernel

end CursorParsing.Binary64
