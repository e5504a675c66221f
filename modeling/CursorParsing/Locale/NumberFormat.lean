import CursorParsing.Locale.NumberLocale

/-!
# How a locale writes numbers

A format says which symbols stand for the point, between groups of digits and for the minus sign, and
how long the groups are. `NumberFormat.write` writes a number in a format.
-/

namespace CursorParsing

/-- The group next to the point has `primary` digits, and the ones before it `secondary` digits. -/
structure Grouping where
  primary : Nat
  secondary : Nat
deriving DecidableEq, Repr

structure NumberFormat where
  decimalSymbol : Char
  groupSymbol : Char
  minusSymbol : List Char
  /-- None where digits are not grouped. -/
  grouping : Option Grouping
  /-- How many places of a fraction the format provides for; more are used if they are needed. -/
  fractionPlaces : Nat
deriving DecidableEq, Repr

namespace NumberFormat

open Number

/-! ## Formats of languages -/

def english : NumberFormat := ⟨'.', ',', ['-'], some ⟨3, 3⟩, 3⟩

def indian : NumberFormat := ⟨'.', ',', ['-'], some ⟨3, 2⟩, 3⟩

def french : NumberFormat := ⟨',', '\u202f', ['-'], some ⟨3, 3⟩, 3⟩

def arabic : NumberFormat := ⟨'.', ',', ['\u200e', '-'], some ⟨3, 3⟩, 3⟩

/-! ## Grouping -/

/-- Digits from the least significant one on, with a symbol between groups. The current group takes
`left` more digits, and the later ones `size` each. -/
def insertSymbols (symbol : Char) (size : Nat) : (left : Nat) → List Char → List Char
  | _, [] => []
  | 0, digit :: rest => symbol :: digit :: insertSymbols symbol size (size - 1) rest
  | left + 1, digit :: rest => digit :: insertSymbols symbol size left rest

def grouped (format : NumberFormat) (digits : List Char) : List Char :=
  match format.grouping with
  | some grouping =>
    (insertSymbols format.groupSymbol grouping.secondary grouping.primary digits.reverse).reverse
  | none => digits

/-! ## Writing -/

/-- The digits of a number in a given number of places, zeros in front. -/
def inPlaces (places number : Nat) : List Char :=
  List.replicate (places - digitCount number) '0' ++ digits number

/-- How the format writes `number / 10 ^ places`. -/
def properText (format : NumberFormat) (number places : Nat) : List Char :=
  format.grouped (digits (number / power 10 places)) ++
    if places = 0 then [] else format.decimalSymbol :: inPlaces places (number % power 10 places)

/-- The number of places that a number takes in a format: those that the format provides for, or more
if the number has a longer fraction. -/
def placesOf (format : NumberFormat) (number : Decimal) : Nat :=
  max format.fractionPlaces (-number.exponent).toNat

/-- Write a positive number without trailing zeros. It is not written if it has more than
`Decimal.precision` digits when all its places are counted. -/
def writeReduced? (format : NumberFormat) (number : Decimal) : Option (List Char) :=
  if number.coefficient ≠ 0 ∧
      digitCount number.coefficient + number.exponent + format.placesOf number > Decimal.precision then
    none
  else
    some (format.properText (number.coefficient * power 10 number.exponent) (-number.exponent).toNat)

def tooManyDigits : Misreading := .refused "[<class 'decimal.InvalidOperation'>]"

/-- Write the value of a number, rounded as arithmetic does. -/
def write (format : NumberFormat) (number : Decimal) : Except Misreading (List Char) :=
  match number.fit? with
  | none => .error .overflow
  | some kept =>
    match format.writeReduced? kept.reduced with
    | some written => .ok written
    | none => .error tooManyDigits

example : (indian.write ⟨false, 123456750, -2⟩).toOption =
    some ['1', '2', ',', '3', '4', ',', '5', '6', '7', '.', '5'] := by decide +kernel
example : (indian.write ⟨false, 5, -2⟩).toOption = some ['0', '.', '0', '5'] := by decide +kernel

end NumberFormat

end CursorParsing
