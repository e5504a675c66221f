/-!
# Decimal numerals

Reading digits, signs, a point and a power of ten. A numeral is kept exactly, as a coefficient and a
power of ten; what number format it ends up in is not decided here.
-/

namespace CursorParsing.Number

def digitValue (digit : Char) : Nat := digit.toNat - '0'.toNat

/-- The number that a row of digits writes, most significant digit first. -/
def numeralValue (digits : List Char) : Nat :=
  digits.foldl (fun value digit => 10 * value + digitValue digit) 0

example : numeralValue ['0', '4', '2'] = 42 := by decide

/-- The decimal digits of a number, most significant first and without leading zeros. -/
def digits (number : Nat) : List Char := Nat.toDigits 10 number

def digitCount (number : Nat) : Nat := (digits number).length

/-- A sign, if there is one, and what follows it. -/
def splitSign : List Char → Bool × List Char
  | '-' :: rest => (true, rest)
  | '+' :: rest => (false, rest)
  | rest => (false, rest)

/-- An optional sign and at least one digit. -/
def readInteger? (text : List Char) : Option Int :=
  let (negative, body) := splitSign text
  if body.isEmpty || !body.all Char.isDigit then none
  else if negative then some (-(numeralValue body : Int))
  else some (numeralValue body)

example : readInteger? ['-', '1', '2'] = some (-12) := by decide
example : readInteger? ['+'] = none := by decide

/-- The number `coefficient * 10 ^ exponent`. -/
structure Numeral where
  coefficient : Nat
  exponent : Int
deriving DecidableEq, Repr

namespace Numeral

/-- The power of ten after the digits: nothing, or a mark and an integer. -/
def readPower? : List Char → Option Int
  | [] => some 0
  | mark :: rest => if mark = 'e' ∨ mark = 'E' then readInteger? rest else none

def splitFraction : List Char → List Char × List Char
  | '.' :: rest => (rest.takeWhile Char.isDigit, rest.dropWhile Char.isDigit)
  | rest => ([], rest)

/-- Digits with at most one point and at least one digit, then an optional power of ten. -/
def read? (text : List Char) : Option Numeral :=
  let whole := text.takeWhile Char.isDigit
  let (fraction, rest) := splitFraction (text.dropWhile Char.isDigit)
  if whole.isEmpty && fraction.isEmpty then none
  else
    (readPower? rest).map fun power =>
      { coefficient := numeralValue (whole ++ fraction), exponent := power - fraction.length }

example : read? ['1', '.', '5', '0'] = some ⟨150, -2⟩ := by decide
example : read? ['.', '5', 'e', '3'] = some ⟨5, 2⟩ := by decide
example : read? ['.'] = none := by decide
example : read? ['1', '.', '2', '.'] = none := by decide

end Numeral

end CursorParsing.Number
