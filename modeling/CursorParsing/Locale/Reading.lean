import CursorParsing.Locale.NumberFormat
import CursorParsing.Text.Quoted

/-!
# Reading a number as a format writes it

Leniently, group symbols are ignored wherever they stand. Strictly, a text with group symbols has to
be the text that the format writes for its number, but for zeros at the end of the fraction.
-/

namespace CursorParsing

open Number Text

namespace NumberFormat

/-- A text without one symbol, and with a point for another. -/
def pointed (ignored point : Char) (text : List Char) : List Char :=
  (text.filter (· != ignored)).map fun character => if character = point then '.' else character

/-- The number of a text in which a symbol is ignored and another is the point. -/
def readPointed? (ignored point : Char) (text : List Char) : Option Decimal :=
  (Numeral.read? (pointed ignored point text)).map (.ofNumeral false)

def readLenient? (format : NumberFormat) (text : List Char) : Option Decimal :=
  readPointed? format.groupSymbol format.decimalSymbol text

/-- A text without the zeros at the end of its fraction, and without the decimal symbol if the
fraction was all zeros. A decimal symbol that nothing follows stays. -/
def withoutTrailingZeros (format : NumberFormat) (text : List Char) : List Char :=
  let whole := text.takeWhile (· != format.decimalSymbol)
  match text.dropWhile (· != format.decimalSymbol) with
  | symbol :: digit :: rest =>
    match ((digit :: rest).reverse.dropWhile (· == '0')).reverse with
    | [] => whole
    | fraction => whole ++ symbol :: fraction
  | _ => text

/-! ## Refusals -/

def notANumber (text : List Char) : Misreading :=
  .refused (String.ofList (quoted text) ++ " is not a valid decimal number")

/-- The text is grouped wrongly; `proper` is how its number is written, and `alternative` how it is
written if the group symbol was meant for the point. -/
def misgrouped (text proper : List Char) (alternative : Option (List Char)) : Misreading :=
  let suggestion := match alternative with
    | some other => " Or maybe " ++ String.ofList (quoted other) ++ "?"
    | none => ""
  .refused <| String.ofList (quoted text) ++
    " is not a properly formatted decimal number. Did you mean " ++ String.ofList (quoted proper) ++
    "?" ++ suggestion

/-- How the number is written that a text would be if its group symbol were the point and its decimal
symbol meant nothing; none if that is no number. -/
def alternative (format : NumberFormat) (text : List Char) :
    Except Misreading (Option (List Char)) :=
  match readPointed? format.decimalSymbol format.groupSymbol text with
  | none => .ok none
  | some number => (format.write number).map some

/-! ## The reading of a format -/

/-- Check that a text is how the format writes a number. -/
def checkGrouping (format : NumberFormat) (text : List Char) (number : Decimal) :
    Except Misreading Unit := do
  let proper ← format.write number
  if text = proper ∨ format.withoutTrailingZeros text = proper then return
  let other ← format.alternative text
  .error (misgrouped text proper (if other = some proper then none else other))

def read (format : NumberFormat) : NumberReading := fun strict text => do
  let some number := format.readLenient? text | .error (notANumber text)
  if strict && text.contains format.groupSymbol then format.checkGrouping text number
  return number

/-- A locale that has the symbols of a format. -/
def locale (format : NumberFormat) (read : NumberReading) : NumberLocale :=
  ⟨[format.decimalSymbol], [format.groupSymbol], format.minusSymbol, read⟩

/-- The locale of a format whose reading is at hand. -/
abbrev builtIn (format : NumberFormat) : NumberLocale := format.locale format.read

end NumberFormat

end CursorParsing
