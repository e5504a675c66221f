import CursorParsing.Number.Decimal

/-!
# What is known of the numbers of a locale

A library of locales gives the symbols of a locale and reads texts as numbers of it. Parsers go by what
the library gives, whatever that is.
-/

namespace CursorParsing

/-- Why a library reads no number in a text: it refuses the text for a reason, or its own arithmetic
overflows. -/
inductive Misreading where
  | refused (reason : String)
  | overflow
deriving DecidableEq, Repr

/-- A reading of texts without a sign. Strictly, a text has to be grouped as the locale does. -/
abbrev NumberReading := (strict : Bool) → List Char → Except Misreading Decimal

structure NumberLocale where
  decimalSymbol : List Char
  groupSymbol : List Char
  minusSymbol : List Char
  read : NumberReading

/-- Gives the locale that a code with low lines between its parts names, if it knows one. -/
abbrev LocaleLibrary := String → Option NumberLocale

/-- The characters that may stand for one another between groups: the space, the no-break space and
the narrow no-break space. -/
def spaceVariants : List Char := [' ', '\u00a0', '\u202f']

/-- Whether groups are separated by a single space of some sort. -/
def isSpaceGroup : List Char → Bool
  | [symbol] => spaceVariants.contains symbol
  | _ => false

/-- A text in which every sort of space is the group symbol, if the group symbol is one of them. -/
def NumberLocale.normalized (locale : NumberLocale) (text : List Char) : List Char :=
  if isSpaceGroup locale.groupSymbol then
    text.flatMap fun character =>
      if spaceVariants.contains character then locale.groupSymbol else [character]
  else text

/-- A locale code with low lines in place of hyphens. -/
def normalizedLocale (code : String) : String :=
  code.map fun character => if character = '-' then '_' else character

/-- The locale whose numbers are read where none is named. -/
def defaultLocale : String := "en_US"

end CursorParsing
