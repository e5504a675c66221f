import CursorParsing.Locale.Data
import CursorParsing.Locale.Table
import CursorParsing.Log
import CursorParsing.Parser.Double

/-!
# The parser of decimal numbers of a locale

An optional minus sign and a body of digits and symbols are collected first, and the locale then reads
the body as a whole. A body that the locale refuses is a mismatch, and nothing of it is read.
-/

namespace CursorParsing

namespace Parser

def flattenLists (value : Value) : Outcome Value := do
  let lists ← Value.orTypeMismatch (value.items?.bind (·.mapM Value.items?))
  return .list lists.flatten

/-- The body of a number between whose groups there is a space: runs of digits and points, with any
sort of spaces between runs but not at the ends. -/
def spacedBody (decimalSymbol : List Char) : Parser :=
  let run := Parser.oneOrMore (oneCharOf (digitCharacters ++ decimalSymbol))
  let gap := Parser.oneOrMore (oneCharOf spaceVariants)
  let laterRuns := (Parser.zeroOrMore (lift2 Value.add gap run)).map flattenLists
  lift2 Value.add run laterRuns

/-- The digits and symbols of a number without sign, as the list of its characters. -/
def numberBody (decimalSymbol groupSymbol : List Char) : Parser :=
  if isSpaceGroup groupSymbol then spacedBody decimalSymbol
  else .oneOrMore (oneCharOf (digitCharacters ++ decimalSymbol ++ groupSymbol))

/-- The negative of a number where there is a minus sign; only negation rounds and may overflow. -/
def applySign (negative : Bool) (number : Decimal) : Outcome Value :=
  if negative then Value.decimalOutcome number.neg? else .ok (.decimal number)

end Parser

/-- What a body means in a locale, behind a minus sign or without one. A refusal is a mismatch; an
overflow is none. -/
def NumberLocale.interpret (locale : NumberLocale) (code : String) (strict negative : Bool)
    (text : List Char) : Outcome Value :=
  match locale.read strict (locale.normalized text) with
  | .ok number => Parser.applySign negative number
  | .error (.refused reason) => .error (.mismatch (.invalidDecimal text code reason))
  | .error .overflow => .error (.fault .decimalOverflow)

namespace Parser

/-- Gives what the symbols of a body mean, and reads nothing. -/
def interpretSigned (locale : NumberLocale) (code : String) (strict : Bool)
    (negative symbols : Value) : Parser :=
  .ofOutcome (symbols.joinSymbols.bind (locale.interpret code strict negative.isTrue))

/-- A decimal number of a locale; the code names the locale in messages. -/
def decimalNumber (locale : NumberLocale) (code : String) (strict : Bool) : Parser :=
  .named ("decimal_number(" ++ code ++ ")") <|
    .flatMap (word locale.minusSymbol).asBool fun negative =>
      .flatMap (numberBody locale.decimalSymbol locale.groupSymbol) fun symbols =>
        interpretSigned locale code strict negative symbols

/-- What is logged when the parser of a locale's numbers is built. -/
def announceLocale (locale : NumberLocale) (code : String) : LogLine where
  channel := .localeNumbers
  message :=
    "decimal_number(" ++ code ++ "): decimal=" ++ String.ofList (Text.quoted locale.decimalSymbol) ++
      " group=" ++ String.ofList (Text.quoted locale.groupSymbol) ++
      " minus=" ++ String.ofList (Text.quoted locale.minusSymbol)

/-- The parser of the decimal numbers of a locale of a library, and what is logged when it is built. -/
def decimalNumberFrom? (library : LocaleLibrary) (data : LocaleData) (code : String) (strict : Bool) :
    Except Fault (Parser × LogLine) := do
  data.require "decimal_number"
  let some locale := library (normalizedLocale code) | .error (.unknownLocale code)
  return (decimalNumber locale code strict, announceLocale locale code)

/-- The parser of the decimal numbers of a locale that is built in. -/
def decimalNumber? : (data : LocaleData) → (code : String) → (strict : Bool) →
    Except Fault (Parser × LogLine) :=
  decimalNumberFrom? builtInLocales

end Parser

end CursorParsing
