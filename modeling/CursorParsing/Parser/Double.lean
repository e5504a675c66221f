import CursorParsing.Parser.Symbols
import CursorParsing.Number.Binary64.Reading

/-!
# The parser of binary numbers

A run of digits and points is collected first and then read as a whole. A run that is no number is a
mismatch; a shorter part of it is never taken instead.
-/

namespace CursorParsing.Parser

def digitCharacters : List Char := ['0', '1', '2', '3', '4', '5', '6', '7', '8', '9']

/-- The characters that a binary number is collected from. -/
def doubleCharacters : List Char := digitCharacters ++ ['.']

/-- Gives the number that a text writes, and reads nothing. -/
def interpretText (text : List Char) : Parser :=
  match Binary64.read? text with
  | some number => .pure (.float number)
  | none => .raise (.mismatch (.invalidNumber text))

/-- Gives the number that a sequence of texts writes. -/
def interpretDouble? (symbols : Value) : Outcome Parser := symbols.joinSymbols.map interpretText

def interpretDouble (symbols : Value) : Parser :=
  match interpretDouble? symbols with
  | .ok parser => parser
  | .error error => .raise error

def double : Parser :=
  .named "double" (.flatMap (.oneOrMore (oneCharOf doubleCharacters)) interpretDouble)

end CursorParsing.Parser
