import CursorParsing.Parser.Combinators

/-!
# Parsers of symbols

Recognisers of one symbol or of a literal, and the blanks between words.
-/

namespace CursorParsing.Parser

/-! ## Sets of symbols -/

/-- Whether a symbol is in a set. A symbol that can be changed in place is in no set and may not even
be looked up. -/
def isOneOf (members : List Value) (symbol : Value) : Outcome Bool :=
  if symbol.isHashable then .ok (symbol.isMember members) else .error .typeMismatch

/-- The set of the symbols of a sequence, which must be fit for a set. -/
def members? (symbols : Value) : Except Fault (List Value) :=
  match symbols.symbols? with
  | some members => if members.all Value.isHashable then .ok members else .error .typeMismatch
  | none => .error .typeMismatch

def oneOf (members : List Value) : Parser := .symbolThat (isOneOf members)

def noneOf (members : List Value) : Parser :=
  .symbolThat fun symbol => (isOneOf members symbol).map not

def oneOf? (symbols : Value) : Except Fault Parser := (members? symbols).map oneOf

def noneOf? (symbols : Value) : Except Fault Parser := (members? symbols).map noneOf

def oneCharOf (characters : List Char) : Parser := oneOf (characters.map .ofChar)

def noCharOf (characters : List Char) : Parser := noneOf (characters.map .ofChar)

/-! ## Literals -/

/-- The characters of a text, read from a text. -/
def word (characters : List Char) : Parser := .literal (.text characters)

/-! ## Named recognisers -/

def anySymbol : Parser := .named "any_symbol" (.symbolThat fun _ => .ok true)

def atEnd : Parser := .named "end_of_input" .endOfInput

/-- The characters that count as blank between words. -/
def blanks : List Char := [' ', '\t', '\n', '\r']

def whitespace : Parser := .named "whitespace" (oneCharOf blanks)

/-- A literal and the blanks after it. -/
def lexeme (expected : Value) : Parser := (Parser.literal expected).keepLeft (.zeroOrMore whitespace)

end CursorParsing.Parser
