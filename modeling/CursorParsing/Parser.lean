import CursorParsing.Parser.Count

/-!
# Parsers

A parser is a term. The constructors are the ways of reading that cannot be made of others; all other
combinators are defined by them. What a parser does is said by `Parser.step`.
-/

namespace CursorParsing

inductive Parser where
  | pure (value : Value)
  | raise (error : Error)
  | symbolThat (accepts : Value → Outcome Bool)
  /-- Reads the symbols of a sequence and gives the sequence. -/
  | literal (expected : Value)
  | endOfInput
  /-- Goes on with a parser that is chosen by the value. -/
  | flatMap (first : Parser) (next : Value → Parser)
  /-- Reads with the second parser from the same place if the first does not match. -/
  | orElse (first second : Parser)
  | zeroOrMore (inner : Parser)
  | oneOrMore (inner : Parser)
  | repeated (inner : Parser) (count : Count)
  | named (name : String) (inner : Parser)
  /-- The same parser, telling of each attempt under a tag. -/
  | traced (tag : String) (inner : Parser)
  | reference (name : String)

instance : Inhabited Parser := ⟨.pure default⟩

namespace Parser

/-- The name of a parser; empty if it was not given one. -/
def name : Parser → String
  | .named name _ => name
  | .traced tag _ => tag
  | _ => ""

def display (parser : Parser) : String :=
  if parser.name.isEmpty then "Parser(<anonymous>)" else "Parser(" ++ parser.name ++ ")"

end Parser

end CursorParsing
