import CursorParsing.Parser.Run
import CursorParsing.Log

/-!
# Grammars

A grammar defines parsers under names, so that parsers may refer to each other and to themselves.
Reading follows a reference at most so deep as it takes to meet every definition at every place of
the input; a reference that leads deeper has come back to a definition at a place where it is already
being read, and would do so forever.
-/

namespace CursorParsing

structure Grammar where
  definitions : List (String × Parser)

namespace Grammar

def empty : Grammar := ⟨[]⟩

def find? (grammar : Grammar) (name : String) : Option Parser := grammar.definitions.lookup name

/-- Follow a reference at most `depth` deep. -/
def resolve (grammar : Grammar) : (depth : Nat) → String → Cursor → Run Reply
  | 0, _, cursor => .raised .reference (.fault .endlessRecursion) cursor
  | depth + 1, name, cursor =>
    match grammar.find? name with
    | none => .raised .reference (.fault (.unknownName name)) cursor
    | some parser => parser.step (grammar.resolve depth) cursor

/-- How many pairs of a definition and a place there are from a cursor on, and one more, at which a
name without a definition is found missing. -/
def depthFrom (grammar : Grammar) (cursor : Cursor) : Nat :=
  grammar.definitions.length * (cursor.length + 1) + 1

def parse (grammar : Grammar) (parser : Parser) (cursor : Cursor) : Run Reply :=
  parser.step (grammar.resolve (grammar.depthFrom cursor)) cursor

/-- The value that was read and the symbols that are left. -/
structure Result where
  value : Value
  rest : Value

/-- Run a parser and tell of a mismatch of the whole. -/
def run (grammar : Grammar) (parser : Parser) (cursor : Cursor) : Outcome Result × List LogLine :=
  let run := grammar.parse parser cursor
  let lines := logLines run.history
  match run.ending with
  | .ok reply => (.ok ⟨reply.value, reply.cursor.remaining.toValue⟩, lines)
  | .error (.mismatch cause) =>
    let line := ⟨.parsers, parser.display ++ " failed: " ++ cause.message⟩
    (.error (.mismatch cause), lines ++ [line])
  | .error (.fault fault) => (.error (.fault fault), lines)

end Grammar

/-- Run a parser that refers to no definition on a whole source. -/
def Parser.run (parser : Parser) (source : Source) : Outcome Grammar.Result :=
  (Grammar.empty.run parser (.start source)).1

end CursorParsing
