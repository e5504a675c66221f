import CursorParsing.Parser

/-!
# Combinators

All of them are made of the constructors. A sequencing combinator runs its parsers from left to right
and passes on the first error; only choice and the recoveries absorb a mismatch.
-/

namespace CursorParsing.Parser

/-! ## Answers -/

def fail (message : String) : Parser := .raise (.mismatch (.stated message))

/-- Gives the value, or raises the error, of a calculation. -/
def ofOutcome : Outcome Value → Parser
  | .ok value => .pure value
  | .error error => .raise error

/-- The parser that a construction yields. Where it fails, the parser raises the fault when it is
run. -/
def ofConstruction : Except Fault Parser → Parser
  | .ok parser => parser
  | .error fault => .raise (.fault fault)

def map (transform : Value → Outcome Value) (inner : Parser) : Parser :=
  .flatMap inner fun value => ofOutcome (transform value)

/-! ## Sequencing -/

/-- Apply the function that the first parser gives to the value of the second. -/
def apply (function argument : Parser) : Parser :=
  .flatMap function fun transform => argument.map transform.call

/-- Run both and keep the second value. -/
def keepRight (first second : Parser) : Parser := .flatMap first fun _ => second

/-- Run both and keep the first value. -/
def keepLeft (first second : Parser) : Parser :=
  .flatMap first fun value => second.map fun _ => .ok value

def between (opening closing inner : Parser) : Parser := (opening.keepRight inner).keepLeft closing

def lift2 (combine : Value → Value → Outcome Value) (first second : Parser) : Parser :=
  .flatMap first fun left => second.map fun right => combine left right

def lift3 (combine : Value → Value → Value → Outcome Value) (first second third : Parser) : Parser :=
  .flatMap first fun left => .flatMap second fun middle => third.map fun right =>
    combine left middle right

/-- Run parsers after some values were collected, the last of them first. -/
def sequenceAfter (collected : List Value) : List Parser → Parser
  | [] => .pure (.tuple collected.reverse)
  | parser :: rest => .flatMap parser fun value => sequenceAfter (value :: collected) rest

/-- Run parsers in order and give the tuple of their values. -/
def sequence (parsers : List Parser) : Parser := sequenceAfter [] parsers

/-- Combine the values of parsers from the left, beginning with a value that no parser gave. -/
def concat (combine : Value → Value → Outcome Value) (identity : Value) (parsers : List Parser) :
    Parser :=
  parsers.foldl (lift2 combine) (.pure identity)

/-! ## Choice and recovery -/

/-- The first of the alternatives that matches, each tried from the same place. -/
def choice (first : Parser) (rest : List Parser) : Parser := rest.foldl .orElse first

def choice? : List Parser → Except Fault Parser
  | [] => .error .noAlternatives
  | first :: rest => .ok (choice first rest)

/-- Give a value instead of a mismatch, and read nothing then. -/
def fallback (default : Value) (inner : Parser) : Parser := .orElse inner (.pure default)

def asTrue (inner : Parser) : Parser := inner.map fun _ => .ok (.bool true)

def asFalse (inner : Parser) : Parser := inner.map fun _ => .ok (.bool false)

def asBool (inner : Parser) : Parser := inner.asTrue.fallback (.bool false)

/-- The parser of the first case that is equal to a value. -/
def switch (cases : List (Value × Parser)) (otherwise : Parser) (value : Value) : Parser :=
  match cases.find? fun entry => entry.1.equal value with
  | some entry => entry.2
  | none => otherwise

/-! ## Repetition -/

/-- The count must be a number and not negative. -/
def repeated? (inner : Parser) (times : Value) : Except Fault Parser :=
  (Count.ofValue? times).map (.repeated inner)

def once (inner : Parser) : Parser := .repeated inner (.ofNat 1)

/-! ## Diagnostics -/

/-- Trace under a label, or else under the parser's name, if it has one. -/
def tracedAs (label : Option String) (inner : Parser) : Parser :=
  let candidates := [label.getD "", inner.name]
  .traced ((candidates.find? fun candidate => !candidate.isEmpty).getD "parser") inner

end CursorParsing.Parser
