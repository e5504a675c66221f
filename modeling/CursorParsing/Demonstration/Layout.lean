import CursorParsing.Grammar

/-!
# How the demonstrations are laid out
-/

namespace CursorParsing.Demonstration

def rule : String := String.ofList (List.replicate 60 '=')

/-- A numbered section: a heading between rules, its lines, and an empty line. -/
def headed (number : Nat) (title : String) (lines : List String) : List String :=
  [rule, "Example " ++ toString number ++ ": " ++ title, rule] ++ lines ++ [""]

def padded (width : Nat) (text : String) : String :=
  text ++ String.ofList (List.replicate (width - text.length) ' ')

/-- The lines as printed, each with its line end. -/
def printed (lines : List String) : String := String.join (lines.map (· ++ "\n"))

/-- A value and the rest of the input, as the pair of the two. -/
def showResult : Outcome Grammar.Result → String
  | .ok result => (Value.tuple [result.value, result.rest]).display
  | .error (.mismatch cause) => cause.message
  | .error (.fault cause) => cause.message

def runOn (parser : Parser) (text : String) : Outcome Grammar.Result :=
  parser.run (.text text.toList.toArray)

/-- The text of the value that a parser gives, as it is. -/
def showValue (outcome : Outcome Grammar.Result) : String :=
  match outcome with
  | .ok result => result.value.plain
  | failure => showResult failure

end CursorParsing.Demonstration
