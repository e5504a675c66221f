/-!
# Complaints

Errors come in two sorts. A mismatch says that the input is not what a parser reads, and recovery
(choice, fallback, repetition) absorbs it. A fault says that something else is wrong, and nothing
absorbs it. A complaint is an error of either sort in the words of whoever raises it.
-/

namespace CursorParsing

inductive FaultKind where
  /-- An error of this library that is none of the others, and no mismatch either. -/
  | general
  | badValue
  | missingKey
  | runtime
  | endOfInput
  | typeMismatch
  | outOfRange
  | binaryOverflow
  | decimalOverflow
  | frozenField
  | missingDependency
  | recursion
deriving DecidableEq, Repr

/-- Faults of these kinds are told by their kind alone. -/
def FaultKind.isWordless : FaultKind → Bool
  | .typeMismatch | .outOfRange | .binaryOverflow | .decimalOverflow | .recursion => true
  | _ => false

inductive Complaint where
  | mismatch (message : String)
  | fault (kind : FaultKind) (message : String)
deriving DecidableEq, Repr

end CursorParsing
