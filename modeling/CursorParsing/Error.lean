import CursorParsing.Value.Display

/-!
# Errors

Every error is kept as its cause; the wording is chosen in one place, when it is shown.
-/

namespace CursorParsing

/-- Why an input is not what a parser reads. Each cause carries the snippet of the input at the place
of the mismatch. -/
inductive Mismatch where
  | predicateFailed (found : List Char)
  | expectedPrefix (literal : Value) (found : List Char)
  | expectedEndOfInput (found : List Char)
  | repetitionShort (requested : Value) (achieved : Nat) (collected : List Value)
      (remainder : List Char)
  | invalidNumber (text : List Char)
  | invalidDecimal (text : List Char) (localeCode : String) (reason : String)
  | stated (message : String)

inductive Fault where
  | negativePosition (position : Int)
  | negativeAdvance (count : Int)
  | negativeRepetition (times : Value)
  | noAlternatives
  | unknownLocale (code : String)
  | notAnInteger
  | tooManyDigits (count : Nat)
  /-- An integer has too many digits to be written. -/
  | integerTooLong
  | pastTheEnd (position : Nat)
  | unknownName (name : String)
  | typeMismatch
  | outOfRange
  /-- An integer is too great for a finite binary number. -/
  | binaryOverflow
  /-- The result of decimal arithmetic is too great. -/
  | decimalOverflow
  | frozenField (name : String)
  | localeDataMissing (feature : String)
  /-- A definition that calls itself again at the place where it is being read. -/
  | endlessRecursion
  | stated (kind : FaultKind) (message : String)

inductive Error where
  | mismatch (cause : Mismatch)
  | fault (cause : Fault)

namespace Value

/-- A literal as messages show it: a text or octets as they are, other sequences as a list. -/
def shownLiteral : Value → Value
  | .buffer octets => .bytes octets
  | .tuple items => .list items
  | literal => literal

end Value

namespace Mismatch

open Text

def message : Mismatch → String
  | .predicateFailed found => "Predicate failed, found " ++ String.ofList (quoted found)
  | .expectedPrefix literal found =>
    "Expected prefix " ++ literal.shownLiteral.display ++ " but found " ++
      String.ofList (quoted found)
  | .expectedEndOfInput found =>
    "Expected end of input but found " ++ String.ofList (quoted found)
  | .repetitionShort requested achieved collected remainder =>
    "Did not consume " ++ requested.plain ++ " items, consumed " ++ toString achieved ++ ": " ++
      (Value.list collected).display ++ ", " ++ String.ofList remainder
  | .invalidNumber text =>
    "Could not interpret " ++ String.ofList (quoted text) ++ " as a number"
  | .invalidDecimal text localeCode reason =>
    "Could not interpret " ++ String.ofList (quoted text) ++ " as a decimal for locale " ++
      quotedString localeCode ++ ": " ++ reason
  | .stated message => message

/-- Whether all that the message of a mismatch shows can be written. -/
def isWritable : Mismatch → Bool
  | .expectedPrefix literal _ => literal.shownLiteral.isWritable
  | .repetitionShort requested _ collected _ =>
    requested.isWritable && (Value.list collected).isWritable
  | _ => true

/-- The error that tells of a mismatch. The message is made at once, and if it cannot be written that
is a fault, and nothing is told of the mismatch. -/
def toError (cause : Mismatch) : Error :=
  if cause.isWritable then .mismatch cause else .fault .integerTooLong

end Mismatch

namespace Fault

open Text

def kind : Fault → FaultKind
  | .negativePosition _ | .negativeAdvance _ | .negativeRepetition _ | .noAlternatives
  | .unknownLocale _ | .notAnInteger | .tooManyDigits _ | .integerTooLong => .badValue
  | .pastTheEnd _ => .endOfInput
  | .unknownName _ => .missingKey
  | .typeMismatch => .typeMismatch
  | .outOfRange => .outOfRange
  | .binaryOverflow => .binaryOverflow
  | .decimalOverflow => .decimalOverflow
  | .frozenField _ => .frozenField
  | .localeDataMissing _ => .missingDependency
  | .endlessRecursion => .recursion
  | .stated kind _ => kind

def digitLimitExceeded : String :=
  "Exceeds the limit (" ++ toString Value.integerDigitLimit ++
    " digits) for integer string conversion"

def digitLimitAdvice : String := "; use sys.set_int_max_str_digits() to increase the limit"

def message : Fault → String
  | .negativePosition position => "Cursor position must be >= 0, got " ++ toString position
  | .negativeAdvance count => "Advance count must be >= 0, got " ++ toString count
  | .negativeRepetition times => "Repetition count must be >= 0, got " ++ times.plain
  | .noAlternatives => "choice() requires at least one parser"
  | .unknownLocale code => "Unknown locale " ++ quotedString code
  | .notAnInteger => "bad int"
  | .tooManyDigits count =>
    digitLimitExceeded ++ ": value has " ++ toString count ++ " digits" ++ digitLimitAdvice
  | .integerTooLong => digitLimitExceeded ++ digitLimitAdvice
  | .pastTheEnd position => "Unexpected EOF at position " ++ toString position
  | .unknownName name => name
  | .frozenField name => "cannot assign to field " ++ quotedString name
  | .localeDataMissing feature =>
    feature ++ " requires Babel for CLDR locale data. " ++
      "Install with: pip install parsecraft[babel]"
  | .stated _ message => message
  | .typeMismatch | .outOfRange | .binaryOverflow | .decimalOverflow | .endlessRecursion => ""

/-- Whether the number that a message refuses can be written. -/
def isWritable : Fault → Bool
  | .negativePosition number | .negativeAdvance number => (Value.int number).isWritable
  | .negativeRepetition times => times.isWritable
  | _ => true

/-- The fault that comes of telling a fault. -/
def told (fault : Fault) : Fault := if fault.isWritable then fault else .integerTooLong

end Fault

namespace Error

def typeMismatch : Error := .fault .typeMismatch

end Error

def Complaint.toError : Complaint → Error
  | .mismatch message => .mismatch (.stated message)
  | .fault kind message => .fault (.stated kind message)

end CursorParsing
