import CursorParsing.Value.Equality
import CursorParsing.Error

/-!
# Calculating with values

What the operations and transforms give. A value of a kind that an operation does not know is a type
mismatch, which is a fault: no recovery absorbs it.
-/

namespace CursorParsing

open Number

abbrev Outcome := Except Error

namespace Value

/-- The value of a binary number; an integer that is too great for one is an overflow. -/
def binaryOutcome : Option Binary64 → Outcome Value
  | some number => .ok (.float number)
  | none => .error (.fault .binaryOverflow)

/-- The value of a decimal; a result that is too great for one is an overflow. -/
def decimalOutcome : Option Decimal → Outcome Value
  | some number => .ok (.decimal number)
  | none => .error (.fault .decimalOverflow)

/-- Integers and truth values count exactly; with a binary number the sum is binary and with a decimal
it is decimal, but a binary and a decimal do not add. An integer is rounded to a binary number before it
is added to one, and if it is too great for that the sum overflows, even where the other is infinite. -/
def addNumbers (left right : Value) : Outcome Value :=
  match left, right with
  | .decimal leftNumber, .decimal rightNumber => decimalOutcome (leftNumber.add? rightNumber)
  | .float leftNumber, .float rightNumber => .ok (.float (leftNumber.add rightNumber))
  | .decimal leftNumber, other =>
    match other.integer? with
    | some number => decimalOutcome (leftNumber.add? (.ofInt number))
    | none => .error .typeMismatch
  | .float leftNumber, other =>
    match other.integer? with
    | some number => binaryOutcome ((Binary64.ofInt? number).map leftNumber.add)
    | none => .error .typeMismatch
  | other, .decimal rightNumber =>
    match other.integer? with
    | some number => decimalOutcome (Decimal.add? (.ofInt number) rightNumber)
    | none => .error .typeMismatch
  | other, .float rightNumber =>
    match other.integer? with
    | some number => binaryOutcome ((Binary64.ofInt? number).map (Binary64.add · rightNumber))
    | none => .error .typeMismatch
  | left, right =>
    match left.integer?, right.integer? with
    | some leftNumber, some rightNumber => .ok (.int (leftNumber + rightNumber))
    | _, _ => .error .typeMismatch

/-- Numbers are summed and sequences of one kind joined. Joined octets are of the kind of the left
operand. -/
def add (left right : Value) : Outcome Value :=
  match left, right with
  | .text leftCharacters, .text rightCharacters => .ok (.text (leftCharacters ++ rightCharacters))
  | .list leftItems, .list rightItems => .ok (.list (leftItems ++ rightItems))
  | .tuple leftItems, .tuple rightItems => .ok (.tuple (leftItems ++ rightItems))
  | .bytes leftOctets, .bytes rightOctets
  | .bytes leftOctets, .buffer rightOctets => .ok (.bytes (leftOctets ++ rightOctets))
  | .buffer leftOctets, .bytes rightOctets
  | .buffer leftOctets, .buffer rightOctets => .ok (.buffer (leftOctets ++ rightOctets))
  | left, right => addNumbers left right

/-- Combine two integers; truth values count as integers. -/
def onIntegers (combine : Int → Int → Int) (left right : Value) : Outcome Value :=
  match left.integer?, right.integer? with
  | some leftNumber, some rightNumber => .ok (.int (combine leftNumber rightNumber))
  | _, _ => .error .typeMismatch

/-- The greater of two integers; of two equal ones the left one. -/
def maximum (left right : Value) : Outcome Value :=
  match left.integer?, right.integer? with
  | some leftNumber, some rightNumber => .ok (if rightNumber > leftNumber then right else left)
  | _, _ => .error .typeMismatch

def operatorNamed? : List Char → Option (Int → Int → Int)
  | ['+'] => some (· + ·)
  | ['-'] => some (· - ·)
  | ['*'] => some (· * ·)
  | _ => none

/-- Combine two integers by the operator that a value names. The operator is looked up before the
operands are examined. -/
def calculate (left operator right : Value) : Outcome Value :=
  if !operator.isHashable then .error .typeMismatch
  else
    match operator.text?.bind operatorNamed? with
    | some combine => onIntegers combine left right
    | none => .error (.fault (.unknownName operator.plain))

/-! ## Unary transforms -/

def items? : Value → Option (List Value)
  | .list items | .tuple items => some items
  | _ => none

/-- The symbols of a sequence that cannot be changed in place or is a list. -/
def countedSymbols? : Value → Option (List Value)
  | .buffer _ => none
  | value => value.symbols?

/-- An answer where there is one, and a type mismatch where there is none. -/
def orTypeMismatch {α : Type} : Option α → Outcome α
  | some answer => .ok answer
  | none => .error .typeMismatch

def joinTexts (items : List Value) : Outcome (List Char) :=
  orTypeMismatch ((items.mapM text?).map List.flatten)

/-- The joined text of the symbols of a sequence. -/
def joinSymbols (value : Value) : Outcome (List Char) := do
  joinTexts (← orTypeMismatch value.symbols?)

/-- The text that shows a value. -/
def toText (value : Value) : Outcome Value :=
  if value.isWritable then .ok (.text value.write) else .error (.fault .integerTooLong)

/-- The integer that a text writes, however many digits it has. -/
def toInteger : Value → Outcome Value
  | .text characters =>
    match readInteger? characters with
    | some number => .ok (.int number)
    | none => .error (.fault .notAnInteger)
  | _ => .error .typeMismatch

/-- The number of digits in a text; leading zeros count. -/
def writtenDigits : Value → Nat
  | .text characters => characters.countP Char.isDigit
  | _ => 0

/-- The integer that a text of at most `integerDigitLimit` digits writes. What is no integer is
told before the number of its digits. -/
def toLimitedInteger (value : Value) : Outcome Value := do
  let number ← value.toInteger
  if value.writtenDigits > integerDigitLimit then
    .error (.fault (.tooManyDigits value.writtenDigits))
  else return number

def sum (value : Value) : Outcome Value := do
  let numbers ← orTypeMismatch (value.items?.bind (·.mapM integer?))
  return .int (numbers.foldl (· + ·) 0)

/-- A truth value is no octet. -/
def octet? : Value → Option UInt8
  | .int number => if 0 ≤ number ∧ number ≤ 255 then some (UInt8.ofNat number.toNat) else none
  | _ => none

def toBytes (value : Value) : Outcome Value := do
  let octets ← orTypeMismatch (value.items?.bind (·.mapM octet?))
  return .bytes octets

def first : Value → Outcome Value
  | .text (character :: _) => .ok (.ofChar character)
  | .list (item :: _) | .tuple (item :: _) => .ok item
  | .text [] | .list [] | .tuple [] => .error (.fault .outOfRange)
  | _ => .error .typeMismatch

def negate : Value → Outcome Value
  | .bool truth => .ok (.int (if truth then -1 else 0))
  | .int number => .ok (.int (-number))
  | .float number => .ok (.float number.neg)
  | .decimal number => decimalOutcome number.neg?
  | _ => .error .typeMismatch

def increment (value : Value) : Outcome Value := do
  let number ← orTypeMismatch value.integer?
  return .int (number + 1)

/-- Only the letters of ASCII have a capital form here. -/
def upper : Value → Outcome Value
  | .text characters => .ok (.text (characters.map Char.toUpper))
  | _ => .error .typeMismatch

def length (value : Value) : Outcome Value := do
  let symbols ← orTypeMismatch value.countedSymbols?
  return .int symbols.length

def reverse : Value → Outcome Value
  | .text characters => .ok (.text characters.reverse)
  | .bytes octets => .ok (.bytes octets.reverse)
  | .list items => .ok (.list items.reverse)
  | .tuple items => .ok (.tuple items.reverse)
  | _ => .error .typeMismatch

end Value

/-! ## The named operations and transforms -/

namespace Operation

def apply (operation : Operation) (left right : Value) : Outcome Value :=
  match operation with
  | .add => left.add right
  | .flipAdd => right.add left
  | .pair => .ok (.tuple [left, right])
  | .flipPair => .ok (.tuple [right, left])
  | .left => .ok left
  | .right => .ok right
  | .multiply => Value.onIntegers (· * ·) left right
  | .subtract => Value.onIntegers (· - ·) left right
  | .maximum => left.maximum right
  | .complain complaint => .error complaint.toError

end Operation

namespace Transform

def apply (transform : Transform) (value : Value) : Outcome Value :=
  match transform with
  | .identity => .ok value
  | .join => do
    let items ← Value.orTypeMismatch value.items?
    return .text (← Value.joinTexts items)
  | .toInteger => value.toLimitedInteger
  | .sum => value.sum
  | .toBytes => value.toBytes
  | .first => value.first
  | .negate => value.negate
  | .increment => value.increment
  | .upper => value.upper
  | .length => value.length
  | .reverse => value.reverse
  | .toList => return .list (← Value.orTypeMismatch value.countedSymbols?)
  | .toTuple => return .tuple (← Value.orTypeMismatch value.countedSymbols?)
  | .pair => .ok (.tuple [value, value])
  | .wrap => .ok (.list [value])
  | .display => value.toText
  | .constant answer => .ok answer
  | .complain complaint => .error complaint.toError
  | .curried operation => .ok (.function (.applied operation value))
  | .applied operation left => operation.apply left value

end Transform

def Value.call (function argument : Value) : Outcome Value :=
  match function with
  | .function transform => transform.apply argument
  | _ => .error .typeMismatch

end CursorParsing
