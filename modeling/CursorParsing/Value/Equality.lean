import CursorParsing.Value

/-!
# Equality, truth and membership of values

Numbers of all kinds are equal when they are the same number. Sequences are equal when they are of
the same kind and their items are; the two kinds of octets count as one kind. Values have no identity,
so a function or a NaN is equal to nothing, not even to itself.
-/

namespace CursorParsing.Value

/-- The number that a value is, as a decimal of the same value; none for an infinity. -/
def exactNumber? : Value → Option Decimal
  | .bool truth => some (.ofInt (if truth then 1 else 0))
  | .int number => some (.ofInt number)
  | .float number => number.toDecimal?
  | .decimal number => some number
  | _ => none

def numericEqual (left right : Value) : Bool :=
  match left.exactNumber?, right.exactNumber? with
  | some leftNumber, some rightNumber => leftNumber.reduced == rightNumber.reduced
  | none, none =>
    match left, right with
    | .float (.infinite leftNegative), .float (.infinite rightNegative) =>
      leftNegative == rightNegative
    | _, _ => false
  | _, _ => false

mutual
def equal : Value → Value → Bool
  | .absent, .absent => true
  | .int left, .int right => left == right
  | .text left, .text right => left == right
  | .bytes left, .bytes right => left == right
  | .bytes left, .buffer right => left == right
  | .buffer left, .bytes right => left == right
  | .buffer left, .buffer right => left == right
  | .list left, .list right => equalItems left right
  | .tuple left, .tuple right => equalItems left right
  | .record leftName leftFields, .record rightName rightFields =>
    leftName == rightName && equalFields leftFields rightFields
  | left, right => numericEqual left right

def equalItems : List Value → List Value → Bool
  | [], [] => true
  | left :: leftRest, right :: rightRest => equal left right && equalItems leftRest rightRest
  | _, _ => false

def equalFields : List (String × Value) → List (String × Value) → Bool
  | [], [] => true
  | (leftName, left) :: leftRest, (rightName, right) :: rightRest =>
    leftName == rightName && equal left right && equalFields leftRest rightRest
  | _, _ => false
end

mutual
/-- Whether a value may be a member of a set: it holds nothing that can be changed in place. -/
def isHashable : Value → Bool
  | .list _ => false
  | .buffer _ => false
  | .tuple items => itemsHashable items
  | .record _ fields => fieldsHashable fields
  | _ => true

def itemsHashable : List Value → Bool
  | [] => true
  | item :: rest => isHashable item && itemsHashable rest

def fieldsHashable : List (String × Value) → Bool
  | [] => true
  | (_, value) :: rest => isHashable value && fieldsHashable rest
end

/-- Zero, the empty sequences and the absent value are false. -/
def isTrue : Value → Bool
  | .absent => false
  | .bool truth => truth
  | .int number => number != 0
  | .float number => !number.isZero
  | .decimal number => !number.isZero
  | .text characters => !characters.isEmpty
  | .bytes octets | .buffer octets => !octets.isEmpty
  | .list items | .tuple items => !items.isEmpty
  | .record .. | .function _ => true

def isMember (value : Value) (members : List Value) : Bool := members.any (equal value)

example : equal (.bool true) (.decimal ⟨false, 10, -1⟩) = true := by decide +kernel
example : equal (.list [.int 1]) (.tuple [.int 1]) = false := by decide +kernel
example : equal (.bytes [1]) (.buffer [1]) = true := by decide +kernel
example : isHashable (.tuple [.int 1, .list []]) = false := by decide +kernel

/-! ## Tests of symbols -/

/-- The one character of a text of one character. -/
def character? : Value → Option Char
  | .text [character] => some character
  | _ => none

def isAsciiDigit (symbol : Value) : Bool := symbol.character?.any Char.isDigit

def isAsciiUpper (symbol : Value) : Bool := symbol.character?.any Char.isUpper

/-- Whether a symbol lies between two numbers: an integer by its value, a character by its code
point. -/
def isBetween (least greatest : Int) (symbol : Value) : Bool :=
  match symbol.integer?, symbol.character? with
  | some number, _ => least ≤ number && number ≤ greatest
  | none, some character => least ≤ character.toNat && (character.toNat : Int) ≤ greatest
  | none, none => false

end CursorParsing.Value
