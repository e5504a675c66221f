import CursorParsing.Value
import CursorParsing.Number.Power
import CursorParsing.Text.Quoted
import CursorParsing.Number.Binary64.Shortest

/-!
# Showing values

The text of a value in messages and logs. A text is quoted wherever it stands inside another value
or is shown as a value; `plain` shows a text or a decimal as it is. A value that holds an integer of
too many digits cannot be shown: `write` is its text only where `isWritable` says so.
-/

namespace CursorParsing.Value

open Text

def writeInteger (number : Int) : List Char :=
  if number < 0 then '-' :: Number.digits number.natAbs else Number.digits number.natAbs

/-- Parts with a comma and a space between them. -/
def separated : List (List Char) → List Char
  | [] => []
  | [part] => part
  | part :: rest => part ++ ',' :: ' ' :: separated rest

mutual
def write : Value → List Char
  | .absent => "None".toList
  | .bool truth => if truth then "True".toList else "False".toList
  | .int number => writeInteger number
  | .float number => number.write
  | .decimal number => "Decimal('".toList ++ number.write ++ "')".toList
  | .text characters => quoted characters
  | .bytes octets => quotedOctets octets
  | .buffer octets => "bytearray(".toList ++ quotedOctets octets ++ [')']
  | .list items => '[' :: separated (writeItems items) ++ [']']
  | .tuple [] => ['(', ')']
  | .tuple [item] => '(' :: write item ++ [',', ')']
  | .tuple items => '(' :: separated (writeItems items) ++ [')']
  | .record name fields => name.toList ++ '(' :: separated (writeFields fields) ++ [')']
  | .function transform => "<fn ".toList ++ transform.name.toList ++ ['>']

def writeItems : List Value → List (List Char)
  | [] => []
  | item :: rest => write item :: writeItems rest

def writeFields : List (String × Value) → List (List Char)
  | [] => []
  | (name, value) :: rest => (name.toList ++ '=' :: write value) :: writeFields rest
end

def display (value : Value) : String := String.ofList value.write

def plain : Value → String
  | .text characters => String.ofList characters
  | .decimal number => String.ofList number.write
  | value => value.display

/-! ## Values that can be written -/

/-- How many digits an integer may have to be written or to be read. -/
def integerDigitLimit : Nat := 4300

mutual
/-- Whether no integer that a value shows has more than `integerDigitLimit` digits. -/
def isWritable : Value → Bool
  | .int number => number.natAbs < Number.power 10 integerDigitLimit
  | .list items | .tuple items => itemsWritable items
  | .record _ fields => fieldsWritable fields
  | _ => true

def itemsWritable : List Value → Bool
  | [] => true
  | item :: rest => isWritable item && itemsWritable rest

def fieldsWritable : List (String × Value) → Bool
  | [] => true
  | (_, value) :: rest => isWritable value && fieldsWritable rest
end

theorem itemsWritable_eq_all (items : List Value) : itemsWritable items = items.all isWritable := by
  induction items with
  | nil => rfl
  | cons item rest induction => rw [itemsWritable, induction, List.all_cons]

@[simp] theorem isWritable_list (items : List Value) :
    (Value.list items).isWritable = items.all isWritable := itemsWritable_eq_all items

@[simp] theorem isWritable_ofChar (character : Char) : (ofChar character).isWritable = true := rfl

@[simp] theorem isWritable_ofOctet (octet : UInt8) : (ofOctet octet).isWritable = true := by
  have small : octet.toNat < Number.power 10 3 := Nat.lt_trans octet.toNat_lt (by decide)
  have below {limit : Nat} (atLeast : 3 ≤ limit) : Number.power 10 3 ≤ Number.power 10 limit :=
    Nat.pow_le_pow_right (by decide) (by simpa using atLeast)
  rw [ofOctet, isWritable, Int.natAbs_natCast, decide_eq_true_eq]
  exact Nat.lt_of_lt_of_le small (below (by decide))

example : isWritable (.tuple [.int (Number.power 10 4300 - 1)]) = true := by decide +kernel
example : isWritable (.tuple [.int (Number.power 10 4300)]) = false := by decide +kernel

end CursorParsing.Value
