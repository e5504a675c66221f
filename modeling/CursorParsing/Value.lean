import CursorParsing.Number.Binary64
import CursorParsing.Complaint

/-!
# Values

What parsers read and what they give. A symbol is a value too: a text is read as texts of one
character, octets are read as integers, and the items of a list or a tuple may be anything. A value
may also be a function, which is then one of the named transforms.
-/

namespace CursorParsing

/-- Ways to make one value of two. -/
inductive Operation where
  | add
  | flipAdd
  | pair
  | flipPair
  | left
  | right
  | multiply
  | subtract
  | maximum
  | complain (complaint : Complaint)
deriving DecidableEq, Repr

mutual
inductive Value where
  | absent
  | bool (truth : Bool)
  | int (number : Int)
  | float (number : Binary64)
  | decimal (number : Decimal)
  | text (characters : List Char)
  | bytes (octets : List UInt8)
  /-- Octets that may be changed in place; they differ from `bytes` in being no member of a set. -/
  | buffer (octets : List UInt8)
  | list (items : List Value)
  | tuple (items : List Value)
  | record (name : String) (fields : List (String × Value))
  | function (transform : Transform)

/-- Ways to make one value of another. -/
inductive Transform where
  | identity
  | join
  | toInteger
  | sum
  | toBytes
  | first
  | negate
  | increment
  | upper
  | length
  | reverse
  | toList
  | toTuple
  | pair
  | wrap
  | display
  | constant (value : Value)
  | complain (complaint : Complaint)
  /-- Waits for the first operand, and gives a function of the second. -/
  | curried (operation : Operation)
  | applied (operation : Operation) (first : Value)
end

instance : Inhabited Value := ⟨.absent⟩

namespace Operation

def name : Operation → String
  | .add => "add"
  | .flipAdd => "flip_add"
  | .pair => "pair"
  | .flipPair => "flip_pair"
  | .left => "left"
  | .right => "right"
  | .multiply => "mul"
  | .subtract => "sub"
  | .maximum => "max"
  | .complain _ => "raise"

/-- The operations that have a name of their own. -/
def all : List Operation :=
  [.add, .flipAdd, .pair, .flipPair, .left, .right, .multiply, .subtract, .maximum]

def named? (name : String) : Option Operation :=
  all.find? fun operation => operation.name == name

end Operation

namespace Transform

def name : Transform → String
  | .identity => "id"
  | .join => "join"
  | .toInteger => "int"
  | .sum => "sum"
  | .toBytes => "bytes"
  | .first => "first"
  | .negate => "neg"
  | .increment => "inc"
  | .upper => "upper"
  | .length => "len"
  | .reverse => "reverse"
  | .toList => "list"
  | .toTuple => "tuple"
  | .pair => "pair"
  | .wrap => "wrap"
  | .display => "repr"
  | .constant _ => "const"
  | .complain _ => "raise"
  | .curried operation => "curry:" ++ operation.name
  | .applied operation _ => operation.name ++ "/1"

/-- The transforms that take their name from no other thing. -/
def all : List Transform :=
  [.identity, .join, .toInteger, .sum, .toBytes, .first, .negate, .increment, .upper, .length,
    .reverse, .toList, .toTuple, .pair, .wrap, .display] ++ Operation.all.map .curried

def named? (name : String) : Option Transform :=
  all.find? fun transform => transform.name == name

end Transform

namespace Value

def ofString (contents : String) : Value := .text contents.toList

/-- A text of one character, which is how the characters of a text are read. -/
def ofChar (character : Char) : Value := .text [character]

def ofOctet (octet : UInt8) : Value := .int octet.toNat

/-- The symbols of a sequence: the one-character texts of a text, the integers of octets, the items
of a list or a tuple. -/
def symbols? : Value → Option (List Value)
  | .text characters => some (characters.map ofChar)
  | .bytes octets | .buffer octets => some (octets.map ofOctet)
  | .list items | .tuple items => some items
  | _ => none

def text? : Value → Option (List Char)
  | .text characters => some characters
  | _ => none

/-- An integer, or a truth value counted as one. -/
def integer? : Value → Option Int
  | .bool truth => some (if truth then 1 else 0)
  | .int number => some number
  | _ => none

end Value

end CursorParsing
