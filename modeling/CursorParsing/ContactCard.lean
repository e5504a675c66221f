import CursorParsing.Parser.Symbols

/-!
# Contact cards

A card is written on a line as last name, comma, first name, semicolon and phone number. Line ends
after it, as many as there are, belong to it.
-/

namespace CursorParsing

structure Person where
  firstName : List Char
  lastName : List Char
deriving DecidableEq, Repr

structure ContactCard where
  person : Person
  phoneNumber : List Char
deriving DecidableEq, Repr

namespace Person

def toValue (person : Person) : Value :=
  .record "Person" [("first_name", .text person.firstName), ("last_name", .text person.lastName)]

def ofValue? : Value → Option Person
  | .record "Person" [("first_name", .text firstName), ("last_name", .text lastName)] =>
    some ⟨firstName, lastName⟩
  | _ => none

end Person

namespace ContactCard

def toValue (card : ContactCard) : Value :=
  .record "ContactCard"
    [("person", card.person.toValue), ("phone_number", .text card.phoneNumber)]

def ofValue? : Value → Option ContactCard
  | .record "ContactCard" [("person", person), ("phone_number", .text phoneNumber)] =>
    (Person.ofValue? person).map (⟨·, phoneNumber⟩)
  | _ => none

theorem ofValue?_toValue (card : ContactCard) : ofValue? card.toValue = some card := rfl

/-- A card on its line, without the line end. -/
def write (card : ContactCard) : List Char :=
  card.person.lastName ++ ',' :: card.person.firstName ++ ';' :: card.phoneNumber

/-! ## The grammar -/

/-- The characters that end a name. -/
def nameEnds : List Char := [',', ';', '\n']

def phoneCharacters : List Char :=
  ['1', '2', '3', '4', '5', '6', '7', '8', '9', '0', '-']

def phoneLength : Nat := 12

/-- Make a record of two values, in this order. -/
def recordOf (name firstField secondField : String) (first second : Value) : Value :=
  .record name [(firstField, first), (secondField, second)]

def nameParser : Parser := (Parser.zeroOrMore (Parser.noCharOf nameEnds)).map Transform.join.apply

def personParser : Parser :=
  Parser.lift2
    (fun lastName firstName => .ok (recordOf "Person" "first_name" "last_name" firstName lastName))
    (nameParser.keepLeft (Parser.word [','])) nameParser

def phoneParser : Parser :=
  (Parser.repeated (Parser.oneCharOf phoneCharacters) (.ofNat phoneLength)).map Transform.join.apply

def parser : Parser :=
  Parser.lift2
    (fun person phoneNumber =>
      .ok (recordOf "ContactCard" "person" "phone_number" person phoneNumber))
    (personParser.keepLeft (Parser.word [';']))
    (phoneParser.keepLeft (.zeroOrMore (Parser.word ['\n'])))

end ContactCard

end CursorParsing
