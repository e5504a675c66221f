import CursorParsing.ContactCard
import CursorParsing.Demonstration.Layout
import CursorParsing.Parser.Double

/-!
# Demonstration: contact cards

A small grammar, choice and recovery, and what mismatches say.
-/

namespace CursorParsing.Demonstration.ContactCards

open CursorParsing.Parser

def sampleCards : String :=
  "McPerson,John Jr.;555-123-9090\nSt. Personson,Alicia;555-789-1111\n"

/-- A card on one line, the first name in front. -/
def describe (card : ContactCard) : String :=
  String.ofList card.person.firstName ++ " " ++ String.ofList card.person.lastName ++ ": " ++
    String.ofList card.phoneNumber

def cardLines : List String :=
  match runOn (.zeroOrMore ContactCard.parser) sampleCards with
  | .ok result =>
    let cards := (result.value.items?.getD []).filterMap ContactCard.ofValue?
    cards.map describe ++ ["Remaining input: " ++ result.rest.display]
  | failure => [showResult failure]

def unit : Parser := choice (word ['k', 'g']) [word ['g'], word ['l', 'b']]

/-- A number and its unit, which is the kilogram if none is given. -/
def weight : Parser :=
  lift2 (fun number unit => .ok (.tuple [number, unit])) double (unit.fallback (.ofString "kg"))

def recoveryLines : List String :=
  (["12.5kg", "300g", "7"].map fun text =>
      padded 10 (Text.quotedString text) ++ " -> " ++ showResult (runOn weight text)) ++
    ["'-5' negated? " ++ showValue (runOn (word ['-']).asBool "-5")]

/-- What a parser says of a text that it does not match; nothing if it does. -/
def mismatchLine? (parser : Parser) (text : String) : Option String :=
  match runOn parser text with
  | .error (.mismatch cause) => some (parser.display ++ ": " ++ cause.message)
  | _ => none

def mismatchLines : List String :=
  [(lexeme (.ofString "let"), "var x = 1"),
    (Parser.repeated (.literal (.ofString "blob")) (.ofNat 4), "blobblobblob foo"),
    (double, "..00")].filterMap fun sample => mismatchLine? sample.1 sample.2

def lines : List String :=
  ["", "parsecraft Core Examples", ""] ++
    headed 1 "Contact Cards" cardLines ++
    headed 2 "Choice and Recovery" recoveryLines ++
    headed 3 "Failure Messages" mismatchLines ++
    [rule, "All examples completed successfully!", rule]

def output : String := printed lines

end CursorParsing.Demonstration.ContactCards
