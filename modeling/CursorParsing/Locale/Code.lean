/-!
# Locale codes

A code names a language and then, if it goes on, a script, a territory and a variant, in this order and
with low lines between them. What follows a full stop or an at sign says nothing about the locale, and
neither does the case of letters.
-/

namespace CursorParsing

/-- The parts of a locale code in the case that is usual for each; a part that is not there is empty. -/
structure LocaleCode where
  language : List Char
  script : List Char
  territory : List Char
  variant : List Char
deriving DecidableEq, Repr

namespace LocaleCode

def isScript (part : List Char) : Bool := part.length == 4 && part.all Char.isAlpha

def isTerritory (part : List Char) : Bool :=
  (part.length == 2 && part.all Char.isAlpha) || (part.length == 3 && part.all Char.isDigit)

def isVariant (part : List Char) : Bool :=
  (part.length == 4 && part.head?.any Char.isDigit) || (5 ≤ part.length && part.head?.any Char.isAlpha)

/-- The first of some parts if it is of a kind, or else an empty part, and the parts that are left. -/
def takePart (isOfKind : List Char → Bool) : List (List Char) → List Char × List (List Char)
  | [] => ([], [])
  | part :: later => if isOfKind part then (part, later) else ([], part :: later)

/-- A script begins with a capital letter. -/
def capitalized : List Char → List Char
  | [] => []
  | first :: later => first.toUpper :: later.map Char.toLower

/-- The parts of a code; none if it names no language or has a part that is out of place. -/
def parse? (code : List Char) : Option LocaleCode :=
  match (code.takeWhile fun character => character != '@' && character != '.').splitOn '_' with
  | [] => none
  | language :: parts =>
    let (script, parts) := takePart isScript parts
    let (territory, parts) := takePart isTerritory parts
    let (variant, parts) := takePart isVariant parts
    if language ≠ [] ∧ language.all Char.isAlpha ∧ parts = [] then
      some ⟨language.map Char.toLower, capitalized script, territory.map Char.toUpper,
        variant.map Char.toUpper⟩
    else none

/-- The parts that are there, with low lines between them. -/
def identifier (code : LocaleCode) : List Char :=
  ['_'].intercalate
    ([code.language, code.script, code.territory, code.variant].filter (!·.isEmpty))

example : (parse? "EN_latn_us.UTF_8".toList).map (·.identifier) = some "en_Latn_US".toList := by
  decide +kernel
example : parse? "en__US".toList = none := by decide +kernel

end LocaleCode

end CursorParsing
