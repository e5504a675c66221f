import CursorParsing.Number.Binary64
import CursorParsing.Text.Scripts

/-!
# Reading a binary number from text

Blanks around the number are dropped, digits of any script count, and a low line may stand between
two digits. The number is the nearest to what is written.
-/

namespace CursorParsing.Binary64

open Number Text

/-- Drop the blanks at both ends. -/
def trimmed (text : List Char) : List Char :=
  ((text.dropWhile isAsciiBlank).reverse.dropWhile isAsciiBlank).reverse

/-- Remove low lines, each of which must stand between two digits; `afterDigit` tells whether the
text follows a digit. -/
def joinDigits? (afterDigit : Bool) : List Char → Option (List Char)
  | [] => some []
  | ['_'] => none
  | '_' :: next :: rest =>
    if afterDigit && next.isDigit then (joinDigits? true rest).map (next :: ·) else none
  | character :: rest => (joinDigits? character.isDigit rest).map (character :: ·)

/-- The words for the numbers that are not finite, in lower case. -/
def wordValue? (negative : Bool) (word : List Char) : Option Binary64 :=
  if word = ['i', 'n', 'f'] ∨ word = ['i', 'n', 'f', 'i', 'n', 'i', 't', 'y'] then
    some (.infinite negative)
  else if word = ['n', 'a', 'n'] then some .notANumber
  else none

def read? (text : List Char) : Option Binary64 := do
  let plain ← text.mapM asciiForm?
  let joined ← joinDigits? false (trimmed plain)
  let (negative, body) := splitSign joined
  match wordValue? negative (body.map Char.toLower) with
  | some special => some special
  | none => (Numeral.read? body).map (ofNumeral negative)

example : read? [' ', '1', '_', '0', '.', '5'] = some (ofNumeral false ⟨105, -1⟩) := by
  decide +kernel
example : read? ['-', 'I', 'n', 'f'] = some (.infinite true) := by decide +kernel
example : read? ['1', '_'] = none := by decide +kernel
example : read? ['١'] = some (ofInt 1) := by decide +kernel

end CursorParsing.Binary64
