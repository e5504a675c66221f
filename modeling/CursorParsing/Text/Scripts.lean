/-!
# Digits and blanks of all scripts

Every script of Unicode 15.1 writes its ten decimal digits at consecutive code points, so a script is
known by its zero. Blanks are listed beyond ASCII only.
-/

namespace CursorParsing.Text

/-- The code points of the digit zero. -/
def zeros : List Nat :=
  [0x0030, 0x0660, 0x06F0, 0x07C0, 0x0966, 0x09E6, 0x0A66, 0x0AE6, 0x0B66, 0x0BE6, 0x0C66, 0x0CE6,
    0x0D66, 0x0DE6, 0x0E50, 0x0ED0, 0x0F20, 0x1040, 0x1090, 0x17E0, 0x1810, 0x1946, 0x19D0, 0x1A80,
    0x1A90, 0x1B50, 0x1BB0, 0x1C40, 0x1C50, 0xA620, 0xA8D0, 0xA900, 0xA9D0, 0xA9F0, 0xAA50, 0xABF0,
    0xFF10, 0x104A0, 0x10D30, 0x11066, 0x110F0, 0x11136, 0x111D0, 0x112F0, 0x11450, 0x114D0,
    0x11650, 0x116C0, 0x11730, 0x118E0, 0x11950, 0x11C50, 0x11D50, 0x11DA0, 0x11F50, 0x16A60,
    0x16AC0, 0x16B50, 0x1D7CE, 0x1D7D8, 0x1D7E2, 0x1D7EC, 0x1D7F6, 0x1E140, 0x1E2F0, 0x1E4F0,
    0x1E950, 0x1FBF0]

/-- The number from 0 to 9 that a character writes as a decimal digit in its script. -/
def decimalDigit? (character : Char) : Option Nat :=
  (zeros.find? fun first => first ≤ character.toNat && character.toNat < first + 10).map
    (character.toNat - ·)

/-- Space, tab, line feed, line tabulation, form feed and carriage return. -/
def isAsciiBlank (character : Char) : Bool :=
  character == ' ' || (0x09 ≤ character.toNat && character.toNat ≤ 0x0D)

/-- Inclusive ranges of blanks beyond ASCII. -/
def blankRanges : List (Nat × Nat) :=
  [(0x0085, 0x0085), (0x00A0, 0x00A0), (0x1680, 0x1680), (0x2000, 0x200A), (0x2028, 0x2029),
    (0x202F, 0x202F), (0x205F, 0x205F), (0x3000, 0x3000)]

def isForeignBlank (character : Char) : Bool :=
  blankRanges.any fun range => range.1 ≤ character.toNat && character.toNat ≤ range.2

/-- The ASCII character that stands for a character in a number: itself, a space for a blank, a
digit for a digit. -/
def asciiForm? (character : Char) : Option Char :=
  if character.toNat < 0x80 then some character
  else if isForeignBlank character then some ' '
  else (decimalDigit? character).map Nat.digitChar

example : decimalDigit? '٣' = some 3 := by decide
example : asciiForm? '\u2009' = some ' ' := by decide
example : asciiForm? 'é' = none := by decide

end CursorParsing.Text
