import CursorParsing.Text.Printable

/-!
# Quoted text and quoted octets

A text is shown between single quotes, or between double quotes when it holds a single quote and no
double one. The backslash and the quote in use are escaped, and whatever has no visible form is
written by name (`\n`, `\r`, `\t`) or by number, in the shortest of the three widths that holds it.
-/

namespace CursorParsing.Text

/-- The `width` low hexadecimal digits of a number, in lower case. -/
def hexadecimal : (width : Nat) → (number : Nat) → List Char
  | 0, _ => []
  | width + 1, number => hexadecimal width (number / 16) ++ [Nat.digitChar (number % 16)]

example : hexadecimal 4 0x2f = ['0', '0', '2', 'f'] := by decide

/-- The escapes that texts and octets share. -/
def commonEscape (quote character : Char) : Option (List Char) :=
  if character = quote ∨ character = '\\' then some ['\\', character]
  else if character = '\n' then some ['\\', 'n']
  else if character = '\r' then some ['\\', 'r']
  else if character = '\t' then some ['\\', 't']
  else none

def escapedCharacter (quote character : Char) : List Char :=
  match commonEscape quote character with
  | some escape => escape
  | none =>
    if isPrintable character then [character]
    else if character.toNat < 0x100 then '\\' :: 'x' :: hexadecimal 2 character.toNat
    else if character.toNat < 0x10000 then '\\' :: 'u' :: hexadecimal 4 character.toNat
    else '\\' :: 'U' :: hexadecimal 8 character.toNat

/-- Outside the visible range of ASCII an octet is written by number. -/
def escapedOctet (quote : Char) (octet : UInt8) : List Char :=
  match commonEscape quote (Char.ofNat octet.toNat) with
  | some escape => escape
  | none =>
    if 0x20 ≤ octet.toNat ∧ octet.toNat ≤ 0x7e then [Char.ofNat octet.toNat]
    else '\\' :: 'x' :: hexadecimal 2 octet.toNat

def quoteFor (contents : List Char) : Char :=
  if contents.contains '\'' && !contents.contains '"' then '"' else '\''

def quoted (contents : List Char) : List Char :=
  let quote := quoteFor contents
  quote :: contents.flatMap (escapedCharacter quote) ++ [quote]

def quotedOctets (octets : List UInt8) : List Char :=
  let quote := quoteFor (octets.map fun octet => Char.ofNat octet.toNat)
  'b' :: quote :: octets.flatMap (escapedOctet quote) ++ [quote]

def quotedString (contents : String) : String := String.ofList (quoted contents.toList)

example : quoted ['a', '\'', 'b'] = ['"', 'a', '\'', 'b', '"'] := by decide
example : quoted ['\'', '"', '\n'] = ['\'', '\\', '\'', '"', '\\', 'n', '\''] := by decide
example : quoted ['\u00ad'] = ['\'', '\\', 'x', 'a', 'd', '\''] := by decide
example : quotedOctets [0x41, 0xff] = ['b', '\'', 'A', '\\', 'x', 'f', 'f', '\''] := by decide

end CursorParsing.Text
