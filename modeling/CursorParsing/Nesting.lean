import CursorParsing.Grammar
import CursorParsing.Parser.Double

/-!
# Grammars that nest

Two small grammars that refer to themselves: an `x` in brackets, however many, and lists of numbers
and lists.
-/

namespace CursorParsing.Nesting

open CursorParsing.Parser

/-! ## Brackets -/

def nested : Parser :=
  .orElse (((word ['(']).keepRight (.reference "nested")).keepLeft (word [')'])) (word ['x'])

def brackets : Grammar := ⟨[("nested", nested)]⟩

example : (brackets.run (.reference "nested") (.start (.text #['(', 'x', ')', '!']))).1 =
    .ok ⟨.text ['x'], .text ['!']⟩ := rfl

/-! ## Lists -/

/-- Digits, as the number they write. -/
def number : Parser :=
  (Parser.oneOrMore (oneCharOf digitCharacters)).map fun digits => do
    let text ← digits.joinSymbols
    Value.toInteger (.text text)

/-- A number, or elements in square brackets. -/
def item : Parser :=
  .orElse number ((word ['[']).between (word [']']) (.zeroOrMore (.reference "element")))

/-- An item, and a comma if there is one. -/
def element : Parser := (Parser.reference "item").keepLeft (word [',']).asBool

def lists : Grammar := ⟨[("item", item), ("element", element)]⟩

example : (lists.run (.reference "item") (.start (.text #['[', '1', ']']))).1 =
    .ok ⟨.list [.int 1], .text []⟩ := rfl

end CursorParsing.Nesting
