import CursorParsing.Demonstration.Layout
import CursorParsing.Locale.DecimalNumber

/-!
# Demonstration: numbers of locales

The symbols of locales, numbers within a larger grammar, and a number that is left unread.
-/

namespace CursorParsing.Demonstration.LocaleNumbers

open CursorParsing.Parser

/-- The parser of the numbers of a locale that is known. -/
def localeNumber (code : String) : Parser :=
  ofConstruction ((decimalNumber? ⟨true⟩ code false).map (·.1))

def symbolLines : List String :=
  [("en_US", "1,234.56"), ("de_DE", "1.234,56"), ("lv-LV", "1234,56")].map fun sample =>
    padded 6 sample.1 ++ " " ++ padded 12 (Text.quotedString sample.2) ++ " -> " ++
      showValue (runOn (localeNumber sample.1) sample.2)

/-- An amount, blanks and a currency. -/
def price : Parser :=
  lift2 (fun amount currency => .ok (.tuple [amount, currency]))
    ((localeNumber "de_DE").keepLeft (.zeroOrMore whitespace))
    (choice (.literal (.ofString "EUR")) [.literal (.ofString "USD")])

def recovering : Parser := (localeNumber defaultLocale).fallback (.decimal (.ofInt 0))

def lines : List String :=
  ["", "parsecraft Locale Examples", ""] ++
    headed 1 "Locale Separators" symbolLines ++
    headed 2 "Price Tags" [showResult (runOn price "1.299,00 EUR")] ++
    headed 3 "Recovery" [showResult (runOn recovering ",,,x")]

def output : String := printed lines

end CursorParsing.Demonstration.LocaleNumbers
