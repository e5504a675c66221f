import CursorParsing.Error

/-!
# Whether locale data is at hand

The formats of locales come from data that may be missing. Whatever needs them asks for them first,
in the name of the feature that needs them.
-/

namespace CursorParsing

structure LocaleData where
  available : Bool
deriving DecidableEq, Repr

/-- The parts of the data that features ask for. -/
inductive LocaleData.Part where
  | locales
  | unknownLocaleErrors
  | numberFormatErrors
  | numbers
deriving DecidableEq, Repr

namespace LocaleData

def require (data : LocaleData) (feature : String) : Except Fault Unit :=
  if data.available then .ok () else .error (.localeDataMissing feature)

/-- The feature in whose name a part is asked for. -/
def Part.feature : Part → String
  | .locales => "get_locale_class"
  | .unknownLocaleErrors => "get_unknown_locale_error"
  | .numberFormatErrors => "get_number_format_error"
  | .numbers => "get_babel_numbers"

def Part.name : Part → String
  | .locales => "Locale"
  | .unknownLocaleErrors => "UnknownLocaleError"
  | .numberFormatErrors => "NumberFormatError"
  | .numbers => "babel.numbers"

/-- The name of a part of the data, if the data is at hand. -/
def part (data : LocaleData) (part : Part) : Except Fault String :=
  (data.require part.feature).map fun _ => part.name

end LocaleData

end CursorParsing
