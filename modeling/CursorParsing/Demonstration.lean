import CursorParsing.Demonstration.ContactCards
import CursorParsing.Demonstration.LocaleNumbers

/-!
# The demonstrations by name
-/

namespace CursorParsing.Demonstration

def outputs : List (String × String) :=
  [("contact_cards", ContactCards.output), ("locale_numbers", LocaleNumbers.output)]

/-- What a demonstration prints. -/
def output? (name : String) : Option String := outputs.lookup name

end CursorParsing.Demonstration
