import CursorParsing.Cursor
import CursorParsing.Locale.DecimalNumber

/-!
# What users of the library see by name

The constants, the exported names, and the version, which is a placeholder unless the library was
installed.
-/

namespace CursorParsing.PublicNames

def constants : List (String × Value) :=
  [("SNIPPET_LENGTH", .int Cursor.snippetLength), ("SNIPPET_ELLIPSIS", .text Cursor.ellipsis),
    ("WHITESPACE_CHARS", .text Parser.blanks), ("DOUBLE_CHARS", .text Parser.doubleCharacters),
    ("ASCII_DIGITS", .text Parser.digitCharacters), ("DEFAULT_LOCALE", .ofString defaultLocale),
    ("GROUP_SPACE_CHARS", .text spaceVariants)]

def exports : List String :=
  ["Cursor", "ParseFailure", "ParseResult", "ParsecraftError", "Parser", "__version__",
    "any_symbol", "apply", "character_that", "choice", "combine", "concat", "discard_left",
    "discard_right", "double", "empty", "end_of_input", "fail", "lazy", "lift_a2", "lift_a3",
    "none_of", "one_of", "pure", "sequence", "string", "string_ignoring_trailing_whitespace",
    "whitespace"]

def installedVersion : String := "0.1.0"

def developmentVersion : String := "0.0.0+dev"

def version (installed : Bool) : String :=
  if installed then installedVersion else developmentVersion

/-- The class of mismatches, followed by the classes that it extends. -/
def mismatchAncestry : List String :=
  ["ParseFailure", "ParsecraftError", "Exception", "BaseException", "object"]

def displayMismatch (message : String) : String :=
  "ParseFailure(" ++ Text.quotedString message ++ ")"

end CursorParsing.PublicNames
