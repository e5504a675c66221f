import CursorParsing.Parser.Event

/-!
# Log lines

What is told to whoever watches: each attempt of a traced parser, each whole input that does not match,
and the symbols that a locale's numbers are written with.
-/

namespace CursorParsing

inductive LogChannel where
  | parsers
  | localeNumbers
deriving DecidableEq, Repr

def LogChannel.name : LogChannel → String
  | .parsers => "parsecraft.syntax.parser.core"
  | .localeNumbers => "parsecraft.parsing.numbers"

structure LogLine where
  channel : LogChannel
  message : String
deriving DecidableEq, Repr

namespace LogLine

/-- Everything is logged for debugging. -/
def level : String := "DEBUG"

def write (line : LogLine) : String := line.channel.name ++ " " ++ level ++ " " ++ line.message

end LogLine

/-- The line that an event is logged with, if it is logged. A line that cannot be written is left
out. -/
def Event.logLine? : Event → Option LogLine
  | .trying tag ahead =>
    some ⟨.parsers, tag ++ ": trying at " ++ String.ofList (Text.quoted ahead)⟩
  | .matched tag value consumed =>
    if value.isWritable then
      some ⟨.parsers, tag ++ ": matched " ++ value.display ++ ", consumed " ++ toString consumed⟩
    else none
  | .failed tag cause => some ⟨.parsers, tag ++ ": failed: " ++ cause.message⟩
  | .entered _ | .raised .. => none

def logLines (history : List Event) : List LogLine := history.filterMap Event.logLine?

end CursorParsing
