import CursorParsing.Cursor

/-!
# What happens during a reading

A history tells, in order, which parsers began to read and where, which errors came into being and
by whom, and what the traced parsers did. Only the last of these are logged.
-/

namespace CursorParsing

inductive Origin where
  /-- A parser that examines the input itself. -/
  | recogniser
  /-- A repetition that came out short. -/
  | repetition
  /-- A trace that cannot show the input. -/
  | tracing
  /-- A function or a parser that was supplied with the grammar. -/
  | supplied
  /-- A name that leads to no definition, or to one that never ends. -/
  | reference
deriving DecidableEq, Repr

inductive Event where
  | entered (cursor : Cursor)
  | raised (origin : Origin) (error : Error) (cursor : Cursor)
  | trying (tag : String) (ahead : List Char)
  | matched (tag : String) (value : Value) (consumed : Int)
  | failed (tag : String) (cause : Mismatch)

end CursorParsing
