import CursorParsing.Demonstration

/-!
# Printing a demonstration
-/

open CursorParsing

/-- Print the demonstrations that are named, or all of them. -/
def main (arguments : List String) : IO UInt32 := do
  let names := if arguments.isEmpty then Demonstration.outputs.map (·.1) else arguments
  let mut missing := false
  for name in names do
    match Demonstration.output? name with
    | some output => IO.print output
    | none =>
      IO.eprintln ("no demonstration named " ++ name)
      missing := true
  return if missing then 1 else 0
