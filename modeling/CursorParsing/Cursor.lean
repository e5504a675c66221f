import CursorParsing.Source
import CursorParsing.Error
import CursorParsing.Text.Utf8

/-!
# Cursors

A cursor is a source and a position in it, which may lie past the end. Reading never changes a
cursor: advancing gives another one, so whoever keeps a cursor can go back to it.
-/

namespace CursorParsing

structure Cursor where
  source : Source
  position : Nat

namespace Cursor

/-- How many symbols a snippet shows unless told otherwise. -/
def snippetLength : Nat := 20

def ellipsis : List Char := ['.', '.', '.']

/-- A cursor at a position, which must not be negative. -/
def at? (source : Source) (position : Int) : Except Fault Cursor :=
  if position < 0 then .error (.told (.negativePosition position))
  else .ok ⟨source, position.toNat⟩

def start (source : Source) : Cursor := ⟨source, 0⟩

def length (cursor : Cursor) : Nat := cursor.source.size - cursor.position

def isAtEnd (cursor : Cursor) : Bool := cursor.source.size ≤ cursor.position

/-- The symbols that are left, as a sequence of the source's kind. -/
def remaining (cursor : Cursor) : Source := cursor.source.slice cursor.position cursor.source.size

def current (cursor : Cursor) : Except Fault Value :=
  match cursor.source.symbol? cursor.position with
  | some symbol => .ok symbol
  | none => .error (.pastTheEnd cursor.position)

/-- The symbol some way ahead, or none beyond the end. A target before the start of the source counts
from its end. -/
def peek (offset : Int) (cursor : Cursor) : Except Fault (Option Value) :=
  let size : Int := cursor.source.size
  let target := cursor.position + offset
  if target ≥ size then .ok none
  else
    let index := if target < 0 then target + size else target
    match if index < 0 then none else cursor.source.symbol? index.toNat with
    | some symbol => .ok (some symbol)
    | none => .error .outOfRange

/-- Drop symbols, as many as there are. From past the end this leads to the end. -/
def advance (count : Int) (cursor : Cursor) : Except Fault Cursor :=
  if count < 0 then .error (.told (.negativeAdvance count))
  else .ok { cursor with position := min (cursor.position + count.toNat) cursor.source.size }

/-- Whether the source goes on with a literal at the cursor. A literal that would reach past the end
of the source is no continuation. -/
def startsWith (literal : Source) (cursor : Cursor) : Bool :=
  let last := cursor.position + literal.size
  last ≤ cursor.source.size &&
    (cursor.source.slice cursor.position last).toValue.equal literal.toValue

/-- The next symbols. An end before the start of the source counts from its end. -/
def sliceAhead (count : Int) (cursor : Cursor) : Source :=
  let last := cursor.position + count
  let fromStart := if last < 0 then last + cursor.source.size else last
  cursor.source.slice cursor.position fromStart.toNat

/-- Symbols as a snippet shows them: a text as it is, octets read as UTF-8, other sequences as a
list. -/
def bodyOf : Source → List Char
  | .text characters => characters.toList
  | .bytes octets | .buffer octets => Text.Utf8.decode octets.toList
  | .list items | .tuple items => (Value.list items.toList).write

/-- A bounded view of what is left, with an ellipsis if more is left than the limit. Only `snippet?`
tells whether it can be written. -/
def snippet (cursor : Cursor) (limit : Int := snippetLength) : List Char :=
  bodyOf (cursor.sliceAhead limit) ++ if limit < cursor.length then ellipsis else []

/-- Whether the symbols in a snippet can be written. -/
def isShowable (cursor : Cursor) (limit : Int := snippetLength) : Bool :=
  (cursor.sliceAhead limit).isWritable

def snippet? (cursor : Cursor) (limit : Int := snippetLength) : Except Fault (List Char) :=
  if cursor.isShowable limit then .ok (cursor.snippet limit) else .error .integerTooLong

/-- The error that tells, with the snippet, that what is at the cursor is not what is read. -/
def refusal (cursor : Cursor) (tell : List Char → Mismatch) : Error :=
  match cursor.snippet? with
  | .ok found => (tell found).toError
  | .error fault => .fault fault

def display (cursor : Cursor) : String :=
  "Cursor(source=" ++ cursor.source.toValue.display ++ ", pos=" ++ toString cursor.position ++ ")"

def display? (cursor : Cursor) : Except Fault String :=
  if cursor.source.isWritable then .ok cursor.display else .error .integerTooLong

private def sample : Cursor := ⟨.text #['a', 'b', 'c'], 1⟩

example : sample.remaining.toValue = .text ['b', 'c'] := rfl
example : sample.snippet 1 = ['b', '.', '.', '.'] := rfl
example : sample.startsWith (.text #['b']) = true := rfl
example : sample.length = 2 := rfl

end Cursor

end CursorParsing
