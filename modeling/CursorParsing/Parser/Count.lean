import CursorParsing.Value.Calculation

/-!
# How often a parser must match

A count is any number that is not negative. What matters of it is how many matches are made at most
and whether the count is then met: two and a half asks for three matches, which are not two and a
half.
-/

namespace CursorParsing

structure Count where
  requested : Value
  /-- The least number of matches that is not below the count; none if there is no such number. -/
  rounds : Option Nat
  /-- Whether that number of matches is the count exactly. -/
  exact : Bool

namespace Count

def ofNat (times : Nat) : Count := ⟨.int times, some times, true⟩

def ofDecimal? (requested : Value) (number : Decimal) : Except Fault Count :=
  if number.negative && !number.isZero then .error (.told (.negativeRepetition requested))
  else .ok ⟨requested, some number.ceiling.toNat, number.ceiling.toNat == number.floor.toNat⟩

/-- The count that a value asks for. Nothing is below a value that is not a number of any size, so it
asks for no match, and is not met by any. -/
def ofValue? (requested : Value) : Except Fault Count :=
  match requested with
  | .float (.infinite true) => .error (.told (.negativeRepetition requested))
  | .float (.infinite false) => .ok ⟨requested, none, false⟩
  | .float .notANumber => .ok ⟨requested, some 0, false⟩
  | _ =>
    match requested.exactNumber? with
    | some number => ofDecimal? requested number
    | none => .error .typeMismatch

def isMetBy (count : Count) (matched : Nat) : Bool :=
  count.exact && count.rounds == some matched

end Count

end CursorParsing
