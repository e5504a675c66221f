/-!
# Powers

A power of a fraction's numerator or denominator is wanted where the exponent has the right sign, and
one is wanted otherwise; so a negative exponent counts as zero.
-/

namespace CursorParsing.Number

def power (base : Nat) (exponent : Int) : Nat := Nat.pow base exponent.toNat

example : power 10 3 = 1000 := by decide
example : power 10 (-3) = 1 := by decide

end CursorParsing.Number
