/-!
# Rounding a quotient
-/

namespace CursorParsing.Number

/-- The integer nearest to a quotient; of two equally near ones, the even one. -/
def roundHalfEven (numerator denominator : Nat) : Nat :=
  let floor := numerator / denominator
  let twice := 2 * (numerator % denominator)
  if twice < denominator then floor
  else if twice > denominator then floor + 1
  else floor + floor % 2

example : roundHalfEven 7 2 = 4 := by decide
example : roundHalfEven 5 2 = 2 := by decide
example : roundHalfEven 8 3 = 3 := by decide

end CursorParsing.Number
