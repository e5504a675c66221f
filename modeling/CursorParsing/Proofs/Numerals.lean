import CursorParsing.Parser.Double
import CursorParsing.Value.Calculation
import Mathlib.Algebra.Group.Nat.Defs
import Mathlib.Data.List.Induction
import Mathlib.Data.List.TakeWhile

/-!
# Numerals

The digits that a number is written with are read as that number.
-/

namespace CursorParsing

theorem Parser.mem_digitCharacters_iff (character : Char) :
    character ∈ digitCharacters ↔ character.isDigit = true := by
  constructor
  · intro member
    have all : digitCharacters.all Char.isDigit = true := by decide
    exact List.all_eq_true.mp all character member
  · intro isDigit
    have bounds : 48 ≤ character.toNat ∧ character.toNat ≤ 57 := Char.isDigit_iff_toNat.mp isDigit
    have all : ∀ offset < 10, Char.ofNat (48 + offset) ∈ digitCharacters := by decide
    have named := all (character.toNat - 48) (by omega)
    rwa [Nat.add_sub_cancel' bounds.1, Char.ofNat_toNat] at named

theorem not_mem_of_isDigit {symbol : Char} {text : List Char} (noDigit : symbol.isDigit = false)
    (digits : ∀ character ∈ text, character.isDigit = true) : symbol ∉ text := by
  intro member
  rw [digits symbol member] at noDigit
  cases noDigit

theorem bne_of_not_mem {symbol : Char} {text : List Char} (without : symbol ∉ text) :
    ∀ character ∈ text, (character != symbol) = true :=
  fun _ member => bne_iff_ne.mpr fun same => without (same ▸ member)

namespace Number

theorem isDigit_of_mem_digits {number : Nat} {character : Char} (member : character ∈ digits number) :
    character.isDigit = true :=
  Nat.isDigit_of_mem_toDigits (by decide) (by decide) member

theorem not_mem_digits {symbol : Char} (noDigit : symbol.isDigit = false) (number : Nat) :
    symbol ∉ digits number := not_mem_of_isDigit noDigit fun _ => isDigit_of_mem_digits

theorem digits_ne_nil (number : Nat) : digits number ≠ [] := Nat.toDigits_ne_nil

theorem numeralValue_digits (number : Nat) : numeralValue (digits number) = number :=
  Nat.ofDigitChars_toDigits (by decide) (by decide)

theorem numeralValue_append (left right : List Char) :
    numeralValue (left ++ right) = 10 ^ right.length * numeralValue left + numeralValue right :=
  (Nat.ofDigitChars_append 0).trans Nat.ofDigitChars_eq_ofDigitChars_zero

theorem numeralValue_singleton (digit : Char) : numeralValue [digit] = digitValue digit := by
  simp [numeralValue]

theorem numeralValue_replicate_zero (count : Nat) : numeralValue (List.replicate count '0') = 0 :=
  Nat.ofDigitChars_replicate_zero.trans (Nat.mul_zero _)

/-- A row of digits is determined by its length and its number. -/
theorem eq_of_numeralValue_eq {text other : List Char}
    (areDigits : ∀ character ∈ text, character.isDigit = true)
    (otherDigits : ∀ character ∈ other, character.isDigit = true)
    (sameLength : text.length = other.length) (same : numeralValue text = numeralValue other) :
    text = other := by
  induction text using List.reverseRecOn generalizing other with
  | nil => exact (List.length_eq_zero_iff.mp sameLength.symm).symm
  | append_singleton text digit induction =>
      cases other using List.reverseRecOn with
      | nil => simp at sameLength
      | append_singleton other otherDigit =>
          rw [List.forall_mem_append, List.forall_mem_singleton] at areDigits otherDigits
          rw [numeralValue_append, numeralValue_append, numeralValue_singleton, numeralValue_singleton,
            List.length_singleton, List.length_singleton] at same
          have bounds : 48 ≤ digit.toNat ∧ digit.toNat ≤ 57 := Char.isDigit_iff_toNat.mp areDigits.2
          have otherBounds : 48 ≤ otherDigit.toNat ∧ otherDigit.toNat ≤ 57 :=
            Char.isDigit_iff_toNat.mp otherDigits.2
          change 10 ^ 1 * _ + (digit.toNat - 48) = 10 ^ 1 * _ + (otherDigit.toNat - 48) at same
          have sameDigit : digit = otherDigit := Char.toNat_inj.mp (by omega)
          have sameBefore := induction areDigits.1 otherDigits.1 (by simpa using sameLength) (by omega)
          rw [sameDigit, sameBefore]

/-- Digits alone are no sign, so all of them are read. -/
theorem readInteger?_of_isDigit {text : List Char} (notEmpty : text ≠ [])
    (isDigit : ∀ character ∈ text, character.isDigit = true) :
    readInteger? text = some (numeralValue text : Int) := by
  have noSign : splitSign text = (false, text) := by
    unfold splitSign
    split
    · exact absurd (isDigit '-' List.mem_cons_self) (by decide)
    · exact absurd (isDigit '+' List.mem_cons_self) (by decide)
    · rfl
  have allDigits : text.all Char.isDigit = true := List.all_eq_true.mpr isDigit
  simp [readInteger?, noSign, notEmpty, allDigits]

theorem readInteger?_digits (number : Nat) : readInteger? (digits number) = some (number : Int) := by
  rw [readInteger?_of_isDigit (digits_ne_nil number) fun _ => isDigit_of_mem_digits,
    numeralValue_digits]

/-! ## Numerals with a point -/

namespace Numeral

section Reading

variable {whole fraction : List Char} (wholeDigits : ∀ character ∈ whole, character.isDigit = true)
  (fractionDigits : ∀ character ∈ fraction, character.isDigit = true)

include wholeDigits

theorem read?_whole (notEmpty : whole ≠ []) : read? whole = some ⟨numeralValue whole, 0⟩ := by
  have taken : whole.takeWhile Char.isDigit = whole := List.takeWhile_eq_self_iff.mpr wholeDigits
  have dropped : whole.dropWhile Char.isDigit = [] := List.dropWhile_eq_nil_iff.mpr wholeDigits
  simp [read?, taken, dropped, splitFraction, readPower?, notEmpty]

include fractionDigits

theorem read?_pointed :
    read? (whole ++ '.' :: fraction) =
      if whole ++ fraction = [] then none
      else some ⟨numeralValue (whole ++ fraction), -(fraction.length : Int)⟩ := by
  have taken : fraction.takeWhile Char.isDigit = fraction :=
    List.takeWhile_eq_self_iff.mpr fractionDigits
  have dropped : fraction.dropWhile Char.isDigit = [] :=
    List.dropWhile_eq_nil_iff.mpr fractionDigits
  have noDigit : '.'.isDigit = false := rfl
  simp [read?, List.takeWhile_append_of_pos wholeDigits, List.dropWhile_append_of_pos wholeDigits,
    noDigit, splitFraction, taken, dropped, readPower?]

/-- What follows a second point is no power of ten. -/
theorem read?_two_points (more : List Char) :
    read? (whole ++ '.' :: (fraction ++ '.' :: more)) = none := by
  have noDigit : '.'.isDigit = false := rfl
  simp [read?, List.takeWhile_append_of_pos wholeDigits, List.dropWhile_append_of_pos wholeDigits,
    List.takeWhile_append_of_pos fractionDigits, List.dropWhile_append_of_pos fractionDigits,
    noDigit, splitFraction, readPower?]

end Reading

end Numeral

end Number

theorem Value.toInteger_digits (number : Nat) :
    toInteger (.text (Number.digits number)) = .ok (.int number) := by
  rw [toInteger, Number.readInteger?_digits]

end CursorParsing
