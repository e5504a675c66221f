import CursorParsing.Text.Utf8
import Mathlib.Data.List.Infix
import Mathlib.Tactic.SplitIfs

/-!
# The text that octets spell

Octets spell a text part by part. A part is what one character is encoded as, or else a replacement stands
for it: then no character is in front, and the part is the longest beginning of one that is, or a single
octet. So there is just one text that octets spell, and it is the text that is read from them.
-/

namespace CursorParsing.Text.Utf8

/-! ## What octets spell -/

def encode (text : List Char) : List UInt8 := text.flatMap String.utf8EncodeChar

/-- Some character is encoded as these octets, or as these and more. -/
def Begins (octets : List UInt8) : Prop := ∃ character, octets <+: String.utf8EncodeChar character

/-- The part in front of what is left that one replacement stands for. -/
structure IsIllFormed (part left : List UInt8) : Prop where
  inFront : part <+: left
  noCharacter (character : Char) : ¬String.utf8EncodeChar character <+: left
  notEmpty : part ≠ []
  begins_or_single : Begins part ∨ part.length = 1
  longest (other : List UInt8) (otherInFront : other <+: left) (begins : Begins other) :
    other.length ≤ part.length

/-- A text that octets spell, character by character. -/
inductive Spells : List UInt8 → List Char → Prop
  | nil : Spells [] []
  | character (character : Char) {rest : List UInt8} {text : List Char} (spells : Spells rest text) :
    Spells (String.utf8EncodeChar character ++ rest) (character :: text)
  | replaced {part rest : List UInt8} {text : List Char}
    (illFormed : IsIllFormed part (part ++ rest)) (spells : Spells rest text) :
    Spells (part ++ rest) (replacement :: text)

section OneText

/-- No character is encoded as the beginning of another one. -/
theorem eq_of_encoded_append {character other : Char} {rest otherRest : List UInt8}
    (same : String.utf8EncodeChar character ++ rest = String.utf8EncodeChar other ++ otherRest) :
    character = other := by
  have first (character : Char) (rest : List UInt8) :
      (String.utf8EncodeChar character ++ rest).toByteArray.utf8DecodeChar? 0 = some character := by
    rw [List.toByteArray_append]
    exact ByteArray.utf8DecodeChar?_utf8EncodeChar_append
  exact Option.some.inj ((first character rest).symm.trans (same ▸ first other otherRest))

theorem IsIllFormed.length_le {part other left : List UInt8} (illFormed : IsIllFormed part left)
    (otherIllFormed : IsIllFormed other left) : part.length ≤ other.length := by
  rcases illFormed.begins_or_single with begins | single
  · exact otherIllFormed.longest part illFormed.inFront begins
  · rw [single]
    exact List.length_pos_iff.mpr otherIllFormed.notEmpty

theorem IsIllFormed.unique {part other left : List UInt8} (illFormed : IsIllFormed part left)
    (otherIllFormed : IsIllFormed other left) : part = other := by
  have notLonger := illFormed.length_le otherIllFormed
  have notShorter := otherIllFormed.length_le illFormed
  have inOther :=
    List.prefix_of_prefix_length_le illFormed.inFront otherIllFormed.inFront notLonger
  exact inOther.eq_of_length (Nat.le_antisymm notLonger notShorter)

theorem Spells.unique {octets : List UInt8} {text other : List Char} (spells : Spells octets text)
    (otherSpells : Spells octets other) : text = other := by
  -- In each case the same octets are split once more: where a character is in front, nothing is replaced.
  induction spells generalizing other with
  | nil =>
      generalize empty : ([] : List UInt8) = octets at otherSpells
      cases otherSpells with
      | nil => rfl
      | character character _ =>
          cases String.utf8EncodeChar_ne_nil (List.append_eq_nil_iff.mp empty.symm).1
      | replaced illFormed _ =>
          cases illFormed.notEmpty (List.append_eq_nil_iff.mp empty.symm).1
  | @character character rest text _ induction =>
      generalize same : String.utf8EncodeChar character ++ rest = octets at otherSpells
      cases otherSpells with
      | nil => cases String.utf8EncodeChar_ne_nil (List.append_eq_nil_iff.mp same).1
      | character otherCharacter otherSpells =>
          cases eq_of_encoded_append same
          rw [induction (List.append_cancel_left same ▸ otherSpells)]
      | replaced illFormed _ => cases illFormed.noCharacter character ⟨rest, same⟩
  | @replaced part rest text illFormed _ induction =>
      generalize same : part ++ rest = octets at otherSpells
      cases otherSpells with
      | nil => cases illFormed.notEmpty (List.append_eq_nil_iff.mp same).1
      | @character otherCharacter otherRest _ _ =>
          cases illFormed.noCharacter otherCharacter ⟨otherRest, same.symm⟩
      | replaced otherIllFormed otherSpells =>
          cases illFormed.unique (same ▸ otherIllFormed)
          rw [induction (List.append_cancel_left same ▸ otherSpells)]

/-- Every character of the text stands for an octet or more. -/
theorem Spells.length_le {octets : List UInt8} {text : List Char} (spells : Spells octets text) :
    text.length ≤ octets.length := by
  induction spells with
  | nil => exact Nat.le_refl _
  | character character _ induction =>
      have positive := List.length_pos_iff.mpr (String.utf8EncodeChar_ne_nil (c := character))
      rw [List.length_cons, List.length_append]
      omega
  | replaced illFormed _ induction =>
      have positive := List.length_pos_iff.mpr illFormed.notEmpty
      rw [List.length_cons, List.length_append]
      omega

/-- Where nothing is replaced, octets spell what they encode. -/
theorem spells_encode (text : List Char) : Spells (encode text) text := by
  induction text with
  | nil => exact .nil
  | cons character text induction =>
      rw [encode, List.flatMap_cons]
      exact .character character induction

end OneText

/-! ## How characters are encoded -/

/-- The octets of the character of a number, as numbers. -/
def octetNumbers (number : Nat) : List Nat :=
  if number ≤ 0x7F then [number]
  else if number ≤ 0x7FF then [0xC0 + number / 64, 0x80 + number % 64]
  else if number ≤ 0xFFFF then
    [0xE0 + number / 4096, 0x80 + number / 64 % 64, 0x80 + number % 64]
  else
    [0xF0 + number / 262144, 0x80 + number / 4096 % 64, 0x80 + number / 64 % 64, 0x80 + number % 64]

theorem octetNumbers_eq_cons_iff {number first : Nat} {more : List Nat} :
    octetNumbers number = first :: more ↔
      number ≤ 0x7F ∧ first = number ∧ more = [] ∨
      (¬number ≤ 0x7F ∧ number ≤ 0x7FF) ∧ first = 0xC0 + number / 64 ∧
        more = [0x80 + number % 64] ∨
      (¬number ≤ 0x7FF ∧ number ≤ 0xFFFF) ∧ first = 0xE0 + number / 4096 ∧
        more = [0x80 + number / 64 % 64, 0x80 + number % 64] ∨
      ¬number ≤ 0xFFFF ∧ first = 0xF0 + number / 262144 ∧
        more = [0x80 + number / 4096 % 64, 0x80 + number / 64 % 64, 0x80 + number % 64] := by
  unfold octetNumbers
  split_ifs with single double triple
  · have bounds : number ≤ 0x7FF ∧ number ≤ 0xFFFF := by omega
    simp [single, bounds, eq_comm]
  · have bound : number ≤ 0xFFFF := by omega
    simp [single, double, bound, eq_comm]
  · simp [single, double, triple, eq_comm]
  · simp [single, double, triple, eq_comm]

theorem map_toNat_octets (character : Char) :
    (String.utf8EncodeChar character).map UInt8.toNat = octetNumbers character.toNat := by
  -- The encoding reduces the bits of each octet to their width; no number of a character goes beyond it.
  have valid : character.toNat.isValidChar := character.valid
  unfold Nat.isValidChar at valid
  simp only [String.utf8EncodeChar, octetNumbers, Char.toNat_val]
  split_ifs
  all_goals
    simp only [List.map_cons, List.map_nil, UInt8.toNat_ofNat', List.cons.injEq, and_true]
    omega

theorem exists_character_iff {number : Nat} {octets : List UInt8} :
    (∃ character : Char, character.toNat = number ∧ String.utf8EncodeChar character = octets) ↔
      number.isValidChar ∧ octetNumbers number = octets.map UInt8.toNat := by
  constructor
  · intro given
    rcases given with ⟨character, rfl, rfl⟩
    exact ⟨character.valid, (map_toNat_octets character).symm⟩
  · intro given
    rcases given with ⟨valid, numbers⟩
    have isNumber : (Char.ofNat number).toNat = number := by
      rw [Char.ofNat, dif_pos valid]
      rfl
    have injective : Function.Injective (List.map UInt8.toNat) :=
      List.map_injective_iff.mpr fun _ _ => UInt8.toNat_inj.mp
    refine ⟨Char.ofNat number, isNumber, injective ?_⟩
    rw [map_toNat_octets, isNumber, numbers]

section FirstOctets

variable {octet : UInt8}

/-- The octets that begin no character are the ones that go on with one, and the ones that would begin a
number too small or too great. -/
theorem encoded_ne_cons
    (beginsNone : 0x80 ≤ octet.toNat ∧ octet.toNat < 0xC2 ∨ 0xF5 ≤ octet.toNat) (character : Char)
    (more : List UInt8) : String.utf8EncodeChar character ≠ octet :: more := by
  intro whole
  rcases exists_character_iff.mp ⟨character, rfl, whole⟩ with ⟨valid, numbers⟩
  rw [Nat.isValidChar] at valid
  have cases := octetNumbers_eq_cons_iff.mp numbers
  omega

theorem encoded_ne_singleton (notSingle : 0x80 ≤ octet.toNat) (character : Char) :
    String.utf8EncodeChar character ≠ [octet] := by
  intro whole
  have numbers := (exists_character_iff.mp ⟨character, rfl, whole⟩).2
  rcases octetNumbers_eq_cons_iff.mp numbers with single | double | triple | quadruple
  · omega
  · cases double.2.2
  · cases triple.2.2
  · cases quadruple.2.2

theorem encoded_single (single : octet.toNat < 0x80) :
    String.utf8EncodeChar (Char.ofNat octet.toNat) = [octet] := by
  have valid : octet.toNat.isValidChar := .inl (by omega)
  have numbers : octetNumbers octet.toNat = [octet].map UInt8.toNat := if_pos (by omega)
  rcases exists_character_iff.mpr ⟨valid, numbers⟩ with ⟨character, isNumber, whole⟩
  rwa [← isNumber, Char.ofNat_toNat]

/-- An octet that begins no character is a part on its own. -/
theorem isIllFormed_singleton {rest : List UInt8}
    (beginsNone : ∀ character more, String.utf8EncodeChar character ≠ octet :: more) :
    IsIllFormed [octet] (octet :: rest) := by
  refine ⟨⟨rest, rfl⟩, ?_, List.cons_ne_nil _ _, .inr rfl, ?_⟩
  · intro character inFront
    rcases List.prefix_cons_iff.mp inFront with empty | ⟨_, whole, _⟩
    · exact String.utf8EncodeChar_ne_nil empty
    · exact beginsNone character _ whole
  · intro other inFront begins
    rcases List.prefix_cons_iff.mp inFront with rfl | ⟨_, rfl, _⟩
    · exact Nat.zero_le _
    · rcases begins with ⟨character, _, whole⟩
      cases beginsNone character _ whole.symm

end FirstOctets

/-! ## Unfinished characters -/

/-- The octets that finish a character of which some bits are known, and the number they make with them.
So many octets come after the next one, which has bounds of its own. -/
inductive Finishes : (bits remaining least greatest : Nat) → List UInt8 → (number : Nat) → Prop
  | last {bits least greatest number : Nat} {octet : UInt8}
    (fits : least ≤ octet.toNat ∧ octet.toNat ≤ greatest)
    (isNumber : number = bits * 64 + (octet.toNat - 0x80)) :
    Finishes bits 0 least greatest [octet] number
  | onward {bits remaining least greatest number : Nat} {octet : UInt8} {more : List UInt8}
    (fits : least ≤ octet.toNat ∧ octet.toNat ≤ greatest)
    (finishes : Finishes (bits * 64 + (octet.toNat - 0x80)) remaining 0x80 0xBF more number) :
    Finishes bits (remaining + 1) least greatest (octet :: more) number

section Finishing

variable {bits remaining least greatest number : Nat} {more : List UInt8}

theorem finishes_zero_iff :
    Finishes bits 0 least greatest more number ↔
      ∃ octet, more = [octet] ∧ (least ≤ octet.toNat ∧ octet.toNat ≤ greatest) ∧
        number = bits * 64 + (octet.toNat - 0x80) := by
  constructor
  · intro finishes
    cases finishes with
    | last fits isNumber => exact ⟨_, rfl, fits, isNumber⟩
  · intro given
    rcases given with ⟨octet, rfl, fits, isNumber⟩
    exact .last fits isNumber

theorem finishes_succ_iff :
    Finishes bits (remaining + 1) least greatest more number ↔
      ∃ octet rest, more = octet :: rest ∧ (least ≤ octet.toNat ∧ octet.toNat ≤ greatest) ∧
        Finishes (bits * 64 + (octet.toNat - 0x80)) remaining 0x80 0xBF rest number := by
  constructor
  · intro finishes
    cases finishes with
    | onward fits finishes => exact ⟨_, _, rfl, fits, finishes⟩
  · intro given
    rcases given with ⟨octet, rest, rfl, fits, finishes⟩
    exact .onward fits finishes

theorem Finishes.exists_next (finishes : Finishes bits remaining least greatest more number) :
    ∃ octet rest, more = octet :: rest ∧ least ≤ octet.toNat ∧ octet.toNat ≤ greatest := by
  cases finishes with
  | last fits _ => exact ⟨_, _, rfl, fits⟩
  | onward fits _ => exact ⟨_, _, rfl, fits⟩

theorem exists_finishes (bits remaining : Nat) (possible : least ≤ greatest ∧ greatest < 0x100) :
    ∃ more number, Finishes bits remaining least greatest more number := by
  induction remaining generalizing bits least greatest with
  | zero =>
      have isLeast := UInt8.toNat_ofNat_of_lt' (Nat.lt_of_le_of_lt possible.1 possible.2)
      exact ⟨[.ofNat least], _, .last (by omega) rfl⟩
  | succ remaining induction =>
      have isLeast := UInt8.toNat_ofNat_of_lt' (Nat.lt_of_le_of_lt possible.1 possible.2)
      rcases induction (bits * 64 + ((UInt8.ofNat least).toNat - 0x80))
        (show 0x80 ≤ 0xBF ∧ 0xBF < 0x100 by decide) with ⟨more, number, finishes⟩
      exact ⟨_, number, .onward (by omega) finishes⟩

end Finishing

/-- Where a reader stands after octets that begin a character and are not all of it. -/
structure Unfinished (taken : List UInt8) (bits remaining least greatest : Nat) : Prop where
  finishes_iff {number : Nat} {more : List UInt8} :
    Finishes bits remaining least greatest more number ↔
      ∃ character : Char, character.toNat = number ∧
        String.utf8EncodeChar character = taken ++ more
  notWhole (character : Char) : ¬String.utf8EncodeChar character <+: taken
  notEmpty : taken ≠ []
  possible : least ≤ greatest ∧ greatest < 0x100

namespace Unfinished

variable {taken : List UInt8} {bits remaining least greatest : Nat} {octet : UInt8}

/-! ### After the first octet -/

theorem of_first (notSingle : 0x80 ≤ octet.toNat) (possible : least ≤ greatest ∧ greatest < 0x100)
    (finishes_iff : ∀ (number : Nat) (more : List UInt8),
      Finishes bits remaining least greatest more number ↔
        number.isValidChar ∧ octetNumbers number = octet.toNat :: more.map UInt8.toNat) :
    Unfinished [octet] bits remaining least greatest where
  finishes_iff := by
    intro number more
    rw [finishes_iff, exists_character_iff]
    rfl
  notWhole character inFront := by
    rcases List.prefix_cons_iff.mp inFront with empty | ⟨_, whole, inNil⟩
    · exact String.utf8EncodeChar_ne_nil empty
    · rw [List.prefix_nil.mp inNil] at whole
      exact encoded_ne_singleton notSingle character whole
  notEmpty := List.cons_ne_nil _ _
  possible := possible

theorem of_two (isFirst : octet.toNat = 0xC0 + bits) (long : 2 ≤ bits ∧ bits < 0x20) :
    Unfinished [octet] bits 0 0x80 0xBF := by
  refine .of_first (by omega) (by decide) ?_
  intro number more
  rw [finishes_zero_iff, octetNumbers_eq_cons_iff, Nat.isValidChar]
  constructor
  · intro given
    rcases given with ⟨last, rfl, fits, isNumber⟩
    have isLast : last.toNat = 0x80 + number % 64 := by omega
    refine ⟨by omega, .inr (.inl ⟨by omega, by omega, ?_⟩)⟩
    rw [List.map_singleton, isLast]
  · intro given
    rcases given with ⟨valid, single | double | triple | quadruple⟩
    · omega
    · rcases List.map_eq_singleton_iff.mp double.2.2 with ⟨last, rfl, isLast⟩
      exact ⟨last, rfl, by omega, by omega⟩
    · omega
    · omega

/-- The bounds of the second octet leave out the numbers of fewer octets, and the surrogates. -/
theorem of_three (isFirst : octet.toNat = 0xE0 + bits) (short : bits < 0x10)
    (bounds : bits = 0 ∧ least = 0xA0 ∧ greatest = 0xBF ∨
      bits = 0xD ∧ least = 0x80 ∧ greatest = 0x9F ∨
      bits ≠ 0 ∧ bits ≠ 0xD ∧ least = 0x80 ∧ greatest = 0xBF) :
    Unfinished [octet] bits 1 least greatest := by
  refine .of_first (by omega) (by omega) ?_
  intro number more
  simp only [finishes_succ_iff, finishes_zero_iff, octetNumbers_eq_cons_iff, Nat.isValidChar]
  constructor
  · intro given
    rcases given with ⟨second, _, rfl, fits, last, rfl, lastFits, isNumber⟩
    have isSecond : second.toNat = 0x80 + number / 64 % 64 := by omega
    have isLast : last.toNat = 0x80 + number % 64 := by omega
    refine ⟨by omega, .inr (.inr (.inl ⟨by omega, by omega, ?_⟩))⟩
    rw [List.map_cons, List.map_singleton, isSecond, isLast]
  · intro given
    rcases given with ⟨valid, single | double | triple | quadruple⟩
    · omega
    · omega
    · rcases List.map_eq_cons_iff.mp triple.2.2 with ⟨second, _, rfl, isSecond, isMore⟩
      rcases List.map_eq_singleton_iff.mp isMore with ⟨last, rfl, isLast⟩
      exact ⟨second, _, rfl, by omega, last, rfl, by omega, by omega⟩
    · omega

/-- The bounds of the second octet leave out the numbers of fewer octets, and those that are too great. -/
theorem of_four (isFirst : octet.toNat = 0xF0 + bits) (short : bits < 5)
    (bounds : bits = 0 ∧ least = 0x90 ∧ greatest = 0xBF ∨
      bits = 4 ∧ least = 0x80 ∧ greatest = 0x8F ∨
      bits ≠ 0 ∧ bits ≠ 4 ∧ least = 0x80 ∧ greatest = 0xBF) :
    Unfinished [octet] bits 2 least greatest := by
  refine .of_first (by omega) (by omega) ?_
  intro number more
  simp only [finishes_succ_iff, finishes_zero_iff, octetNumbers_eq_cons_iff, Nat.isValidChar]
  constructor
  · intro given
    rcases given with ⟨second, _, rfl, fits, third, _, rfl, thirdFits, last, rfl, lastFits, isNumber⟩
    have isSecond : second.toNat = 0x80 + number / 4096 % 64 := by omega
    have isThird : third.toNat = 0x80 + number / 64 % 64 := by omega
    have isLast : last.toNat = 0x80 + number % 64 := by omega
    refine ⟨by omega, .inr (.inr (.inr ⟨by omega, by omega, ?_⟩))⟩
    rw [List.map_cons, List.map_cons, List.map_singleton, isSecond, isThird, isLast]
  · intro given
    rcases given with ⟨valid, single | double | triple | quadruple⟩
    · omega
    · omega
    · omega
    · rcases List.map_eq_cons_iff.mp quadruple.2.2 with ⟨second, _, rfl, isSecond, isMore⟩
      rcases List.map_eq_cons_iff.mp isMore with ⟨third, _, rfl, isThird, isLastOne⟩
      rcases List.map_eq_singleton_iff.mp isLastOne with ⟨last, rfl, isLast⟩
      exact ⟨second, _, rfl, by omega, third, _, rfl, by omega, last, rfl, by omega, by omega⟩

/-! ### After the next octet -/

theorem last (unfinished : Unfinished taken bits 0 least greatest)
    (fits : least ≤ octet.toNat ∧ octet.toNat ≤ greatest) :
    String.utf8EncodeChar (Char.ofNat (bits * 64 + (octet.toNat - 0x80))) = taken ++ [octet] := by
  rcases unfinished.finishes_iff.mp (.last fits rfl) with ⟨character, isNumber, whole⟩
  rwa [← isNumber, Char.ofNat_toNat]

theorem onward (unfinished : Unfinished taken bits (remaining + 1) least greatest)
    (fits : least ≤ octet.toNat ∧ octet.toNat ≤ greatest) :
    Unfinished (taken ++ [octet]) (bits * 64 + (octet.toNat - 0x80)) remaining 0x80 0xBF where
  finishes_iff := by
    intro number more
    rw [List.append_assoc, List.singleton_append, ← unfinished.finishes_iff]
    constructor
    · exact .onward fits
    · intro finishes
      cases finishes with
      | onward _ finishes => exact finishes
  notWhole character inFront := by
    rcases List.prefix_concat_iff.mp inFront with whole | before
    · have finishes := unfinished.finishes_iff.mpr ⟨character, rfl, whole⟩
      rcases finishes_succ_iff.mp finishes with ⟨_, _, single, _, later⟩
      cases single
      rcases later.exists_next with ⟨_, _, empty, _⟩
      cases empty
    · exact unfinished.notWhole character before
  notEmpty := List.append_ne_nil_of_left_ne_nil unfinished.notEmpty _
  possible := by decide

theorem begins (unfinished : Unfinished taken bits remaining least greatest) : Begins taken := by
  rcases exists_finishes bits remaining unfinished.possible with ⟨more, number, finishes⟩
  rcases unfinished.finishes_iff.mp finishes with ⟨character, _, whole⟩
  exact ⟨character, more, whole.symm⟩

/-- Where the next octet is out of bounds, nothing longer that is in front begins a character. -/
theorem length_le_of_broken (unfinished : Unfinished taken bits remaining least greatest)
    {rest other : List UInt8}
    (broken : ∀ octet ∈ rest.head?, ¬(least ≤ octet.toNat ∧ octet.toNat ≤ greatest))
    (inFront : other <+: taken ++ rest) (begins : Begins other) : other.length ≤ taken.length := by
  -- Anything longer goes on with the next octet, and what finishes a character begins within bounds.
  rcases Nat.le_total other.length taken.length with shorter | longer
  · exact shorter
  · rcases List.prefix_of_prefix_length_le (List.prefix_append taken rest) inFront longer with
      ⟨more, rfl⟩
    rcases begins with ⟨character, tail, whole⟩
    rw [List.append_assoc] at whole
    have finishes := unfinished.finishes_iff.mpr ⟨character, rfl, whole.symm⟩
    rcases finishes.exists_next with ⟨octet, _, split, fits⟩
    cases more with
    | nil => rw [List.append_nil]
    | cons first more =>
        cases split
        rcases (List.prefix_append_right_inj taken).mp inFront with ⟨_, rfl⟩
        cases broken octet rfl fits

theorem isIllFormed (unfinished : Unfinished taken bits remaining least greatest) {rest : List UInt8}
    (broken : ∀ octet ∈ rest.head?, ¬(least ≤ octet.toNat ∧ octet.toNat ≤ greatest)) :
    IsIllFormed taken (taken ++ rest) where
  inFront := List.prefix_append taken rest
  noCharacter character inFront := by
    have notLonger := unfinished.length_le_of_broken broken inFront ⟨character, List.prefix_rfl⟩
    exact unfinished.notWhole character
      (List.prefix_of_prefix_length_le inFront (List.prefix_append taken rest) notLonger)
  notEmpty := unfinished.notEmpty
  begins_or_single := .inl unfinished.begins
  longest _ := unfinished.length_le_of_broken broken

end Unfinished

/-! ## What is read -/

/-- What a first octet can tell. -/
inductive Leads (octet : UInt8) : Transition → Prop
  | single (whole : String.utf8EncodeChar (Char.ofNat octet.toNat) = [octet]) :
    Leads octet ⟨[Char.ofNat octet.toNat], .start⟩
  | none (beginsNone : ∀ character more, String.utf8EncodeChar character ≠ octet :: more) :
    Leads octet ⟨[replacement], .start⟩
  | longer {bits remaining least greatest : Nat}
    (unfinished : Unfinished [octet] bits remaining least greatest) :
    Leads octet ⟨[], .inside bits remaining least greatest⟩

theorem leads_lead (octet : UInt8) : Leads octet (lead octet.toNat) := by
  unfold lead
  split
  · exact .single (encoded_single ‹_›)
  split
  · exact .none (encoded_ne_cons (by omega))
  split
  · exact .longer (.of_two (by omega) (by omega))
  split
  · exact .longer (.of_three (by omega) (by omega) (by omega))
  split
  · exact .longer (.of_three (by omega) (by omega) (by omega))
  split
  · exact .longer (.of_three (by omega) (by omega) (by omega))
  split
  · exact .longer (.of_four (by omega) (by omega) (by omega))
  split
  · exact .longer (.of_four (by omega) (by omega) (by omega))
  split
  · exact .longer (.of_four (by omega) (by omega) (by omega))
  · exact .none (encoded_ne_cons (by omega))

theorem decodeFrom_cons (state : State) (octet : UInt8) (rest : List UInt8) :
    decodeFrom state (octet :: rest) =
      (state.step octet.toNat).characters ++ decodeFrom (state.step octet.toNat).next rest := by
  cases state <;> rfl

/-- An octet that breaks a character is read once more, from the start. -/
theorem decodeFrom_cons_of_broken {bits remaining least greatest : Nat} {octet : UInt8}
    (broken : ¬(least ≤ octet.toNat ∧ octet.toNat ≤ greatest)) (rest : List UInt8) :
    decodeFrom (.inside bits remaining least greatest) (octet :: rest) =
      replacement :: decodeFrom .start (octet :: rest) := by
  have restarts : (State.inside bits remaining least greatest).step octet.toNat =
      ⟨replacement :: (lead octet.toNat).characters, (lead octet.toNat).next⟩ := if_neg broken
  rw [decodeFrom_cons, decodeFrom_cons, restarts]
  rfl

/-- From the start and from inside of any character, what is read is what the octets spell. -/
structure ReadAsSpelled (octets : List UInt8) : Prop where
  fromStart : Spells octets (decodeFrom .start octets)
  fromInside {taken : List UInt8} {bits remaining least greatest : Nat}
    (unfinished : Unfinished taken bits remaining least greatest) :
    Spells (taken ++ octets) (decodeFrom (.inside bits remaining least greatest) octets)

namespace ReadAsSpelled

theorem nil : ReadAsSpelled [] where
  fromStart := .nil
  fromInside unfinished := .replaced (unfinished.isIllFormed (by simp)) .nil

variable {octet : UInt8} {rest : List UInt8} (read : ReadAsSpelled rest)

include read

theorem cons_fromStart : Spells (octet :: rest) (decodeFrom .start (octet :: rest)) := by
  rw [decodeFrom_cons, State.step]
  have leads := leads_lead octet
  generalize lead octet.toNat = outcome at leads
  cases leads with
  | single whole =>
      have spells := Spells.character (Char.ofNat octet.toNat) read.fromStart
      rwa [whole] at spells
  | none beginsNone => exact .replaced (isIllFormed_singleton beginsNone) read.fromStart
  | longer unfinished => exact read.fromInside unfinished

theorem cons : ReadAsSpelled (octet :: rest) where
  fromStart := read.cons_fromStart
  fromInside := by
    intro taken bits remaining least greatest unfinished
    -- An octet within bounds belongs to the character; any other one is the first of what comes after.
    by_cases fits : least ≤ octet.toNat ∧ octet.toNat ≤ greatest
    · rw [decodeFrom_cons, State.step, if_pos fits, ← List.singleton_append, ← List.append_assoc]
      cases remaining with
      | zero =>
          rw [← unfinished.last fits]
          exact .character _ read.fromStart
      | succ remaining => exact read.fromInside (unfinished.onward fits)
    · have broken : ∀ next ∈ (octet :: rest).head?,
          ¬(least ≤ next.toNat ∧ next.toNat ≤ greatest) := by
        intro next isNext
        cases isNext
        exact fits
      rw [decodeFrom_cons_of_broken fits]
      exact .replaced (unfinished.isIllFormed broken) read.cons_fromStart

end ReadAsSpelled

theorem readAsSpelled (octets : List UInt8) : ReadAsSpelled octets := by
  induction octets with
  | nil => exact .nil
  | cons octet rest induction => exact induction.cons

/-- What is read is the one text that the octets spell. -/
theorem decode_eq_iff {octets : List UInt8} {text : List Char} :
    decode octets = text ↔ Spells octets text := by
  have read : Spells octets (decode octets) := (readAsSpelled octets).fromStart
  constructor
  · intro same
    exact same ▸ read
  · exact read.unique

end CursorParsing.Text.Utf8
