import CursorParsing.Proofs.LocaleFormats
import Mathlib.Data.Nat.Digits.Defs

/-!
# Lenient reading

A library reads leniently without the group symbols and with a point for the decimal symbol, and then
exactly. So the body of a number means the number that its digits write with the point at the decimal
symbol, however many digits there are. It means none if it has no digit or two decimal symbols.
-/

namespace CursorParsing

open Number

/-! ## What a text writes -/

/-- At least one digit, and at most one decimal symbol. -/
def WritesNumber (decimalSymbol : Char) (text : List Char) : Prop :=
  (∃ character ∈ text, character.isDigit = true) ∧ text.count decimalSymbol ≤ 1

/-- How many digits there are after the decimal symbol. -/
def fractionLength (decimalSymbol : Char) (text : List Char) : Nat :=
  (text.dropWhile (· != decimalSymbol)).countP Char.isDigit

/-- All the digits of a text as those of one number, the last one least significant. -/
def digitsValue (text : List Char) : Nat :=
  Nat.ofDigits 10 ((text.filter Char.isDigit).map digitValue).reverse

theorem numeralValue_eq_ofDigits (digits : List Char) :
    numeralValue digits = Nat.ofDigits 10 (digits.map digitValue).reverse := by
  induction digits using List.reverseRecOn with
  | nil => rfl
  | append_singleton digits digit induction =>
      rw [numeralValue] at induction ⊢
      rw [List.foldl_append, induction]
      simp [Nat.ofDigits_cons, Nat.add_comm]

theorem numeralValue_filter_isDigit (text : List Char) :
    numeralValue (text.filter Char.isDigit) = digitsValue text := numeralValue_eq_ofDigits _

/-! ## Texts of figures -/

/-- The point, where there is the decimal symbol. -/
def pointFor (decimalSymbol character : Char) : Char :=
  if character = decimalSymbol then '.' else character

section Figures

variable {decimalSymbol : Char} {text whole more : List Char}

theorem map_pointFor_of_isDigit (noDigit : decimalSymbol.isDigit = false)
    (digits : ∀ character ∈ text, character.isDigit = true) :
    text.map (pointFor decimalSymbol) = text := by
  have same : text.map (pointFor decimalSymbol) = text.map id := by
    apply List.map_congr_left
    intro character member
    have different : character ≠ decimalSymbol := fun equal =>
      not_mem_of_isDigit noDigit digits (equal ▸ member)
    rw [pointFor, if_neg different, id]
  rw [same, List.map_id]

theorem digits_or_split (figures : ∀ character ∈ text, IsFigure decimalSymbol character) :
    (∀ character ∈ text, character.isDigit = true) ∨
      ∃ whole more, text = whole ++ decimalSymbol :: more ∧
        (∀ character ∈ whole, character.isDigit = true) ∧
        ∀ character ∈ more, IsFigure decimalSymbol character := by
  by_cases found : decimalSymbol ∈ text
  · right
    rcases List.eq_append_cons_of_mem found with ⟨whole, more, rfl, without⟩
    refine ⟨whole, more, rfl, ?_, fun character member => figures character (by simp [member])⟩
    intro character member
    exact (figures character (by simp [member])).resolve_right fun equal => without (equal ▸ member)
  · left
    intro character member
    exact (figures character member).resolve_right fun equal => found (equal ▸ member)

theorem fractionLength_of_not_mem (without : decimalSymbol ∉ text) :
    fractionLength decimalSymbol text = 0 := by
  have dropped : text.dropWhile (· != decimalSymbol) = [] :=
    List.dropWhile_eq_nil_iff.mpr (bne_of_not_mem without)
  rw [fractionLength, dropped, List.countP_nil]

theorem fractionLength_append (noDigit : decimalSymbol.isDigit = false)
    (without : decimalSymbol ∉ whole) :
    fractionLength decimalSymbol (whole ++ decimalSymbol :: more) = more.countP Char.isDigit := by
  rw [fractionLength, List.dropWhile_append_of_pos (bne_of_not_mem without)]
  simp [noDigit]

theorem writesNumber_of_isDigit (noDigit : decimalSymbol.isDigit = false)
    (digits : ∀ character ∈ text, character.isDigit = true) :
    WritesNumber decimalSymbol text ↔ text ≠ [] := by
  rw [WritesNumber, List.count_eq_zero_of_not_mem (not_mem_of_isDigit noDigit digits)]
  constructor
  · intro writes equal
    rcases writes.1 with ⟨character, member, _⟩
    rw [equal] at member
    cases member
  · intro notEmpty
    rcases List.exists_mem_of_ne_nil text notEmpty with ⟨character, member⟩
    exact ⟨⟨character, member, digits character member⟩, Nat.zero_le 1⟩

theorem writesNumber_pointed (noDigit : decimalSymbol.isDigit = false)
    (wholeDigits : ∀ character ∈ whole, character.isDigit = true)
    (moreDigits : ∀ character ∈ more, character.isDigit = true) :
    WritesNumber decimalSymbol (whole ++ decimalSymbol :: more) ↔ whole ++ more ≠ [] := by
  have digits : ∀ character ∈ whole ++ more, character.isDigit = true := by
    intro character member
    exact (List.mem_append.mp member).elim (wholeDigits character) (moreDigits character)
  rw [← writesNumber_of_isDigit noDigit digits, WritesNumber, WritesNumber,
    List.count_eq_zero_of_not_mem (not_mem_of_isDigit noDigit digits), List.count_append,
    List.count_cons_self, List.count_eq_zero_of_not_mem (not_mem_of_isDigit noDigit wholeDigits),
    List.count_eq_zero_of_not_mem (not_mem_of_isDigit noDigit moreDigits)]
  simp [noDigit, or_and_right, exists_or]

theorem not_writesNumber_of_two (whole fraction later : List Char) :
    ¬WritesNumber decimalSymbol
      (whole ++ decimalSymbol :: (fraction ++ decimalSymbol :: later)) := by
  intro writes
  have once := writes.2
  rw [List.count_append, List.count_cons_self, List.count_append, List.count_cons_self] at once
  omega

/-- A text of figures is read as the number that it writes, if it writes one. -/
theorem read?_map_pointFor_iff (noDigit : decimalSymbol.isDigit = false)
    (figures : ∀ character ∈ text, IsFigure decimalSymbol character) {numeral : Numeral} :
    Numeral.read? (text.map (pointFor decimalSymbol)) = some numeral ↔
      WritesNumber decimalSymbol text ∧
        numeral = ⟨digitsValue text, -(fractionLength decimalSymbol text : Int)⟩ := by
  have point : pointFor decimalSymbol decimalSymbol = '.' := if_pos rfl
  rcases digits_or_split figures with digits | ⟨whole, more, rfl, wholeDigits, moreFigures⟩
  · rw [map_pointFor_of_isDigit noDigit digits, writesNumber_of_isDigit noDigit digits,
      fractionLength_of_not_mem (not_mem_of_isDigit noDigit digits), ← numeralValue_filter_isDigit,
      List.filter_eq_self.mpr digits]
    by_cases empty : text = []
    · simp [empty, Numeral.read?, Numeral.splitFraction]
    · simp [empty, Numeral.read?_whole digits empty, eq_comm]
  · rw [List.map_append, List.map_cons, point, map_pointFor_of_isDigit noDigit wholeDigits,
      fractionLength_append noDigit (not_mem_of_isDigit noDigit wholeDigits)]
    rcases digits_or_split moreFigures with digits | ⟨fraction, later, rfl, fractionDigits, _⟩
    · rw [map_pointFor_of_isDigit noDigit digits, Numeral.read?_pointed wholeDigits digits,
        writesNumber_pointed noDigit wholeDigits digits, ← numeralValue_filter_isDigit,
        List.countP_eq_length.mpr digits, List.filter_append, List.filter_cons, noDigit,
        List.filter_eq_self.mpr wholeDigits, List.filter_eq_self.mpr digits]
      by_cases empty : whole ++ more = [] <;> simp [empty, eq_comm]
    · rw [List.map_append, List.map_cons, point, map_pointFor_of_isDigit noDigit fractionDigits,
        Numeral.read?_two_points wholeDigits fractionDigits]
      simp [not_writesNumber_of_two]

/-! ### Figures among other characters -/

theorem writesNumber_filter_isFigure :
    WritesNumber decimalSymbol (text.filter (IsFigure decimalSymbol ·)) ↔
      WritesNumber decimalSymbol text := by
  have counted : (text.filter (IsFigure decimalSymbol ·)).count decimalSymbol =
      text.count decimalSymbol := List.count_filter (decide_eq_true (.inr rfl))
  rw [WritesNumber, WritesNumber, counted]
  refine and_congr_left fun _ => ⟨?_, ?_⟩
  · intro found
    rcases found with ⟨character, member, isDigit⟩
    exact ⟨character, List.mem_of_mem_filter member, isDigit⟩
  · intro found
    rcases found with ⟨character, member, isDigit⟩
    exact ⟨character, List.mem_filter.mpr ⟨member, decide_eq_true (.inl isDigit)⟩, isDigit⟩

theorem filter_isDigit_filter_isFigure :
    (text.filter (IsFigure decimalSymbol ·)).filter Char.isDigit = text.filter Char.isDigit := by
  rw [List.filter_filter]
  apply List.filter_congr
  intro character _
  by_cases isDigit : character.isDigit = true <;> simp [isDigit, IsFigure]

/-- The decimal symbol is a figure, so leaving out the others does not pass over it. -/
theorem dropWhile_filter_isFigure :
    (text.filter (IsFigure decimalSymbol ·)).dropWhile (· != decimalSymbol) =
      (text.dropWhile (· != decimalSymbol)).filter (IsFigure decimalSymbol ·) := by
  induction text with
  | nil => rfl
  | cons character text induction =>
      by_cases same : character = decimalSymbol
      · have kept : IsFigure decimalSymbol decimalSymbol := .inr rfl
        simp [same, kept]
      · by_cases kept : IsFigure decimalSymbol character
        · simpa [same, kept] using induction
        · simpa [same, kept] using induction

theorem fractionLength_filter_isFigure :
    fractionLength decimalSymbol (text.filter (IsFigure decimalSymbol ·)) =
      fractionLength decimalSymbol text := by
  rw [fractionLength, dropWhile_filter_isFigure, List.countP_eq_length_filter,
    filter_isDigit_filter_isFigure, ← List.countP_eq_length_filter, fractionLength]

end Figures

/-! ## The lenient reading of a body -/

namespace NumberFormat

variable {format : NumberFormat} {text : List Char}

/-- A text of digits and the symbols of a format. -/
def OverSymbols (format : NumberFormat) (text : List Char) : Prop :=
  ∀ character ∈ text, IsFigure format.decimalSymbol character ∨ character = format.groupSymbol

/-- What a library promises of lenient reading: of texts of digits and the symbols of a format, those are
numbers that are so without group symbols and with a point for each decimal symbol. They are read exactly, and
any other is refused. -/
structure ReadsLeniently (format : NumberFormat) (read : NumberReading) : Prop where
  accepts : ∀ text number, format.OverSymbols text → format.readLenient? text = some number →
    read false text = .ok number
  refuses : ∀ text, format.OverSymbols text → format.readLenient? text = none →
    ∃ reason, read false text = .error (.refused reason)

theorem ReadsLeniently.eq_ok_iff {read : NumberReading} (lenient : format.ReadsLeniently read)
    (symbols : format.OverSymbols text) {number : Decimal} :
    read false text = .ok number ↔ format.readLenient? text = some number := by
  refine ⟨fun reads => ?_, lenient.accepts text number symbols⟩
  rcases found : format.readLenient? text with _ | other
  · rcases lenient.refuses text symbols found with ⟨reason, refused⟩
    cases refused.symm.trans reads
  · cases (lenient.accepts text other symbols found).symm.trans reads
    rfl

/-- The reading of a format keeps the promise. -/
theorem readsLeniently (format : NumberFormat) : format.ReadsLeniently format.read where
  accepts text number _ found := by
    rw [read, found]
    rfl
  refuses text _ without := by
    rw [read, without]
    exact ⟨_, rfl⟩

/-- Whatever separates the groups of a body is read as the group symbol. -/
theorem overSymbols_normalized (body : text ∈ bodies format.decimalSymbol format.groupSymbol) :
    format.OverSymbols (format.normalized text) := by
  refine List.forall_mem_map.mpr fun character member => ?_
  unfold symbolFor
  split
  · exact .inr rfl
  · rename_i noSeparator
    exact .inl ((figure_or_separator_of_mem_bodies body character member).resolve_right noSeparator)

/-- Without the separators a body is a text of figures. -/
theorem pointed_normalized (usable : format.IsUsable)
    (body : ∀ character ∈ text,
      IsFigure format.decimalSymbol character ∨ format.IsSeparator character) :
    pointed format.groupSymbol format.decimalSymbol (format.normalized text) =
      (text.filter (IsFigure format.decimalSymbol ·)).map (pointFor format.decimalSymbol) := by
  rw [normalized, pointed]
  refine congrArg (List.map _) ?_
  induction text with
  | nil => rfl
  | cons character text induction =>
      have later := induction fun other member => body other (List.mem_cons_of_mem _ member)
      rw [List.map_cons, List.filter_cons, List.filter_cons, later]
      by_cases isFigure : IsFigure format.decimalSymbol character
      · have noSeparator := usable.not_isSeparator isFigure
        have kept : (character != format.groupSymbol) = true :=
          bne_iff_ne.mpr fun equal => noSeparator (.inl equal)
        simp only [symbolFor, noSeparator, if_false, kept, isFigure, decide_true, if_true]
      · have isSeparator := (body character List.mem_cons_self).resolve_left isFigure
        simp only [symbolFor, isSeparator, if_true, bne_self_eq_false, isFigure, decide_false,
          Bool.false_eq_true, if_false]

theorem readLenient?_eq_some_iff (usable : format.IsUsable)
    (body : text ∈ bodies format.decimalSymbol format.groupSymbol) {number : Decimal} :
    format.readLenient? (format.normalized text) = some number ↔
      WritesNumber format.decimalSymbol text ∧
        number = ⟨false, digitsValue text, -(fractionLength format.decimalSymbol text : Int)⟩ := by
  have figures : ∀ character ∈ text.filter (IsFigure format.decimalSymbol ·),
      IsFigure format.decimalSymbol character := fun character member =>
    of_decide_eq_true (List.mem_filter.mp member).2
  have reads := @read?_map_pointFor_iff _ _ usable.decimalSymbol_isDigit figures
  rw [readLenient?, readPointed?,
    pointed_normalized usable (figure_or_separator_of_mem_bodies body), Option.map_eq_some_iff]
  simp only [reads, writesNumber_filter_isFigure, fractionLength_filter_isFigure, digitsValue,
    filter_isDigit_filter_isFigure]
  constructor
  · intro given
    rcases given with ⟨numeral, ⟨writes, rfl⟩, rfl⟩
    exact ⟨writes, rfl⟩
  · intro given
    exact ⟨_, ⟨given.1, rfl⟩, given.2.symm⟩

/-- A text is read as a number without a sign. -/
theorem negative_of_readLenient? {number : Decimal} (found : format.readLenient? text = some number) :
    number.negative = false := by
  rcases Option.map_eq_some_iff.mp found with ⟨numeral, _, rfl⟩
  rfl

end NumberFormat

end CursorParsing
