import CursorParsing.Locale.Reading
import CursorParsing.Proofs.NumberBodies

/-!
# The symbols of locales

The symbols of a usable format can be told from digits and from one another. So in the body of a number each
character is a digit, the decimal symbol or a separator of groups.
-/

namespace CursorParsing

/-! ## Usable formats -/

namespace NumberFormat

/-- Whether a character stands between groups: the group symbol, and every sort of space if the group
symbol is a space. -/
def IsSeparator (format : NumberFormat) (character : Char) : Prop :=
  character = format.groupSymbol ∨ isSpaceGroup [format.groupSymbol] = true ∧ IsSpace character

instance (format : NumberFormat) (character : Char) : Decidable (format.IsSeparator character) :=
  inferInstanceAs (Decidable (_ ∨ _ ∧ character ∈ spaceVariants))

/-- A format whose symbols can be told from digits and from one another, and whose groups have digits. -/
structure IsUsable (format : NumberFormat) : Prop where
  symbols_ne : format.decimalSymbol ≠ format.groupSymbol
  decimalSymbol_isDigit : format.decimalSymbol.isDigit = false
  groupSymbol_isDigit : format.groupSymbol.isDigit = false
  decimalSymbol_not_space : format.decimalSymbol ∉ spaceVariants
  minusSymbol_plain : ∀ character ∈ format.minusSymbol, ¬format.IsSeparator character
  grouping_pos : ∀ grouping ∈ format.grouping, 0 < grouping.primary ∧ 0 < grouping.secondary

theorem isUsable_iff (format : NumberFormat) :
    format.IsUsable ↔
      (format.decimalSymbol ≠ format.groupSymbol ∧ format.decimalSymbol.isDigit = false ∧
        format.groupSymbol.isDigit = false ∧ format.decimalSymbol ∉ spaceVariants) ∧
        format.minusSymbol.all (¬format.IsSeparator ·) = true ∧
        format.grouping.all (fun grouping => 0 < grouping.primary ∧ 0 < grouping.secondary) = true := by
  simp only [List.all_eq_true, Option.all_eq_true, decide_eq_true_eq]
  constructor
  · intro usable
    exact ⟨⟨usable.symbols_ne, usable.decimalSymbol_isDigit, usable.groupSymbol_isDigit,
      usable.decimalSymbol_not_space⟩, usable.minusSymbol_plain, usable.grouping_pos⟩
  · intro given
    rcases given with ⟨⟨different, decimalNoDigit, groupNoDigit, noSpace⟩, plain, positive⟩
    exact ⟨different, decimalNoDigit, groupNoDigit, noSpace, plain, positive⟩

instance (format : NumberFormat) : Decidable format.IsUsable :=
  decidable_of_iff _ format.isUsable_iff.symm

/-! ## The characters of bodies -/

section Characters

variable {format : NumberFormat} {text : List Char}

/-- What a character is read as: wherever there is a separator, the group symbol. -/
def symbolFor (format : NumberFormat) (character : Char) : Char :=
  if format.IsSeparator character then format.groupSymbol else character

theorem isSeparator_iff_isSpace (spaced : isSpaceGroup [format.groupSymbol] = true) (character : Char) :
    format.IsSeparator character ↔ IsSpace character := by
  have isSpace : IsSpace format.groupSymbol := by simpa [isSpaceGroup, IsSpace] using spaced
  rw [IsSeparator, spaced]
  exact ⟨fun given => given.elim (fun same => same ▸ isSpace) And.right, fun given => .inr ⟨rfl, given⟩⟩

theorem isSeparator_iff_eq (notSpaced : ¬isSpaceGroup [format.groupSymbol] = true) (character : Char) :
    format.IsSeparator character ↔ character = format.groupSymbol :=
  or_iff_left fun given => notSpaced given.1

theorem symbolFor_eq_id (notSpaced : ¬isSpaceGroup [format.groupSymbol] = true) :
    format.symbolFor = id := by
  funext character
  simp only [symbolFor, isSeparator_iff_eq notSpaced, id]
  split
  · rename_i equal
    exact equal.symm
  · rfl

/-- A body as it is read. -/
def normalized (format : NumberFormat) (text : List Char) : List Char := text.map format.symbolFor

theorem normalized_locale (read : NumberReading) (text : List Char) :
    (format.locale read).normalized text = format.normalized text := by
  change (if isSpaceGroup [format.groupSymbol] then text.flatMap fun character =>
      if spaceVariants.contains character then [format.groupSymbol] else [character] else text) = _
  split
  · rename_i spaced
    rw [normalized, List.map_eq_flatMap]
    apply List.flatMap_congr
    intro character _
    simp only [symbolFor, isSeparator_iff_isSpace spaced, IsSpace, List.contains_eq_mem,
      decide_eq_true_eq]
    split <;> rfl
  · rename_i notSpaced
    rw [normalized, symbolFor_eq_id notSpaced, List.map_id]

theorem map_symbolFor_eq_self (plain : ∀ character ∈ text, ¬format.IsSeparator character) :
    text.map format.symbolFor = text :=
  (List.map_congr_left fun character member => if_neg (plain character member)).trans (List.map_id _)

theorem isSeparator_symbolFor (character : Char) :
    format.IsSeparator (format.symbolFor character) ↔ format.IsSeparator character := by
  unfold symbolFor
  split
  · rename_i isSeparator
    exact iff_of_true (.inl rfl) isSeparator
  · exact Iff.rfl

theorem symbolFor_eq_groupSymbol_iff (character : Char) :
    format.symbolFor character = format.groupSymbol ↔ format.IsSeparator character := by
  unfold symbolFor
  split
  · rename_i isSeparator
    exact iff_of_true rfl isSeparator
  · rename_i noSeparator
    exact iff_of_false (fun same => noSeparator (.inl same)) noSeparator

theorem IsUsable.not_isSeparator (usable : format.IsUsable) {character : Char}
    (isFigure : IsFigure format.decimalSymbol character) : ¬format.IsSeparator character := by
  intro isSeparator
  rcases isSeparator with rfl | ⟨_, isSpace⟩
  · rcases isFigure with isDigit | same
    · exact absurd isDigit (by rw [usable.groupSymbol_isDigit]; decide)
    · exact usable.symbols_ne same.symm
  · exact not_isSpace_of_isFigure usable.decimalSymbol_not_space _ isFigure isSpace

theorem IsUsable.ne_groupSymbol (usable : format.IsUsable) {character : Char}
    (isFigure : IsFigure format.decimalSymbol character) : character ≠ format.groupSymbol :=
  fun same => usable.not_isSeparator isFigure (.inl same)

/-- What is read as a figure is that figure. -/
theorem IsUsable.symbolFor_eq (usable : format.IsUsable) {character : Char}
    (isFigure : IsFigure format.decimalSymbol (format.symbolFor character)) :
    format.symbolFor character = character :=
  if_neg ((isSeparator_symbolFor character).not.mp (usable.not_isSeparator isFigure))

theorem figure_or_separator_of_mem_bodies
    (body : text ∈ bodies format.decimalSymbol format.groupSymbol) :
    ∀ character ∈ text, IsFigure format.decimalSymbol character ∨ format.IsSeparator character := by
  intro character member
  unfold bodies at body
  split at body
  · rename_i spaced
    rw [isSeparator_iff_isSpace spaced]
    exact figure_or_gap_of_mem_spacedRows body character member
  · rename_i notSpaced
    rw [isSeparator_iff_eq notSpaced]
    exact body.2 character member

/-- Figures with separators between them are written as a body is. -/
theorem mem_bodies_of_figure_or_separator
    (starts : ∃ character ∈ text.head?, IsFigure format.decimalSymbol character)
    (ends : ∃ character ∈ text.getLast?, IsFigure format.decimalSymbol character)
    (either : ∀ character ∈ text, IsFigure format.decimalSymbol character ∨ format.IsSeparator character) :
    text ∈ bodies format.decimalSymbol format.groupSymbol := by
  unfold bodies
  split
  · rename_i spaced
    simp only [isSeparator_iff_isSpace spaced] at either
    exact mem_spacedRows_iff.mpr ⟨starts, ends, either⟩
  · rename_i notSpaced
    simp only [isSeparator_iff_eq notSpaced] at either
    rcases starts with ⟨first, begins, _⟩
    exact ⟨List.ne_nil_of_mem (List.mem_of_head? begins), either⟩

end Characters

end NumberFormat

end CursorParsing
