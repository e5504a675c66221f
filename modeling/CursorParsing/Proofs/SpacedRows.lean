import CursorParsing.Proofs.Forms
import CursorParsing.Proofs.LongestTexts

/-!
# Rows with gaps between them

The longest text in front that is a row of characters of one kind, or rows with gaps between them. It is
found row by row, each row and each gap as long as can be.
-/

namespace CursorParsing

open Computability

/-! ## The longest text of a language -/

/-- The longest text of a language, and what comes after it. -/
def Form.longest (language : Language Char) : Form (List Char) :=
  fun left text rest => left = text ++ rest ∧ IsLongest language text left

/-- What is in front begins as the whole does. -/
theorem exists_head?_of_inFront {kind : Char → Prop} {text left : List Char} (inFront : text <+: left)
    (begins : ∃ character ∈ text.head?, kind character) :
    ∃ character ∈ left.head?, kind character := by
  rcases begins with ⟨character, starts, same⟩
  rcases inFront with ⟨rest, rfl⟩
  exact ⟨character, by simp [Option.mem_def.mp starts], same⟩

/-! ## Rows of characters -/

section Rows

variable {kind : Char → Prop} {left text rest : List Char}

theorem head?_of_mem_rowsOf (row : text ∈ rowsOf kind) : ∃ character ∈ text.head?, kind character :=
  ⟨_, List.head?_eq_some_head row.1, row.2 _ (List.head_mem row.1)⟩

theorem append_singleton_mem_rowsOf {character : Char} (row : text ∈ rowsOf kind)
    (same : kind character) : text ++ [character] ∈ rowsOf kind := by
  refine ⟨by simp, ?_⟩
  intro other member
  rcases List.mem_append.mp member with before | last
  · exact row.2 other before
  · rwa [List.mem_singleton.mp last]

/-- A row is the longest if what comes after it does not go on with its kind. -/
theorem longest_rowsOf_iff :
    Form.longest (rowsOf kind) left text rest ↔
      left = text ++ rest ∧ text ∈ rowsOf kind ∧ ∀ character ∈ rest.head?, ¬kind character := by
  refine and_congr_right fun split => ?_
  rw [split, isLongest_rowsOf_iff, isLongest_runsOf_iff, ← and_assoc]
  rfl

/-- The characters up to the first of another kind are the longest row, if there are any. -/
theorem longest_rowsOf_takeWhile [DecidablePred kind] (notEmpty : left.takeWhile (kind ·) ≠ []) :
    Form.longest (rowsOf kind) left (left.takeWhile (kind ·)) (left.dropWhile (kind ·)) := by
  have isLongest := isLongest_runsOf_takeWhile (kind ·) left
  simp only [decide_eq_true_eq] at isLongest
  exact ⟨List.takeWhile_append_dropWhile.symm, isLongest_rowsOf_iff.mpr ⟨notEmpty, isLongest⟩⟩

theorem exists_longest_rowsOf (begins : ∃ character ∈ left.head?, kind character) :
    ∃ text rest, Form.longest (rowsOf kind) left text rest := by
  classical
  rcases begins with ⟨character, starts, same⟩
  rcases List.head?_eq_some_iff.mp starts with ⟨more, rfl⟩
  exact ⟨_, _, longest_rowsOf_takeWhile (by simp [same])⟩

end Rows

/-! ## Rows with gaps between them -/

/-- Rows of one kind with rows of another kind, the gaps, between them. -/
def spacedRows (figure gap : Char → Prop) : Language Char :=
  rowsOf figure * (rowsOf gap * rowsOf figure)∗

section SpacedRows

variable {figure gap : Char → Prop} {left text rest gaps row : List Char}

theorem rowsOf_subset_spacedRows (member : row ∈ rowsOf figure) : row ∈ spacedRows figure gap := by
  have spaced := Language.append_mem_mul member (Language.nil_mem_kstar (rowsOf gap * rowsOf figure))
  rwa [List.append_nil] at spaced

theorem append_mem_spacedRows (spaced : text ∈ spacedRows figure gap) (isGap : gaps ∈ rowsOf gap)
    (isRow : row ∈ rowsOf figure) : text ++ (gaps ++ row) ∈ spacedRows figure gap := by
  rcases Language.mem_mul.mp spaced with ⟨first, firstRow, later, ⟨chunks, rfl, each⟩, rfl⟩
  refine Language.mem_mul.mpr
    ⟨first, firstRow, _, ⟨chunks ++ [gaps ++ row], rfl, ?_⟩, by simp⟩
  intro chunk member
  rcases List.mem_append.mp member with before | last
  · exact each chunk before
  · rw [List.mem_singleton.mp last]
    exact Language.append_mem_mul isGap isRow

/-- Spaced rows are a row, or spaced rows with one more gap and one more row after it. -/
@[elab_as_elim] theorem spacedRows_induction {motive : List Char → Prop}
    (first : ∀ row ∈ rowsOf figure, motive row)
    (next : ∀ text ∈ spacedRows figure gap, motive text → ∀ gaps ∈ rowsOf gap, ∀ row ∈ rowsOf figure,
      motive (text ++ (gaps ++ row)))
    (spaced : text ∈ spacedRows figure gap) : motive text := by
  rcases Language.mem_mul.mp spaced with ⟨row, isRow, later, ⟨chunks, rfl, each⟩, rfl⟩
  clear spaced
  induction chunks using List.reverseRecOn with
  | nil => simpa using first row isRow
  | append_singleton chunks chunk induction =>
      have eachBefore (other : List Char) (member : other ∈ chunks) :
          other ∈ rowsOf gap * rowsOf figure := each other (List.mem_append_left _ member)
      have before : row ++ chunks.flatten ∈ spacedRows figure gap :=
        Language.append_mem_mul isRow (Language.join_mem_kstar eachBefore)
      rcases Language.mem_mul.mp (each chunk (by simp)) with ⟨gaps, isGap, last, isLast, rfl⟩
      simpa using next _ before (induction eachBefore) gaps isGap last isLast

theorem figure_or_gap_of_mem_spacedRows (spaced : text ∈ spacedRows figure gap) :
    ∀ character ∈ text, figure character ∨ gap character := by
  refine spacedRows_induction ?first ?next spaced
  case first => exact fun row isRow character member => .inl (isRow.2 character member)
  case next =>
    intro text _ before gaps isGap row isRow character member
    rcases List.mem_append.mp member with early | late
    · exact before character early
    rcases List.mem_append.mp late with inGap | inRow
    · exact .inr (isGap.2 character inGap)
    · exact .inl (isRow.2 character inRow)

theorem figure_head?_of_mem_spacedRows (spaced : text ∈ spacedRows figure gap) :
    ∃ character ∈ text.head?, figure character := by
  refine spacedRows_induction ?first ?next spaced
  case first => exact fun row isRow => head?_of_mem_rowsOf isRow
  case next =>
    exact fun text _ before gaps _ row _ => exists_head?_of_inFront (List.prefix_append _ _) before

theorem figure_getLast?_of_mem_spacedRows (spaced : text ∈ spacedRows figure gap) :
    ∃ character ∈ text.getLast?, figure character := by
  have ofRow (row : List Char) (isRow : row ∈ rowsOf figure) :
      ∃ character ∈ row.getLast?, figure character :=
    ⟨_, List.getLast?_eq_some_getLast isRow.1, isRow.2 _ (List.getLast_mem isRow.1)⟩
  refine spacedRows_induction ofRow ?next spaced
  case next =>
    intro text _ _ gaps _ row isRow
    rcases ofRow row isRow with ⟨character, ends, isFigure⟩
    exact ⟨character, by simp [Option.mem_def.mp ends], isFigure⟩

theorem append_figure_mem_spacedRows {character : Char} (spaced : text ∈ spacedRows figure gap)
    (areGaps : ∀ other ∈ gaps, gap other) (isFigure : figure character) :
    text ++ (gaps ++ [character]) ∈ spacedRows figure gap := by
  cases gaps with
  | cons other gaps =>
      exact append_mem_spacedRows spaced ⟨List.cons_ne_nil _ _, areGaps⟩
        ⟨List.cons_ne_nil _ _, by simpa using isFigure⟩
  | nil =>
      refine spacedRows_induction ?first ?next spaced
      case first =>
        exact fun row isRow => rowsOf_subset_spacedRows (append_singleton_mem_rowsOf isRow isFigure)
      case next =>
        intro text spaced _ gaps isGap row isRow
        rw [List.append_assoc, List.append_assoc]
        exact append_mem_spacedRows spaced isGap (append_singleton_mem_rowsOf isRow isFigure)

/-- After spaced rows and a gap more of both kinds may come, if the last character is no gap. -/
theorem append_mem_spacedRows_of_figure_or_gap {more : List Char} {last : Char}
    (spaced : text ∈ spacedRows figure gap) (areGaps : ∀ character ∈ gaps, gap character)
    (either : ∀ character ∈ more, figure character ∨ gap character) (isFigure : figure last) :
    text ++ (gaps ++ (more ++ [last])) ∈ spacedRows figure gap := by
  induction more generalizing text gaps with
  | nil => exact append_figure_mem_spacedRows spaced areGaps isFigure
  | cons character more induction =>
      rcases List.forall_mem_cons.mp either with ⟨here, later⟩
      rcases here with figureHere | gapHere
      · have longer := append_figure_mem_spacedRows spaced areGaps figureHere
        simpa using induction longer (List.forall_mem_nil _) later
      · have longer : ∀ other ∈ gaps ++ [character], gap other := by
          intro other member
          rcases List.mem_append.mp member with before | last
          · exact areGaps other before
          · rwa [List.mem_singleton.mp last]
        simpa using induction spaced longer later

/-- Spaced rows are the texts of both kinds that neither begin nor end with a gap. -/
theorem mem_spacedRows_iff :
    text ∈ spacedRows figure gap ↔
      (∃ character ∈ text.head?, figure character) ∧ (∃ character ∈ text.getLast?, figure character) ∧
        ∀ character ∈ text, figure character ∨ gap character := by
  constructor
  · intro spaced
    exact ⟨figure_head?_of_mem_spacedRows spaced, figure_getLast?_of_mem_spacedRows spaced,
      figure_or_gap_of_mem_spacedRows spaced⟩
  · intro given
    rcases given with ⟨⟨first, starts, firstFigure⟩, ⟨last, ends, lastFigure⟩, either⟩
    rcases List.head?_eq_some_iff.mp starts with ⟨rest, rfl⟩
    have single : [first] ∈ spacedRows figure gap :=
      rowsOf_subset_spacedRows ⟨List.cons_ne_nil _ _, by simpa using firstFigure⟩
    cases rest using List.reverseRecOn with
    | nil => exact single
    | append_singleton rest other =>
        rw [← List.cons_append, List.getLast?_concat, Option.mem_some_iff] at ends
        subst ends
        refine append_mem_spacedRows_of_figure_or_gap single (List.forall_mem_nil _) ?_ lastFigure
        exact fun character member => either character (by simp [member])

/-- No row follows, neither at once nor after a gap. -/
def HaltsRows (figure gap : Char → Prop) (rest : List Char) : Prop :=
  ∀ gaps more, rest = gaps ++ more → (∀ character ∈ gaps, gap character) →
    ∀ character ∈ more.head?, ¬figure character

/-- Where no row follows, only gaps do, up to something that is neither. -/
theorem HaltsRows.gap_of_mem {extra more : List Char} (halts : HaltsRows figure gap (extra ++ more))
    (either : ∀ character ∈ extra, figure character ∨ gap character) :
    ∀ character ∈ extra, gap character := by
  induction extra using List.reverseRecOn generalizing more with
  | nil => exact List.forall_mem_nil _
  | append_singleton extra last induction =>
      rw [List.append_assoc] at halts
      have before := induction halts fun character member =>
        either character (List.mem_append_left _ member)
      have notFigure := halts extra ([last] ++ more) rfl before last rfl
      intro character member
      rcases List.mem_append.mp member with early | late
      · exact before character early
      · rw [List.mem_singleton.mp late]
        exact (either last (by simp)).resolve_left notFigure

/-- Spaced rows are the longest if no row follows. What would be longer ends with a row, so it has one
after the gap that the difference begins with. -/
theorem longest_spacedRows_iff (apart : ∀ character, figure character → ¬gap character) :
    Form.longest (spacedRows figure gap) left text rest ↔
      left = text ++ rest ∧ text ∈ spacedRows figure gap ∧ HaltsRows figure gap rest := by
  constructor
  · intro formed
    rcases formed with ⟨rfl, isLongest⟩
    refine ⟨rfl, isLongest.member, ?_⟩
    intro gaps more split areGaps character next isFigure
    rcases List.head?_eq_some_iff.mp next with ⟨after, rfl⟩
    have stops := (isLongest_append_iff.mp isLongest).2 (gaps ++ [character]) ⟨after, by simp [split]⟩
      (append_figure_mem_spacedRows isLongest.member areGaps isFigure)
    exact absurd stops (by simp)
  · intro given
    rcases given with ⟨rfl, spaced, halts⟩
    refine ⟨rfl, isLongest_append_iff.mpr ⟨spaced, fun extra inFront longer => ?_⟩⟩
    rcases inFront with ⟨more, rfl⟩
    have onlyGaps := halts.gap_of_mem fun character member =>
      figure_or_gap_of_mem_spacedRows longer character (List.mem_append_right text member)
    rcases figure_getLast?_of_mem_spacedRows longer with ⟨last, ends, isFigure⟩
    cases extra using List.reverseRecOn with
    | nil => rfl
    | append_singleton extra other =>
        rw [← List.append_assoc, List.getLast?_concat, Option.mem_some_iff] at ends
        exact absurd (onlyGaps last (by simp [ends])) (apart last isFigure)

/-! ### Row by row -/

/-- A gap and the row after it, each as long as can be. -/
def laterRow (figure gap : Char → Prop) : Form (List Char) :=
  .lift2 (· ++ ·) (.longest (rowsOf gap)) (.longest (rowsOf figure))

theorem laterRow_iff :
    laterRow figure gap left text rest ↔
      ∃ gaps row, text = gaps ++ row ∧ Form.longest (rowsOf gap) left gaps (row ++ rest) ∧
        Form.longest (rowsOf figure) (row ++ rest) row rest := by
  rw [laterRow, Form.lift2_iff]
  constructor
  · intro formed
    rcases formed with ⟨gaps, row, middle, isGap, isRow, rfl⟩
    have split := isRow.1
    subst split
    exact ⟨gaps, row, rfl, isGap, isRow⟩
  · intro formed
    rcases formed with ⟨gaps, row, rfl, isGap, isRow⟩
    exact ⟨gaps, row, row ++ rest, isGap, isRow, rfl⟩

theorem consumes_laterRow (figure gap : Char → Prop) : (laterRow figure gap).Consumes := by
  intro left text rest formed
  rcases laterRow_iff.mp formed with ⟨gaps, row, rfl, isGap, isRow⟩
  have positive := List.length_pos_iff.mpr isRow.2.member.1
  rw [isGap.1, List.length_append, List.length_append]
  omega

/-- A first row, and as many rows after gaps as there are. -/
def rowByRow (figure gap : Char → Prop) : Form (List Char) :=
  .lift2 (· ++ ·) (.longest (rowsOf figure)) ((laterRow figure gap).many.map List.flatten)

theorem append_flatten_mem_spacedRows {chunks : List (List Char)}
    (spaced : text ∈ spacedRows figure gap) (runs : (laterRow figure gap).Runs left chunks rest)
    (ends : ∀ character ∈ left.head?, ¬figure character) :
    left = chunks.flatten ++ rest ∧ text ++ chunks.flatten ∈ spacedRows figure gap ∧
      ∀ character ∈ rest.head?, ¬figure character := by
  induction runs generalizing text with
  | none left => exact ⟨rfl, by simpa using spaced, ends⟩
  | next first _ induction =>
      rcases laterRow_iff.mp first with ⟨gaps, row, rfl, isGap, isRow⟩
      rcases longest_rowsOf_iff.mp isRow with ⟨_, isFigures, rowEnds⟩
      have longer := append_mem_spacedRows spaced isGap.2.member isFigures
      rcases induction longer rowEnds with ⟨rfl, whole, halts⟩
      exact ⟨by rw [isGap.1]; simp, by simpa using whole, halts⟩

theorem haltsRows_of_not_laterRow (apart : ∀ character, figure character → ¬gap character)
    (ends : ∀ character ∈ rest.head?, ¬figure character)
    (without : ∀ chunk after, ¬laterRow figure gap rest chunk after) : HaltsRows figure gap rest := by
  intro gaps more split areGaps character next isFigure
  cases gaps with
  | nil => exact ends character (by rw [split]; exact next) isFigure
  | cons other gaps =>
      have isGap : Form.longest (rowsOf gap) rest (other :: gaps) more := by
        refine longest_rowsOf_iff.mpr ⟨split, ⟨List.cons_ne_nil _ _, areGaps⟩, ?_⟩
        intro starts same
        rw [Option.mem_unique same next]
        exact apart character isFigure
      rcases exists_longest_rowsOf ⟨character, next, isFigure⟩ with ⟨row, after, isRow⟩
      exact without _ after (Form.lift2_iff.mpr ⟨_, row, more, isGap, isRow, rfl⟩)

theorem longest_of_rowByRow (apart : ∀ character, figure character → ¬gap character)
    (formed : rowByRow figure gap left text rest) :
    Form.longest (spacedRows figure gap) left text rest := by
  rcases Form.lift2_iff.mp formed with ⟨row, later, middle, isRow, mapped, rfl⟩
  rcases Form.map_iff.mp mapped with ⟨chunks, ⟨runs, without⟩, rfl⟩
  rcases longest_rowsOf_iff.mp isRow with ⟨rfl, isFigures, rowEnds⟩
  rcases append_flatten_mem_spacedRows (rowsOf_subset_spacedRows isFigures) runs rowEnds with
    ⟨rfl, spaced, ends⟩
  exact (longest_spacedRows_iff apart).mpr
    ⟨by simp, spaced, haltsRows_of_not_laterRow apart ends without⟩

theorem exists_rowByRow (begins : ∃ character ∈ left.head?, figure character) :
    ∃ text rest, rowByRow figure gap left text rest := by
  rcases exists_longest_rowsOf begins with ⟨row, middle, isRow⟩
  rcases Form.exists_many (consumes_laterRow figure gap) middle with ⟨chunks, rest, many⟩
  exact ⟨_, rest, Form.lift2_iff.mpr
    ⟨row, _, middle, isRow, Form.map_iff.mpr ⟨chunks, many, rfl⟩, rfl⟩⟩

/-- Row by row the longest spaced rows are found. There is only one longest text, so it is enough that
something is found wherever spaced rows begin. -/
theorem rowByRow_iff (apart : ∀ character, figure character → ¬gap character) :
    rowByRow figure gap left text rest ↔ Form.longest (spacedRows figure gap) left text rest := by
  constructor
  · exact longest_of_rowByRow apart
  · intro formed
    have begins := figure_head?_of_mem_spacedRows formed.2.member
    rcases exists_rowByRow (exists_head?_of_inFront formed.2.inFront begins) with ⟨found, after, foundFormed⟩
    have foundLongest := longest_of_rowByRow apart foundFormed
    have same := foundLongest.2.unique formed.2
    have sameRest : after = rest := List.append_cancel_left
      (foundLongest.1.symm.trans (same ▸ formed.1))
    rwa [same, sameRest] at foundFormed

end SpacedRows

end CursorParsing
