import CursorParsing.Proofs.LenientReading

/-!
# Binary numbers

A binary number is read from all the digits and points in front. If they write no number nothing is read, even
where fewer of them would write one.
-/

namespace CursorParsing

open Number Text

/-! ## Plain texts -/

namespace Binary64

/-- A character that is read as it is: no blank, no low line, no sign and no letter of a word. -/
structure IsPlain (character : Char) : Prop where
  ascii : asciiForm? character = some character
  not_blank : isAsciiBlank character = false
  not_lowLine : character ≠ '_'
  not_sign : character ∉ ['-', '+']
  not_letter : character.toLower ∉ ['i', 'n']

theorem isPlain_of_isFigure {character : Char} (isFigure : IsFigure '.' character) :
    IsPlain character := by
  have all : Parser.doubleCharacters.all (fun character =>
      asciiForm? character = some character ∧ isAsciiBlank character = false ∧ character ≠ '_' ∧
        character ∉ ['-', '+'] ∧ character.toLower ∉ ['i', 'n']) = true := by decide
  have member : character ∈ Parser.doubleCharacters := (mem_figures_iff '.' character).mpr isFigure
  rcases of_decide_eq_true (List.all_eq_true.mp all character member) with
    ⟨ascii, notBlank, notLowLine, notSign, notLetter⟩
  exact ⟨ascii, notBlank, notLowLine, notSign, notLetter⟩

section Plain

variable {text : List Char} (plain : ∀ character ∈ text, IsPlain character)

include plain

theorem mapM_asciiForm?_of_isPlain : text.mapM asciiForm? = some text := by
  induction text with
  | nil => rfl
  | cons character text induction =>
      rcases List.forall_mem_cons.mp plain with ⟨here, later⟩
      rw [List.mapM_cons, here.ascii, induction later]
      rfl

theorem trimmed_of_isPlain : trimmed text = text := by
  have noBlank (other : List Char) (same : ∀ character ∈ other, character ∈ text) :
      other.dropWhile isAsciiBlank = other := by
    cases other with
    | nil => rfl
    | cons character other =>
        have here := plain character (same character List.mem_cons_self)
        rw [List.dropWhile_cons, here.not_blank, if_neg Bool.false_ne_true]
  rw [trimmed, noBlank text fun _ member => member,
    noBlank text.reverse fun _ member => List.mem_reverse.mp member, List.reverse_reverse]

theorem joinDigits?_of_isPlain (afterDigit : Bool) : joinDigits? afterDigit text = some text := by
  induction text generalizing afterDigit with
  | nil => rfl
  | cons character text induction =>
      rcases List.forall_mem_cons.mp plain with ⟨here, later⟩
      rw [joinDigits?, induction later]
      · rfl
      · exact fun same _ => here.not_lowLine same
      · exact fun _ _ same _ => here.not_lowLine same

theorem splitSign_of_isPlain : splitSign text = (false, text) := by
  unfold splitSign
  split
  · exact absurd (plain '-' List.mem_cons_self).not_sign (by decide)
  · exact absurd (plain '+' List.mem_cons_self).not_sign (by decide)
  · rfl

theorem wordValue?_of_isPlain : wordValue? false (text.map Char.toLower) = none := by
  cases text with
  | nil => rfl
  | cons character text =>
      have notLetter := (plain character List.mem_cons_self).not_letter
      simp only [List.mem_cons, List.not_mem_nil, or_false, not_or] at notLetter
      simp [wordValue?, notLetter]

/-- A plain text has to be a numeral. -/
theorem read?_of_isPlain : read? text = (Numeral.read? text).map (ofNumeral false) := by
  simp only [read?, mapM_asciiForm?_of_isPlain plain, trimmed_of_isPlain plain,
    joinDigits?_of_isPlain plain, splitSign_of_isPlain plain, wordValue?_of_isPlain plain,
    Option.bind_eq_bind, Option.bind_some]

end Plain

/-- Digits and points are the number that they write, if they write one. -/
theorem read?_eq_some_iff {text : List Char} (figures : ∀ character ∈ text, IsFigure '.' character)
    {number : Binary64} :
    read? text = some number ↔
      WritesNumber '.' text ∧
        number = ofNumeral false ⟨digitsValue text, -(fractionLength '.' text : Int)⟩ := by
  have unchanged : text.map (pointFor '.') = text := by
    have same : pointFor '.' = id := by
      funext character
      exact ite_eq_right_iff.mpr Eq.symm
    rw [same, List.map_id]
  have reads := @read?_map_pointFor_iff _ _ rfl figures
  rw [unchanged] at reads
  rw [read?_of_isPlain fun character member => isPlain_of_isFigure (figures character member),
    Option.map_eq_some_iff]
  simp only [reads]
  constructor
  · intro given
    rcases given with ⟨numeral, ⟨writes, rfl⟩, rfl⟩
    exact ⟨writes, rfl⟩
  · intro given
    exact ⟨_, ⟨given.1, rfl⟩, given.2.symm⟩

end Binary64

/-! ## The run of digits and points -/

namespace Grammar

variable {grammar : Grammar} {cursor : Cursor} {left text : List Char}

theorem ending_parse_interpretDouble (grammar : Grammar) (text : List Char) (cursor : Cursor) :
    (grammar.parse (.interpretDouble (.characters text)) cursor).ending =
      match Binary64.read? text with
      | some number => .ok ⟨.float number, cursor⟩
      | none => .error (.mismatch (.invalidNumber text)) := by
  have joined : (Value.characters text).joinSymbols = .ok text := Value.joinSymbols_characters text
  simp only [Parser.interpretDouble, Parser.interpretDouble?, joined, Except.map, Parser.interpretText]
  rcases Binary64.read? text with _ | number <;> rfl

theorem ending_parse_double_of_nil (here : cursor.HasLeft left)
    (without : left.takeWhile (IsFigure '.' ·) = []) :
    (grammar.parse .double cursor).ending = .error (.mismatch (.predicateFailed cursor.snippet)) := by
  have refused : ∀ character ∈ left.head?, character ∉ Parser.doubleCharacters := by
    intro character next member
    rcases List.head?_eq_some_iff.mp next with ⟨rest, rfl⟩
    have isFigure := (mem_figures_iff '.' character).mp member
    simp [isFigure] at without
  have first : (grammar.parse (.oneOrMore (.oneCharOf Parser.doubleCharacters)) cursor).ending = _ :=
    oneOrMore_eq_mismatch_iff.mpr (Reads.ending_oneCharOf_eq_mismatch here refused)
  change (grammar.parse (.flatMap (.oneOrMore (.oneCharOf Parser.doubleCharacters))
    Parser.interpretDouble) cursor).ending = _
  rw [ending_parse_flatMap, Run.andThen_of_error _ first]

theorem ending_parse_double_of_ne_nil (here : cursor.HasLeft left)
    (collected : left.takeWhile (IsFigure '.' ·) = text) (notEmpty : text ≠ []) :
    (grammar.parse .double cursor).ending =
      match Binary64.read? text with
      | some number => .ok ⟨.float number, cursor.forward text.length⟩
      | none => .error (.mismatch (.invalidNumber text)) := by
  subst collected
  have isLongest := longest_rowsOf_takeWhile notEmpty
  have first : (grammar.parse (.oneOrMore (.oneCharOf Parser.doubleCharacters)) cursor).ending = _ :=
    (reads_row grammar (mem_figures_iff '.')).ending_eq_ok here isLongest.1 isLongest
  change (grammar.parse (.flatMap (.oneOrMore (.oneCharOf Parser.doubleCharacters))
    Parser.interpretDouble) cursor).ending = _
  rw [ending_parse_flatMap, Run.andThen_of_ok _ first]
  exact ending_parse_interpretDouble grammar _ _

/-- A binary number is read from all the digits and points in front, if there is a digit among them and not
more than one point, and it is the number that they write. Otherwise there is a mismatch: where there are
none of them it is told of the symbol in front, and else of all of them. -/
theorem double_reads_exactly (grammar : Grammar) {cursor : Cursor} {left text : List Char}
    (here : cursor.HasLeft left) (collected : left.takeWhile (IsFigure '.' ·) = text) :
    (∀ reply, (grammar.parse .double cursor).ending = .ok reply ↔
        ((∃ character ∈ text, character.isDigit = true) ∧ text.count '.' ≤ 1) ∧
          ∃ number, Binary64.read? text = some number ∧
            number = .ofNumeral false ⟨digitsValue text, -(fractionLength '.' text : Int)⟩ ∧
            reply = ⟨.float number, cursor.forward text.length⟩) ∧
      (text = [] → (grammar.parse .double cursor).ending =
        .error (.mismatch (.predicateFailed cursor.snippet))) ∧
      (text ≠ [] → ¬((∃ character ∈ text, character.isDigit = true) ∧ text.count '.' ≤ 1) →
        (grammar.parse .double cursor).ending = .error (.mismatch (.invalidNumber text))) := by
  have figures : ∀ character ∈ text, IsFigure '.' character := by
    intro character member
    subst collected
    simpa using List.mem_takeWhile_imp member
  have reads := @Binary64.read?_eq_some_iff text figures
  by_cases empty : text = []
  · have refused : (grammar.parse .double cursor).ending = _ :=
      ending_parse_double_of_nil here (collected.trans empty)
    refine ⟨fun reply => ?_, fun _ => refused, fun notEmpty => absurd empty notEmpty⟩
    rw [refused, empty]
    refine iff_of_false nofun fun given => ?_
    rcases given with ⟨⟨⟨character, member, _⟩, _⟩, _⟩
    cases member
  · rw [ending_parse_double_of_ne_nil here collected empty]
    rcases found : Binary64.read? text with _ | number
    · have writesNone : ¬WritesNumber '.' text := by
        intro writes
        rw [reads.mpr ⟨writes, rfl⟩] at found
        cases found
      refine ⟨fun reply => ?_, fun nothing => absurd nothing empty, fun _ _ => rfl⟩
      exact iff_of_false nofun fun given => writesNone given.1
    · rcases reads.mp found with ⟨writes, written⟩
      refine ⟨fun reply => ?_, fun nothing => absurd nothing empty, fun _ without => absurd writes without⟩
      constructor
      · intro same
        cases same
        exact ⟨writes, number, rfl, written, rfl⟩
      · intro given
        rcases given with ⟨_, other, same, _, rfl⟩
        cases same
        rfl

private def version : List Char := ['1', '.', '2', '.', '3', ' ', '4']

/-- A shorter text in front would be a number, but all of the digits and points are none. -/
theorem double_reads_exactly_version :
    (Grammar.empty.parse .double (.start (.text version.toArray))).ending =
      .error (.mismatch (.invalidNumber ['1', '.', '2', '.', '3'])) := by
  have here : (Cursor.start (.text version.toArray)).HasLeft version := rfl
  have collected : version.takeWhile (IsFigure '.' ·) = ['1', '.', '2', '.', '3'] := by decide
  exact (double_reads_exactly .empty here collected).2.2 (List.cons_ne_nil _ _)
    fun given => absurd given.2 (by decide)

end Grammar

end CursorParsing
