import CursorParsing.Proofs.DecimalNumbers
import CursorParsing.Proofs.DecimalValues

/-!
# Negative numbers

Behind a minus sign the same body is read as without one, and its number is negated. Negation keeps only so
many digits, so a number that is read exactly without a sign may be rounded with one.
-/

namespace CursorParsing

namespace NumberFormat

variable {format : NumberFormat} {read : NumberReading} {code : String} {strict : Bool} {text : List Char}

theorem interpret_negative {number : Decimal}
    (means : (format.locale read).interpret code strict false text = .ok (.decimal number)) :
    (format.locale read).interpret code strict true text = Value.decimalOutcome number.neg? := by
  rcases interpret_eq_ok_iff.mp means with ⟨found, reads, same⟩
  cases same
  rw [interpret_eq, reads]
  rfl

theorem interpret_negative_eq_error {error : Error}
    (failed : (format.locale read).interpret code strict false text = .error error) :
    (format.locale read).interpret code strict true text = .error error := by
  rw [interpret_eq] at failed ⊢
  rcases reads : read strict (format.normalized text) with (reason | _) | number
  · rw [reads] at failed
    exact failed
  · rw [reads] at failed
    exact failed
  · rw [reads] at failed
    cases failed

theorem exists_decimal_of_interpret {value : Value}
    (means : (format.locale read).interpret code strict false text = .ok value) :
    ∃ number, value = .decimal number := by
  rcases interpret_eq_ok_iff.mp means with ⟨number, _, same⟩
  cases same
  exact ⟨number, rfl⟩

end NumberFormat

/-- What is no number without a sign is none with one. -/
theorem Grammar.exists_mismatch_behind_sign {grammar : Grammar} {format : NumberFormat}
    {read : NumberReading} (usable : format.IsUsable) {code : String} {strict : Bool}
    {cursor stop : Cursor} {left : List Char} (here : cursor.HasLeft left) (behind : stop.HasLeft left)
    {cause : Mismatch}
    (failed : (grammar.parse (.afterSign (format.locale read) code strict false) cursor).ending =
      .error (.mismatch cause)) :
    ∃ other, (grammar.parse (.afterSign (format.locale read) code strict true) stop).ending =
      .error (.mismatch other) := by
  by_cases found : ∃ text, IsLongest (bodies format.decimalSymbol format.groupSymbol) text left
  · rcases found with ⟨text, body⟩
    rw [ending_parse_afterSign usable here body] at failed
    rw [ending_parse_afterSign usable behind body]
    rcases meaning : (format.locale read).interpret code strict false text with error | value
    · rw [meaning] at failed
      cases failed
      exact ⟨cause, by rw [NumberFormat.interpret_negative_eq_error meaning]; rfl⟩
    · rw [meaning] at failed
      cases failed
  · exact ending_parse_afterSign_of_none usable behind found

/-- However a locale reads, where a number is read, the number that is read behind a minus sign is its
opposite, rounded to the nearest at the place that negation keeps, and the same is left. It is the opposite
exactly if no digit of the number lies below that place. Only a number that is too great for negation is a
fault there. Where there is a mismatch without the sign, there is one with it, and the sign is not read. -/
theorem decimalNumber_negative (grammar : Grammar) {format : NumberFormat} (usable : format.IsUsable)
    (read : NumberReading) (code : String) (strict : Bool) {plain signed : Cursor} {left : List Char}
    (here : plain.HasLeft left) (there : signed.HasLeft (format.minusSymbol ++ left))
    (unsigned : ¬format.minusSymbol <+: left) :
    (∀ reply, (grammar.parse (.decimalNumber (format.locale read) code strict) plain).ending = .ok reply →
        ∃ number rest, reply.value = .decimal number ∧ reply.cursor.HasLeft rest ∧
          ((∃ opposite stop,
              (grammar.parse (.decimalNumber (format.locale read) code strict) signed).ending =
                .ok ⟨.decimal opposite, stop⟩ ∧ stop.HasLeft rest ∧
              |opposite.toRat + number.toRat| ≤ 10 ^ number.keptPlace / 2 ∧
              (opposite.toRat = -number.toRat ↔ number.EndsAt number.keptPlace)) ∨
            (grammar.parse (.decimalNumber (format.locale read) code strict) signed).ending =
                .error (.fault .decimalOverflow) ∧
              Decimal.greatestLeading < number.magnitude)) ∧
      ∀ cause, (grammar.parse (.decimalNumber (format.locale read) code strict) plain).ending =
          .error (.mismatch cause) →
        (∃ other, (grammar.parse (.decimalNumber (format.locale read) code strict) signed).ending =
            .error (.mismatch other)) ∧
          ∀ default,
            (grammar.parse ((Parser.decimalNumber (format.locale read) code strict).fallback default)
                signed).ending =
              .ok ⟨default, signed⟩ := by
  have notEmpty : format.minusSymbol ≠ [] := fun empty => unsigned (empty ▸ List.nil_prefix)
  have behind := there.behind
  rw [Grammar.ending_parse_signed notEmpty there, Grammar.ending_parse_unsigned here unsigned]
  constructor
  · intro reply matched
    rcases (Grammar.parse_afterSign_eq_ok_iff usable here).mp matched with ⟨text, body, means, stops⟩
    rcases NumberFormat.exists_decimal_of_interpret means with ⟨number, isNumber⟩
    refine ⟨number, left.drop text.length, isNumber, stops ▸ here.forward _, ?_⟩
    rw [Grammar.ending_parse_afterSign usable behind body,
      NumberFormat.interpret_negative (isNumber ▸ means)]
    rcases negated : number.neg? with _ | opposite
    · exact .inr ⟨rfl, Decimal.greatestLeading_lt_of_neg? negated⟩
    · exact .inl ⟨opposite, _, rfl, behind.forward _, Decimal.neg?_near negated⟩
  · intro cause failed
    have mismatched : ∃ other, (grammar.parse (.afterSign (format.locale read) code strict true)
        (signed.forward format.minusSymbol.length)).ending = .error (.mismatch other) :=
      Grammar.exists_mismatch_behind_sign usable here behind failed
    refine ⟨mismatched, fun default => ?_⟩
    rcases mismatched with ⟨other, mismatched⟩
    rw [← Grammar.ending_parse_signed notEmpty there] at mismatched
    exact congrArg Run.ending (Run.orElse_of_mismatch _ mismatched)

open NumberFormat (arabic english)

private def price : List Char := ['1', ',', '2', '3', '4', '.', '5', ' ', '£']

/-- The minus sign may have several characters. -/
theorem decimalNumber_negative_arabic :
    ∃ opposite stop,
      (Grammar.empty.parse (.decimalNumber arabic.builtIn "ar-EG" true)
          (.start (.text (arabic.minusSymbol ++ price).toArray))).ending =
        .ok ⟨.decimal opposite, stop⟩ ∧ stop.HasLeft [' ', '£'] ∧
      opposite.toRat = -(Decimal.mk false 12345 (-1)).toRat := by
  have here : (Cursor.start (.text price.toArray)).HasLeft price := rfl
  have there : (Cursor.start (.text (arabic.minusSymbol ++ price).toArray)).HasLeft
      (arabic.minusSymbol ++ price) := rfl
  have usable : arabic.IsUsable := by decide
  have body : IsLongest (bodies '.' ',') (price.take 7) price :=
    isLongest_bodies_of_all (by decide) (by decide) (by decide) (by decide)
  have means : arabic.builtIn.interpret "ar-EG" true false (price.take 7) =
    .ok (.decimal ⟨false, 12345, -1⟩) := by rfl
  have matched :
      (Grammar.empty.parse (.decimalNumber arabic.builtIn "ar-EG" true) (.start (.text price.toArray))).ending =
        .ok ⟨.decimal ⟨false, 12345, -1⟩, ⟨.text price.toArray, 7⟩⟩ := by
    rw [Grammar.ending_parse_unsigned here (by decide), Grammar.ending_parse_afterSign usable here body,
      means]
    rfl
  rcases (decimalNumber_negative .empty usable arabic.read "ar-EG" true here there (by decide)).1 _ matched with
    ⟨number, rest, isNumber, leaves, negated⟩
  have atEnd : (⟨.text price.toArray, 7⟩ : Cursor).HasLeft [' ', '£'] := rfl
  cases isNumber
  cases leaves.symm.trans atEnd
  rcases negated with ⟨opposite, stop, reads, stops, _, exactly⟩ | ⟨_, tooGreat⟩
  · exact ⟨opposite, stop, reads, stops, exactly.mpr (Decimal.endsAt_of_le (by decide))⟩
  · exact absurd tooGreat (by decide)

private def longNumeral : List Char :=
  ['1', '2', '3', '4', '5', '6', '7', '8', '9', '0', '1', '2', '3', '4',
    '5', '6', '7', '8', '9', '0', '1', '2', '3', '4', '5', '6', '7', '8', '9']

/-- A number of more digits than are kept is read exactly without a sign, and is rounded with one. -/
theorem decimalNumber_negative_rounded :
    (Grammar.empty.parse (.decimalNumber english.builtIn "en-US" false)
          (.start (.text longNumeral.toArray))).ending =
        .ok ⟨.decimal ⟨false, 12345678901234567890123456789, 0⟩, ⟨.text longNumeral.toArray, 29⟩⟩ ∧
      (Grammar.empty.parse (.decimalNumber english.builtIn "en-US" false)
          (.start (.text (english.minusSymbol ++ longNumeral).toArray))).ending =
        .ok ⟨.decimal ⟨true, 1234567890123456789012345679, 1⟩,
          ⟨.text (english.minusSymbol ++ longNumeral).toArray, 30⟩⟩ ∧
      (Decimal.mk true 1234567890123456789012345679 1).toRat ≠
        -(Decimal.mk false 12345678901234567890123456789 0).toRat := by
  have usable : english.IsUsable := by decide
  have body : IsLongest (bodies '.' ',') longNumeral longNumeral :=
    isLongest_bodies_of_all (by decide) (by decide) (by decide) (by decide)
  have here : (Cursor.start (.text longNumeral.toArray)).HasLeft longNumeral := rfl
  have there : (Cursor.start (.text (english.minusSymbol ++ longNumeral).toArray)).HasLeft
      (english.minusSymbol ++ longNumeral) := rfl
  have means : english.builtIn.interpret "en-US" false false longNumeral =
    .ok (.decimal ⟨false, 12345678901234567890123456789, 0⟩) := by rfl
  have negated : Decimal.neg? ⟨false, 12345678901234567890123456789, 0⟩ =
      some ⟨true, 1234567890123456789012345679, 1⟩ := by decide +kernel
  refine ⟨?_, ?_, ?_⟩
  · rw [Grammar.ending_parse_unsigned here (by decide), Grammar.ending_parse_afterSign usable here body,
      means]
    rfl
  · rw [Grammar.ending_parse_signed (by decide) there,
      Grammar.ending_parse_afterSign usable there.behind body, NumberFormat.interpret_negative means,
      negated]
    rfl
  · norm_num [Decimal.toRat, Decimal.size]

end CursorParsing
