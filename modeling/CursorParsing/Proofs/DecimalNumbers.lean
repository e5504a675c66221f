import CursorParsing.Proofs.LenientReading

/-!
# Decimal numbers

A decimal number is a sign, if there is one, and a body that means a number in the format. Leniently read,
the number is what the digits of the body write, exactly.
-/

namespace CursorParsing

/-! ## The sign and the body -/

/-- What is read of a number behind its sign. -/
def Parser.afterSign (locale : NumberLocale) (code : String) (strict negative : Bool) : Parser :=
  .flatMap (numberBody locale.decimalSymbol locale.groupSymbol) fun symbols =>
    interpretSigned locale code strict (.bool negative) symbols

namespace Grammar

variable (grammar : Grammar) (locale : NumberLocale) (code : String) (strict : Bool)

theorem ending_parse_sign (characters : List Char) {cursor : Cursor} {left : List Char}
    (here : cursor.HasLeft left) :
    (grammar.parse (Parser.word characters).asBool cursor).ending =
      if cursor.startsWith (.text characters.toArray) then
        .ok ⟨.bool true, cursor.forward characters.length⟩
      else .ok ⟨.bool false, cursor⟩ := by
  have word := ending_parse_word grammar characters cursor
  rw [here.refusal_eq rfl] at word
  have asTrue : (grammar.parse (Parser.word characters).asTrue cursor).ending = _ :=
    ending_parse_flatMap grammar (.word characters) _ cursor
  split at word
  · rename_i holds
    rw [Run.andThen_of_ok _ word] at asTrue
    rw [if_pos holds]
    exact congrArg Run.ending (Run.orElse_of_ok _ asTrue) |>.trans asTrue
  · rename_i fails
    rw [Run.andThen_of_error _ word] at asTrue
    rw [if_neg fails]
    exact congrArg Run.ending (Run.orElse_of_mismatch _ asTrue)

theorem ending_parse_decimalNumber {cursor : Cursor} {left : List Char} (here : cursor.HasLeft left) :
    (grammar.parse (.decimalNumber locale code strict) cursor).ending =
      if cursor.startsWith (.text locale.minusSymbol.toArray) then
        (grammar.parse (.afterSign locale code strict true)
          (cursor.forward locale.minusSymbol.length)).ending
      else (grammar.parse (.afterSign locale code strict false) cursor).ending := by
  have sign := grammar.ending_parse_sign locale.minusSymbol here
  change (grammar.parse (.flatMap (Parser.word locale.minusSymbol).asBool fun negative =>
    .flatMap (.numberBody locale.decimalSymbol locale.groupSymbol) fun symbols =>
      .interpretSigned locale code strict negative symbols) cursor).ending = _
  rw [ending_parse_flatMap]
  split at sign
  · rename_i signed
    rw [Run.andThen_of_ok _ sign, if_pos signed]
    rfl
  · rename_i unsigned
    rw [Run.andThen_of_ok _ sign, if_neg unsigned]
    rfl

theorem ending_parse_ofOutcome (outcome : Outcome Value) (cursor : Cursor) :
    (grammar.parse (.ofOutcome outcome) cursor).ending = outcome.map (⟨·, cursor⟩) := by
  cases outcome <;> rfl

variable {grammar code strict} {format : NumberFormat} {read : NumberReading} {negative : Bool}
  {cursor : Cursor} {left text : List Char}

theorem ending_parse_interpretSigned :
    (grammar.parse (.interpretSigned locale code strict (.bool negative) (.characters text))
        cursor).ending =
      (locale.interpret code strict negative text).map (⟨·, cursor⟩) := by
  have joined : (Value.characters text).joinSymbols = .ok text := Value.joinSymbols_characters text
  rw [Parser.interpretSigned, joined]
  exact ending_parse_ofOutcome grammar _ cursor

theorem ending_parse_afterSign (usable : format.IsUsable) (here : cursor.HasLeft left)
    (body : IsLongest (bodies format.decimalSymbol format.groupSymbol) text left) :
    (grammar.parse (.afterSign (format.locale read) code strict negative) cursor).ending =
      ((format.locale read).interpret code strict negative text).map
        (⟨·, cursor.forward text.length⟩) := by
  have collected :=
    (ending_numberBody_eq_ok_iff grammar usable.decimalSymbol_not_space here).mpr ⟨text, body, rfl⟩
  rw [Parser.afterSign, ending_parse_flatMap]
  exact (congrArg Run.ending (Run.andThen_of_ok _ collected)).trans (ending_parse_interpretSigned _)

theorem ending_parse_afterSign_of_none (usable : format.IsUsable) (here : cursor.HasLeft left)
    (without : ¬∃ text, IsLongest (bodies format.decimalSymbol format.groupSymbol) text left) :
    ∃ cause, (grammar.parse (.afterSign (format.locale read) code strict negative) cursor).ending =
      .error (.mismatch cause) := by
  rcases (ending_numberBody_eq_mismatch_iff grammar usable.decimalSymbol_not_space here).mpr
    without with ⟨cause, failed⟩
  refine ⟨cause, ?_⟩
  rw [Parser.afterSign, ending_parse_flatMap]
  exact congrArg Run.ending (Run.andThen_of_error _ failed)

theorem parse_afterSign_eq_ok_iff (usable : format.IsUsable) (here : cursor.HasLeft left)
    {reply : Reply} :
    (grammar.parse (.afterSign (format.locale read) code strict negative) cursor).ending = .ok reply ↔
      ∃ text, IsLongest (bodies format.decimalSymbol format.groupSymbol) text left ∧
        (format.locale read).interpret code strict negative text = .ok reply.value ∧
        reply.cursor = cursor.forward text.length := by
  constructor
  · intro matched
    by_cases found : ∃ text, IsLongest (bodies format.decimalSymbol format.groupSymbol) text left
    · rcases found with ⟨text, body⟩
      rw [ending_parse_afterSign usable here body] at matched
      rcases meaning : (format.locale read).interpret code strict negative text with error | value
      · rw [meaning] at matched
        cases matched
      · rw [meaning] at matched
        cases matched
        exact ⟨text, body, meaning, rfl⟩
    · rcases ending_parse_afterSign_of_none usable here found with ⟨cause, failed⟩
      cases failed.symm.trans matched
  · intro given
    rcases given with ⟨text, body, meaning, stops⟩
    rw [ending_parse_afterSign usable here body, meaning, ← stops]
    rfl

theorem parse_afterSign_eq_error (usable : format.IsUsable) (here : cursor.HasLeft left)
    {error : Error}
    (failed : (grammar.parse (.afterSign (format.locale read) code strict negative) cursor).ending =
      .error error) :
    (∃ cause, error = .mismatch cause) ∨
      ∃ text, IsLongest (bodies format.decimalSymbol format.groupSymbol) text left ∧
        (format.locale read).interpret code strict negative text = .error error := by
  by_cases found : ∃ text, IsLongest (bodies format.decimalSymbol format.groupSymbol) text left
  · rcases found with ⟨text, body⟩
    rw [ending_parse_afterSign usable here body] at failed
    rcases meaning : (format.locale read).interpret code strict negative text with other | value
    · rw [meaning] at failed
      cases failed
      exact .inr ⟨text, body, meaning⟩
    · rw [meaning] at failed
      cases failed
  · rcases ending_parse_afterSign_of_none usable here found with ⟨cause, mismatched⟩
    exact .inl ⟨cause, Except.error.inj (failed.symm.trans mismatched)⟩

theorem ending_parse_unsigned (here : cursor.HasLeft left)
    (unsigned : ¬format.minusSymbol <+: left) :
    (grammar.parse (.decimalNumber (format.locale read) code strict) cursor).ending =
      (grammar.parse (.afterSign (format.locale read) code strict false) cursor).ending := by
  have notEmpty : format.minusSymbol ≠ [] := fun empty =>
    unsigned (empty ▸ List.nil_prefix)
  rw [ending_parse_decimalNumber grammar _ code strict here, if_neg]
  exact (here.startsWith_iff notEmpty).not.mpr unsigned

theorem ending_parse_signed (notEmpty : format.minusSymbol ≠ [])
    (here : cursor.HasLeft (format.minusSymbol ++ left)) :
    (grammar.parse (.decimalNumber (format.locale read) code strict) cursor).ending =
      (grammar.parse (.afterSign (format.locale read) code strict true)
        (cursor.forward format.minusSymbol.length)).ending := by
  rw [ending_parse_decimalNumber grammar _ code strict here, if_pos]
  · rfl
  · exact (here.startsWith_iff notEmpty).mpr (List.prefix_append _ _)

end Grammar

/-! ## What a body means -/

namespace NumberFormat

variable {format : NumberFormat} {read : NumberReading} {code : String} {strict negative : Bool}
  {text : List Char}

theorem interpret_eq (format : NumberFormat) (read : NumberReading) (code : String)
    (strict negative : Bool) (text : List Char) :
    (format.locale read).interpret code strict negative text =
      match read strict (format.normalized text) with
      | .ok number => Parser.applySign negative number
      | .error (.refused reason) => .error (.mismatch (.invalidDecimal text code reason))
      | .error .overflow => .error (.fault .decimalOverflow) := by
  rw [NumberLocale.interpret, normalized_locale]
  rfl

theorem interpret_eq_ok_iff {value : Value} :
    (format.locale read).interpret code strict negative text = .ok value ↔
      ∃ number, read strict (format.normalized text) = .ok number ∧
        Parser.applySign negative number = .ok value := by
  rw [interpret_eq]
  rcases read strict (format.normalized text) with (reason | _) | number <;> simp

theorem interpret_lenient_eq_ok_iff (usable : format.IsUsable) (lenient : format.ReadsLeniently read)
    (body : text ∈ bodies format.decimalSymbol format.groupSymbol) {value : Value} :
    (format.locale read).interpret code false false text = .ok value ↔
      WritesNumber format.decimalSymbol text ∧
        value = .decimal
          ⟨false, digitsValue text, -(fractionLength format.decimalSymbol text : Int)⟩ := by
  simp only [interpret_eq_ok_iff, lenient.eq_ok_iff (overSymbols_normalized body),
    readLenient?_eq_some_iff usable body, Parser.applySign, Bool.false_eq_true, if_false,
    Except.ok.injEq]
  constructor
  · intro given
    rcases given with ⟨number, ⟨writes, rfl⟩, rfl⟩
    exact ⟨writes, rfl⟩
  · intro given
    exact ⟨_, ⟨given.1, rfl⟩, given.2.symm⟩

/-- Without a sign there is nothing that could overflow: what is not accepted is refused. -/
theorem isMismatch_of_interpret (lenient : format.ReadsLeniently read)
    (body : text ∈ bodies format.decimalSymbol format.groupSymbol) {error : Error}
    (failed : (format.locale read).interpret code false false text = .error error) :
    ∃ cause, error = .mismatch cause := by
  have symbols := overSymbols_normalized body
  rw [interpret_eq] at failed
  rcases found : format.readLenient? (format.normalized text) with _ | number
  · rcases lenient.refuses _ symbols found with ⟨reason, refused⟩
    rw [refused] at failed
    cases failed
    exact ⟨_, rfl⟩
  · rw [lenient.accepts _ number symbols found] at failed
    cases failed

end NumberFormat

/-! ## Lenient numbers -/

/-- Where no minus sign is in front, a number is read from the body that is collected, all of it, if that has
a digit and not more than one decimal symbol. It is the number that the digits of the body write with the point
at the decimal symbol, with no digit lost or rounded. Otherwise there is a mismatch, and no other error. -/
theorem decimalNumber_lenient (grammar : Grammar) {format : NumberFormat} (usable : format.IsUsable)
    {read : NumberReading} (lenient : format.ReadsLeniently read) (code : String) {cursor : Cursor}
    {left : List Char} (here : cursor.HasLeft left) (unsigned : ¬format.minusSymbol <+: left) :
    (∀ reply,
        (grammar.parse (.decimalNumber (format.locale read) code false) cursor).ending = .ok reply ↔
          ∃ text,
            (grammar.parse (.numberBody [format.decimalSymbol] [format.groupSymbol]) cursor).ending =
              .ok ⟨.list (text.map .ofChar), reply.cursor⟩ ∧
            (∃ character ∈ text, character.isDigit = true) ∧ text.count format.decimalSymbol ≤ 1 ∧
            text <+: left ∧ reply.cursor = cursor.forward text.length ∧
            reply.value = .decimal
              ⟨false, digitsValue text, -(fractionLength format.decimalSymbol text : Int)⟩) ∧
      ∀ error,
        (grammar.parse (.decimalNumber (format.locale read) code false) cursor).ending = .error error →
          ∃ cause, error = .mismatch cause := by
  rw [Grammar.ending_parse_unsigned here unsigned]
  constructor
  · intro reply
    rw [Grammar.parse_afterSign_eq_ok_iff usable here]
    refine exists_congr fun text => ?_
    have collects :
        (grammar.parse (.numberBody [format.decimalSymbol] [format.groupSymbol]) cursor).ending =
            .ok ⟨.list (text.map .ofChar), reply.cursor⟩ ↔ _ :=
      numberBody_collects_iff grammar usable.decimalSymbol_not_space here
    constructor
    · intro given
      rcases given with ⟨body, meaning, stops⟩
      rcases (NumberFormat.interpret_lenient_eq_ok_iff usable lenient body.member).mp meaning with
        ⟨⟨hasDigit, onePoint⟩, gives⟩
      exact ⟨collects.mpr ⟨body, stops⟩, hasDigit, onePoint, body.inFront, stops, gives⟩
    · intro given
      rcases given with ⟨collected, hasDigit, onePoint, _, stops, gives⟩
      have body := (collects.mp collected).1
      exact ⟨body, (NumberFormat.interpret_lenient_eq_ok_iff usable lenient body.member).mpr
        ⟨⟨hasDigit, onePoint⟩, gives⟩, stops⟩
  · intro error failed
    rcases Grammar.parse_afterSign_eq_error usable here failed with mismatched | ⟨text, body, meaning⟩
    · exact mismatched
    · exact NumberFormat.isMismatch_of_interpret lenient body.member meaning

private def misgrouped : List Char := [',', '1', ',', ',', '2', '.', '3', ',', '4', ' ', 'k', 'g']

/-- Group symbols are passed over wherever they stand. -/
theorem decimalNumber_lenient_misgrouped :
    (Grammar.empty.parse (.decimalNumber NumberFormat.english.builtIn "en-US" false)
        (.start (.text misgrouped.toArray))).ending =
      .ok ⟨.decimal ⟨false, 1234, -2⟩, ⟨.text misgrouped.toArray, 9⟩⟩ := by
  have here : (Cursor.start (.text misgrouped.toArray)).HasLeft misgrouped := rfl
  have usable : NumberFormat.english.IsUsable := by decide
  have reads := decimalNumber_lenient .empty usable NumberFormat.english.readsLeniently "en-US" here
    (by decide)
  have body : IsLongest (bodies '.' ',') (misgrouped.take 9) misgrouped :=
    isLongest_bodies_of_all (by decide) (by decide) (by decide) (by decide)
  have collected := (numberBody_collects_iff .empty (by decide) here).mpr ⟨body, rfl⟩
  refine (reads.1 _).mpr ⟨misgrouped.take 9, collected, ?_, by decide, by decide, rfl, rfl⟩
  exact ⟨'1', by decide, rfl⟩

end CursorParsing
