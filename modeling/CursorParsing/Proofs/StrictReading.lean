import CursorParsing.Proofs.DecimalNumbers
import CursorParsing.Proofs.Grouping

/-!
# Strict reading

A library that reads strictly writes the number of a text with separators anew and compares the two. So
whatever is read strictly is read leniently as the same number, and its separators are where the format has
them.
-/

namespace CursorParsing

open Number

/-- Nothing, or the decimal symbol and digits. -/
def IsFraction (decimalSymbol : Char) (text : List Char) : Prop :=
  text = [] ∨ ∃ digits, text = decimalSymbol :: digits ∧ ∀ character ∈ digits, character.isDigit = true

/-- A writing of numbers without a sign. -/
abbrev NumberWriting := Decimal → Except Misreading (List Char)

namespace NumberFormat

variable {format : NumberFormat} {text : List Char} {number : Decimal}

/-! ## Written numbers -/

theorem isDigit_of_mem_inPlaces {places value : Nat} {character : Char}
    (member : character ∈ inPlaces places value) : character.isDigit = true := by
  rcases List.mem_append.mp member with zero | digit
  · rw [List.eq_of_mem_replicate zero]
    rfl
  · exact isDigit_of_mem_digits digit

theorem properText_eq (format : NumberFormat) (count places : Nat) :
    format.properText count places = format.grouped (digits (count / 10 ^ places)) ++
      if places = 0 then [] else format.decimalSymbol :: inPlaces places (count % 10 ^ places) := rfl

theorem exists_of_properText (format : NumberFormat) (count places : Nat) :
    ∃ fraction, IsFraction format.decimalSymbol fraction ∧
      format.properText count places = format.grouped (digits (count / 10 ^ places)) ++ fraction := by
  refine ⟨_, ?_, format.properText_eq count places⟩
  split
  · exact .inl rfl
  · exact .inr ⟨_, rfl, fun _ => isDigit_of_mem_inPlaces⟩

/-- A text stays as it is, or zeros are left out at the end of its fraction, and then the decimal symbol if
they were all of it. -/
theorem withoutTrailingZeros_cases (format : NumberFormat) (text : List Char) :
    format.withoutTrailingZeros text = text ∨
      ∃ whole kept zeros, format.decimalSymbol ∉ whole ∧ (∀ character ∈ zeros, character = '0') ∧
        text = whole ++ format.decimalSymbol :: (kept ++ zeros) ∧
        format.withoutTrailingZeros text =
          if kept = [] then whole else whole ++ format.decimalSymbol :: kept := by
  have split := @List.takeWhile_append_dropWhile _ (· != format.decimalSymbol) text
  have noPoint : format.decimalSymbol ∉ text.takeWhile (· != format.decimalSymbol) := fun member => by
    simpa using List.mem_takeWhile_imp member
  rcases behind : text.dropWhile (· != format.decimalSymbol) with _ | ⟨symbol, _ | ⟨digit, rest⟩⟩
  · left
    simp only [withoutTrailingZeros, behind]
  · left
    simp only [withoutTrailingZeros, behind]
  · right
    have isPoint : symbol = format.decimalSymbol := by
      have stops := List.head?_dropWhile_not (· != format.decimalSymbol) text
      rw [behind] at stops
      simpa using stops
    have parts := @List.takeWhile_append_dropWhile _ (· == '0') (digit :: rest).reverse
    rw [← List.reverse_inj, List.reverse_append, List.reverse_reverse] at parts
    rw [behind, isPoint, ← parts] at split
    refine ⟨_, _, _, noPoint, ?_, split.symm, ?_⟩
    · intro character member
      simpa using List.mem_takeWhile_imp (List.mem_reverse.mp member)
    · simp only [withoutTrailingZeros, behind]
      generalize ((digit :: rest).reverse.dropWhile (· == '0')).reverse = kept
      cases kept with
      | nil => rfl
      | cons first more => rw [isPoint, if_neg (List.cons_ne_nil _ _)]

/-- Zeros that were left out belong to the fraction. -/
theorem exists_fraction_of_withoutTrailingZeros (noDigit : format.decimalSymbol.isDigit = false)
    {whole fraction : List Char} (noPoint : format.decimalSymbol ∉ whole)
    (isFraction : IsFraction format.decimalSymbol fraction)
    (same : format.withoutTrailingZeros text = whole ++ fraction) :
    ∃ longer, IsFraction format.decimalSymbol longer ∧ text = whole ++ longer := by
  rcases format.withoutTrailingZeros_cases text with
    unchanged | ⟨before, kept, zeros, notBefore, allZeros, rfl, shortened⟩
  · exact ⟨fraction, isFraction, unchanged.symm.trans same⟩
  rw [same] at shortened
  have zeroDigits : ∀ character ∈ zeros, character.isDigit = true := fun character member => by
    rw [allZeros character member]
    rfl
  rcases isFraction with rfl | ⟨digits, rfl, areDigits⟩
  · rw [List.append_nil] at shortened
    split at shortened
    · rename_i nothing
      exact ⟨_, .inr ⟨zeros, rfl, zeroDigits⟩, by rw [nothing, shortened, List.nil_append]⟩
    · rw [shortened] at noPoint
      simp at noPoint
  · split at shortened
    · rw [← shortened] at notBefore
      simp at notBefore
    · have notAfter : format.decimalSymbol ∉ digits := not_mem_of_isDigit noDigit areDigits
      rcases (List.append_cons_inj_of_notMem noPoint notAfter).mp shortened with ⟨rfl, _, rfl⟩
      refine ⟨_, .inr ⟨digits ++ zeros, rfl, fun character member => ?_⟩, rfl⟩
      exact (List.mem_append.mp member).elim (areDigits character) (zeroDigits character)

theorem decimalSymbol_not_mem_grouped (usable : format.IsUsable) (value : Nat) :
    format.decimalSymbol ∉ format.grouped (digits value) := by
  intro member
  rcases mem_grouped member with same | digit
  · exact usable.symbols_ne same
  · exact not_mem_digits usable.decimalSymbol_isDigit value digit

/-! ## What a library promises -/

/-- Of a number without a sign, what is written is a number of places, in groups as the format has them. -/
def WritesProperly (format : NumberFormat) (write : NumberWriting) : Prop :=
  ∀ number proper, number.negative = false → write number = .ok proper →
    ∃ count places, proper = format.properText count places

/-- A text with group symbols has to be what is written of its number, but for zeros at the end of the
fraction. -/
def ReadsStrictly (format : NumberFormat) (write : NumberWriting) (read : NumberReading) : Prop :=
  ∀ text number, format.OverSymbols text →
    (read true text = .ok number ↔
      format.readLenient? text = some number ∧
        (format.groupSymbol ∈ text → ∃ proper, write number = .ok proper ∧
          (text = proper ∨ format.withoutTrailingZeros text = proper)))

/-! ### The reading of a format keeps the promises -/

theorem checkGrouping_eq_ok_iff :
    format.checkGrouping text number = .ok () ↔
      ∃ proper, format.write number = .ok proper ∧
        (text = proper ∨ format.withoutTrailingZeros text = proper) := by
  rw [checkGrouping]
  rcases format.write number with cause | proper
  · simp [bind, Except.bind]
  · simp only [bind, Except.bind, Except.ok.injEq, exists_eq_left']
    split
    · rename_i asWritten
      exact iff_of_true rfl asWritten
    · rename_i other
      refine iff_of_false ?_ other
      rcases format.alternative text with cause | alternative <;> simp

theorem readsStrictly (format : NumberFormat) : format.ReadsStrictly format.write format.read := by
  intro text number _
  rw [read, ← checkGrouping_eq_ok_iff]
  rcases format.readLenient? text with _ | found
  · simp
  · simp only [Bool.true_and, List.contains_eq_mem, decide_eq_true_eq, Option.some.injEq]
    split
    · rename_i separated
      constructor
      · intro reads
        rcases accepted : format.checkGrouping text found with cause | _ <;> rw [accepted] at reads <;>
          cases reads
        exact ⟨rfl, fun _ => accepted⟩
      · intro given
        rcases given with ⟨rfl, checked⟩
        rw [checked separated]
        rfl
    · rename_i unseparated
      constructor
      · intro reads
        cases reads
        exact ⟨rfl, fun separated => absurd separated unseparated⟩
      · intro given
        rw [given.1]
        rfl

theorem writesProperly (format : NumberFormat) : format.WritesProperly format.write := by
  intro number proper _ written
  rw [write] at written
  split at written
  · cases written
  · rename_i kept _
    rcases reduced : format.writeReduced? kept.reduced with _ | text
    · rw [reduced] at written
      cases written
    · rw [reduced] at written
      cases written
      rw [writeReduced?] at reduced
      split at reduced
      · cases reduced
      · cases reduced
        exact ⟨_, _, rfl⟩

/-! ## Checked texts -/

theorem exists_of_isProper (usable : format.IsUsable) {count places : Nat}
    (isProper : text = format.properText count places ∨
      format.withoutTrailingZeros text = format.properText count places) :
    ∃ value fraction, IsFraction format.decimalSymbol fraction ∧
      text = format.grouped (digits value) ++ fraction := by
  rcases format.exists_of_properText count places with ⟨fraction, isFraction, proper⟩
  rw [proper] at isProper
  rcases isProper with same | same
  · exact ⟨_, fraction, isFraction, same⟩
  · rcases exists_fraction_of_withoutTrailingZeros usable.decimalSymbol_isDigit
      (decimalSymbol_not_mem_grouped usable _) isFraction same with ⟨longer, isLonger, split⟩
    exact ⟨_, longer, isLonger, split⟩

theorem isFraction_of_normalized (usable : format.IsUsable) {fraction : List Char}
    (isFraction : IsFraction format.decimalSymbol (format.normalized fraction)) :
    IsFraction format.decimalSymbol fraction := by
  rw [normalized] at isFraction
  rcases isFraction with empty | ⟨digits, same, areDigits⟩
  · exact .inl (List.map_eq_nil_iff.mp empty)
  · rcases List.map_eq_cons_iff.mp same with ⟨first, more, rfl, isPoint, rfl⟩
    have unchanged := usable.symbolFor_eq (.inr isPoint)
    refine .inr ⟨more, by rw [← isPoint, unchanged], fun character member => ?_⟩
    have isDigit := areDigits _ (List.mem_map_of_mem member)
    rwa [usable.symbolFor_eq (.inl isDigit)] at isDigit

theorem groupSymbol_not_mem_of_isFraction (usable : format.IsUsable) {fraction : List Char}
    (isFraction : IsFraction format.decimalSymbol fraction) : format.groupSymbol ∉ fraction := by
  intro member
  rcases isFraction with rfl | ⟨digits, rfl, areDigits⟩
  · cases member
  · rcases List.mem_cons.mp member with same | digit
    · exact usable.symbols_ne same.symm
    · exact not_mem_of_isDigit usable.groupSymbol_isDigit areDigits digit

/-- A text that is written properly has its separators between the groups of digits in front of the
fraction. -/
theorem exists_isGrouped_of_isProper (usable : format.IsUsable) {count places : Nat}
    (isProper : format.normalized text = format.properText count places ∨
      format.withoutTrailingZeros (format.normalized text) = format.properText count places)
    (separated : format.groupSymbol ∈ format.normalized text) :
    ∃ whole fraction grouping, text = whole ++ fraction ∧ format.grouping = some grouping ∧
      format.IsGrouped grouping whole ∧ IsFraction format.decimalSymbol fraction := by
  rcases exists_of_isProper usable isProper with ⟨value, written, isFraction, split⟩
  rw [split] at separated
  have inWhole := (List.mem_append.mp separated).resolve_right
    (groupSymbol_not_mem_of_isFraction usable isFraction)
  rcases pos_of_groupSymbol_mem usable inWhole with ⟨positive, grouping, groups⟩
  rw [normalized] at split
  rcases List.map_eq_append_iff.mp split with ⟨whole, fraction, rfl, asWhole, rfl⟩
  refine ⟨whole, fraction, grouping, rfl, groups, .of_normalized usable ?_, ?_⟩
  · rw [normalized, asWhole]
    exact isGrouped_grouped usable groups positive
  · exact isFraction_of_normalized usable isFraction

theorem groupSymbol_mem_normalized_iff :
    format.groupSymbol ∈ format.normalized text ↔ ∃ character ∈ text, format.IsSeparator character := by
  simp only [normalized, List.mem_map, symbolFor_eq_groupSymbol_iff]

section Bodies

variable {write : NumberWriting} {read : NumberReading} {code : String} {negative : Bool} {value : Value}
  (strictly : format.ReadsStrictly write read)
  (body : text ∈ bodies format.decimalSymbol format.groupSymbol)
  (means : (format.locale read).interpret code true negative text = .ok value)

include strictly body means

theorem interpret_lenient_of_strict (lenient : format.ReadsLeniently read) :
    (format.locale read).interpret code false negative text = .ok value := by
  have symbols := overSymbols_normalized body
  rcases interpret_eq_ok_iff.mp means with ⟨number, reads, gives⟩
  have found := ((strictly _ number symbols).mp reads).1
  exact interpret_eq_ok_iff.mpr ⟨number, lenient.accepts _ number symbols found, gives⟩

theorem exists_isGrouped_of_interpret (usable : format.IsUsable) (properly : format.WritesProperly write)
    (separated : ∃ character ∈ text, format.IsSeparator character) :
    ∃ whole fraction grouping, text = whole ++ fraction ∧ format.grouping = some grouping ∧
      format.IsGrouped grouping whole ∧ IsFraction format.decimalSymbol fraction := by
  rcases interpret_eq_ok_iff.mp means with ⟨number, reads, _⟩
  have symbolMember := groupSymbol_mem_normalized_iff.mpr separated
  rcases (strictly _ number (overSymbols_normalized body)).mp reads with ⟨found, checked⟩
  rcases checked symbolMember with ⟨proper, written, isProper⟩
  rcases properly number proper (negative_of_readLenient? found) written with ⟨count, places, rfl⟩
  exact exists_isGrouped_of_isProper usable isProper symbolMember

end Bodies

end NumberFormat

/-! ## Strict numbers -/

/-- Either there is no sign and the body begins at once, or it begins behind the sign. -/
theorem Grammar.exists_sign (grammar : Grammar) (locale : NumberLocale) {cursor : Cursor}
    {left : List Char} (here : cursor.HasLeft left) :
    ∃ sign negative behind, (sign = [] ∨ sign = locale.minusSymbol) ∧ left = sign ++ behind ∧
      (cursor.forward sign.length).HasLeft behind ∧
      ∀ code strict, (grammar.parse (.decimalNumber locale code strict) cursor).ending =
        (grammar.parse (.afterSign locale code strict negative) (cursor.forward sign.length)).ending := by
  by_cases signed : cursor.startsWith (.text locale.minusSymbol.toArray) = true
  · have inFront : locale.minusSymbol <+: left := by
      by_cases empty : locale.minusSymbol = []
      · exact empty ▸ List.nil_prefix
      · exact (here.startsWith_iff empty).mp signed
    rcases inFront with ⟨behind, rfl⟩
    refine ⟨locale.minusSymbol, true, behind, .inr rfl, rfl, here.behind, fun code strict => ?_⟩
    rw [grammar.ending_parse_decimalNumber locale code strict here, if_pos signed]
  · refine ⟨[], false, left, .inl rfl, rfl, here, fun code strict => ?_⟩
    rw [grammar.ending_parse_decimalNumber locale code strict here, if_neg signed]
    rfl

/-- What is read strictly is read leniently as the same number, and the same is left. If there is a separator
in the text that is read, then behind the sign, if there is one, come groups of digits with separators exactly
where the format has them, counted from the point, and without a zero in front, and then nothing but the
decimal symbol and digits. -/
theorem decimalNumber_strict (grammar : Grammar) {format : NumberFormat} (usable : format.IsUsable)
    {write : NumberWriting} {read : NumberReading} (lenient : format.ReadsLeniently read)
    (strictly : format.ReadsStrictly write read) (properly : format.WritesProperly write) (code : String)
    {cursor : Cursor} {left : List Char} (here : cursor.HasLeft left) {reply : Reply}
    (matched : (grammar.parse (.decimalNumber (format.locale read) code true) cursor).ending = .ok reply) :
    (grammar.parse (.decimalNumber (format.locale read) code false) cursor).ending = .ok reply ∧
      ∃ text rest, left = text ++ rest ∧ reply.cursor.HasLeft rest ∧
        ((∃ character ∈ text, format.IsSeparator character) →
          ∃ sign whole fraction grouping, text = sign ++ whole ++ fraction ∧
            (sign = [] ∨ sign = format.minusSymbol) ∧ format.grouping = some grouping ∧
            format.IsGrouped grouping whole ∧ IsFraction format.decimalSymbol fraction) := by
  rcases grammar.exists_sign (format.locale read) here with
    ⟨sign, negative, behind, isSign, rfl, there, goesOn⟩
  rw [goesOn] at matched ⊢
  rcases (Grammar.parse_afterSign_eq_ok_iff usable there).mp matched with ⟨body, isBody, means, stops⟩
  constructor
  · exact (Grammar.parse_afterSign_eq_ok_iff usable there).mpr ⟨body, isBody,
      NumberFormat.interpret_lenient_of_strict strictly isBody.member means lenient, stops⟩
  · rcases isBody.inFront with ⟨rest, rfl⟩
    refine ⟨sign ++ body, rest, (List.append_assoc _ _ _).symm, ?_, fun separated => ?_⟩
    · rw [stops]
      exact there.behind
    · have inBody : ∃ character ∈ body, format.IsSeparator character := by
        rcases separated with ⟨character, member, isSeparator⟩
        refine ⟨character, (List.mem_append.mp member).resolve_left fun inSign => ?_, isSeparator⟩
        rcases isSign with rfl | rfl
        · cases inSign
        · exact usable.minusSymbol_plain character inSign isSeparator
      rcases NumberFormat.exists_isGrouped_of_interpret strictly isBody.member means usable properly
        inBody with ⟨whole, fraction, grouping, rfl, groups, isGrouped, isFraction⟩
      exact ⟨sign, whole, fraction, grouping, (List.append_assoc _ _ _).symm, isSign, groups, isGrouped,
        isFraction⟩

open NumberFormat (indian)

private def rupees : List Char := ['-', '1', ',', '2', '3', ',', '4', '5', '6', '.', '5', '0', ' ', '₹']

/-- The group next to the point may be longer than those before it. -/
theorem decimalNumber_strict_indian :
    (Grammar.empty.parse (.decimalNumber indian.builtIn "hi-IN" false)
          (.start (.text rupees.toArray))).ending =
        .ok ⟨.decimal ⟨true, 12345650, -2⟩, ⟨.text rupees.toArray, 12⟩⟩ ∧
      ∃ sign whole fraction, rupees.take 12 = sign ++ whole ++ fraction ∧
        indian.IsGrouped ⟨3, 2⟩ whole ∧ IsFraction '.' fraction := by
  have here : (Cursor.start (.text rupees.toArray)).HasLeft rupees := rfl
  have usable : indian.IsUsable := by decide
  have behindSign : (Cursor.start (.text rupees.toArray)).HasLeft (indian.minusSymbol ++ rupees.drop 1) := here
  have body : IsLongest (bodies '.' ',') ((rupees.drop 1).take 11) (rupees.drop 1) :=
    isLongest_bodies_of_all (by decide) (by decide) (by decide) (by decide)
  have means : indian.builtIn.interpret "hi-IN" true true ((rupees.drop 1).take 11) =
    .ok (.decimal ⟨true, 12345650, -2⟩) := by rfl
  have matched :
      (Grammar.empty.parse (.decimalNumber indian.builtIn "hi-IN" true)
          (.start (.text rupees.toArray))).ending =
        .ok ⟨.decimal ⟨true, 12345650, -2⟩, ⟨.text rupees.toArray, 12⟩⟩ := by
    rw [Grammar.ending_parse_signed (by decide) behindSign,
      Grammar.ending_parse_afterSign usable behindSign.behind body, means]
    rfl
  rcases decimalNumber_strict .empty usable indian.readsLeniently indian.readsStrictly
    indian.writesProperly "hi-IN" here matched with ⟨lenient, text, rest, split, leaves, grouped⟩
  have atEnd : (⟨.text rupees.toArray, 12⟩ : Cursor).HasLeft [' ', '₹'] := rfl
  cases leaves.symm.trans atEnd
  have taken : rupees.take 12 = text := List.append_cancel_right split
  rcases grouped ⟨',', by rw [← taken]; decide, .inl rfl⟩ with
    ⟨sign, whole, fraction, grouping, parts, _, groups, isGrouped, isFraction⟩
  cases groups
  exact ⟨lenient, sign, whole, fraction, taken.trans parts, isGrouped, isFraction⟩

end CursorParsing
