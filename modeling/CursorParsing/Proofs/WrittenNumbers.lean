import CursorParsing.Proofs.ReducedDecimals
import CursorParsing.Proofs.StrictReading

/-!
# Numbers written in a locale

A number whose digits all fit the precision is written in one way, but for zeros at the end of its fraction
and the sorts of its spaces. Strictly read, what is written so gives that number.
-/

namespace CursorParsing

open Number

namespace NumberFormat

variable {format : NumberFormat} {number places : Nat} {text whole fraction : List Char}

/-! ## Written numbers -/

/-- The text writes `number / 10 ^ places`: groups of digits, and where there are places, the decimal symbol
and a digit for each, with any number of zeros after them. -/
inductive Writes (format : NumberFormat) (number : Nat) : Nat → List Char → Prop
  | integer {whole : List Char} (written : format.IsWritten number whole) : Writes format number 0 whole
  | fraction {places : Nat} {whole fraction : List Char} (zeros : Nat)
      (written : format.IsWritten (number / 10 ^ places) whole) (positive : 0 < places)
      (areDigits : ∀ character ∈ fraction, character.isDigit = true) (length : fraction.length = places)
      (value : numeralValue fraction = number % 10 ^ places) :
      Writes format number places
        (whole ++ format.decimalSymbol :: (fraction ++ List.replicate zeros '0'))

/-! ### Characters -/

theorem not_separatesAt_zero (usable : format.IsUsable) : ¬format.SeparatesAt 0 := by
  intro separates
  rcases separates with ⟨grouping, groups, count, counted⟩
  have positive := (usable.grouping_pos grouping groups).1
  omega

theorem IsWritten.exists_getLast? (usable : format.IsUsable) (written : format.IsWritten number whole) :
    ∃ last ∈ whole.getLast?, last.isDigit = true := by
  rcases written.leading with ⟨first, begins, _⟩
  have notEmpty : whole ≠ [] := List.ne_nil_of_mem (List.mem_of_head? begins)
  have ends := List.getLast?_eq_some_getLast notEmpty
  have place : whole.reverse[0]? = some (whole.getLast notEmpty) := by
    rw [← List.head?_eq_getElem?, List.head?_reverse, ends]
  refine ⟨_, ends, (written.digit_or_separator _ (List.getLast_mem notEmpty)).resolve_right ?_⟩
  rw [written.separates 0 _ place]
  exact not_separatesAt_zero usable

theorem IsWritten.decimalSymbol_not_mem (usable : format.IsUsable)
    (written : format.IsWritten number whole) : format.decimalSymbol ∉ whole := by
  intro member
  rcases written.digit_or_separator _ member with isDigit | isSeparator
  · rw [usable.decimalSymbol_isDigit] at isDigit
    cases isDigit
  · exact usable.not_isSeparator (.inr rfl) isSeparator

theorem isDigit_of_mem_append_zeros (areDigits : ∀ character ∈ fraction, character.isDigit = true)
    (zeros : Nat) : ∀ character ∈ fraction ++ List.replicate zeros '0', character.isDigit = true := by
  refine List.forall_mem_append.mpr ⟨areDigits, fun character member => ?_⟩
  rw [List.eq_of_mem_replicate member]
  rfl

theorem isFigure_of_mem_fraction {decimalSymbol : Char}
    (areDigits : ∀ character ∈ fraction, character.isDigit = true) (zeros : Nat) :
    ∀ character ∈ decimalSymbol :: (fraction ++ List.replicate zeros '0'),
      IsFigure decimalSymbol character :=
  List.forall_mem_cons.mpr
    ⟨.inr rfl, fun character member => .inl (isDigit_of_mem_append_zeros areDigits zeros character member)⟩

theorem Writes.figure_or_separator (writes : format.Writes number places text) :
    ∀ character ∈ text, IsFigure format.decimalSymbol character ∨ format.IsSeparator character := by
  intro character member
  cases writes with
  | integer written => exact (written.digit_or_separator character member).imp_left .inl
  | fraction zeros written positive areDigits length value =>
      rcases List.mem_append.mp member with before | behind
      · exact (written.digit_or_separator character before).imp_left .inl
      · exact .inl (isFigure_of_mem_fraction areDigits zeros character behind)

theorem Writes.exists_head? (writes : format.Writes number places text) :
    ∃ first ∈ text.head?, first.isDigit = true := by
  cases writes with
  | integer written => exact written.leading
  | fraction zeros written positive areDigits length value =>
      exact exists_head?_of_inFront (List.prefix_append _ _) written.leading

theorem Writes.exists_getLast? (usable : format.IsUsable) (writes : format.Writes number places text) :
    ∃ last ∈ text.getLast?, IsFigure format.decimalSymbol last := by
  cases writes with
  | integer written =>
      rcases written.exists_getLast? usable with ⟨last, ends, isDigit⟩
      exact ⟨last, ends, .inl isDigit⟩
  | fraction zeros written positive areDigits length value =>
      rw [List.getLast?_append_cons]
      exact ⟨_, List.getLast?_eq_some_getLast (List.cons_ne_nil _ _),
        isFigure_of_mem_fraction areDigits zeros _ (List.getLast_mem _)⟩

theorem Writes.mem_bodies (usable : format.IsUsable) (writes : format.Writes number places text) :
    text ∈ bodies format.decimalSymbol format.groupSymbol := by
  rcases writes.exists_head? with ⟨first, begins, isDigit⟩
  exact mem_bodies_of_figure_or_separator ⟨first, begins, .inl isDigit⟩ (writes.exists_getLast? usable)
    writes.figure_or_separator

/-- There are separators only where the format has groups. -/
theorem IsWritten.exists_grouping (written : format.IsWritten number whole) {character : Char}
    (member : character ∈ whole) (isSeparator : format.IsSeparator character) :
    ∃ grouping, format.grouping = some grouping := by
  rcases List.mem_iff_getElem?.mp (List.mem_reverse.mpr member) with ⟨place, found⟩
  rcases (written.separates place character found).mp isSeparator with ⟨grouping, groups, _⟩
  exact ⟨grouping, groups⟩

theorem Writes.exists_grouping (usable : format.IsUsable) (writes : format.Writes number places text)
    (separated : ∃ character ∈ text, format.IsSeparator character) :
    ∃ grouping, format.grouping = some grouping := by
  rcases separated with ⟨character, member, isSeparator⟩
  cases writes with
  | integer written => exact written.exists_grouping member isSeparator
  | fraction zeros written positive areDigits length value =>
      rcases List.mem_append.mp member with before | behind
      · exact written.exists_grouping before isSeparator
      · exact absurd isSeparator
          (usable.not_isSeparator (isFigure_of_mem_fraction areDigits zeros character behind))

/-! ## The number that is read -/

/-- Zeros at the end of the fraction make the count of its places longer, and the number no other. -/
theorem Writes.size_eq (usable : format.IsUsable) (writes : format.Writes number places text) :
    (Decimal.mk false (digitsValue text) (-(fractionLength format.decimalSymbol text : Int))).size =
      (Decimal.ofPlaces number places).size := by
  have noDigit := usable.decimalSymbol_isDigit
  rw [← numeralValue_filter_isDigit]
  cases writes with
  | integer written =>
      rw [written.filter_isDigit, numeralValue_digits,
        fractionLength_of_not_mem (written.decimalSymbol_not_mem usable)]
      rfl
  | @fraction places whole fraction zeros written positive areDigits length value =>
      have allDigits := isDigit_of_mem_append_zeros areDigits zeros
      have count : numeralValue
          ((whole ++ format.decimalSymbol :: (fraction ++ List.replicate zeros '0')).filter Char.isDigit) =
            10 ^ zeros * number := by
        rw [List.filter_append, List.filter_cons_of_neg (by simp [noDigit]),
          List.filter_eq_self.mpr allDigits, written.filter_isDigit, ← List.append_assoc,
          numeralValue_append, numeralValue_append, numeralValue_digits, numeralValue_replicate_zero,
          List.length_replicate, length, value, Nat.div_add_mod, Nat.add_zero]
      rw [count, fractionLength_append noDigit (written.decimalSymbol_not_mem usable),
        List.countP_eq_length.mpr allDigits, List.length_append, List.length_replicate, length]
      have tens : (10 : ℚ) ^ zeros ≠ 0 := pow_ne_zero _ (by norm_num)
      calc (Decimal.ofPlaces (10 ^ zeros * number) (places + zeros)).size
          = 10 ^ zeros * number / (10 ^ places * 10 ^ zeros) := by
            rw [Decimal.size_ofPlaces, pow_add]
            push_cast
            rfl
        _ = (Decimal.ofPlaces number places).size := by
            rw [Decimal.size_ofPlaces, mul_comm (10 ^ places : ℚ), mul_div_mul_left _ _ tens]

/-- What is written is read as a number of its value. -/
theorem Writes.readLenient? (usable : format.IsUsable) (writes : format.Writes number places text) :
    ∃ decimal, format.readLenient? (format.normalized text) = some decimal ∧ decimal.negative = false ∧
      decimal.size = (Decimal.ofPlaces number places).size := by
  have body := writes.mem_bodies usable
  refine ⟨_, (readLenient?_eq_some_iff usable body).mpr ⟨⟨?_, ?_⟩, rfl⟩, rfl, writes.size_eq usable⟩
  · rcases writes.exists_head? with ⟨first, begins, isDigit⟩
    exact ⟨first, List.mem_of_head? begins, isDigit⟩
  · cases writes with
    | integer written =>
        rw [List.count_eq_zero_of_not_mem (written.decimalSymbol_not_mem usable)]
        exact Nat.zero_le 1
    | fraction zeros written positive areDigits length value =>
        have notBehind := not_mem_of_isDigit usable.decimalSymbol_isDigit
          (isDigit_of_mem_append_zeros areDigits zeros)
        rw [List.count_append, List.count_cons_self, List.count_eq_zero_of_not_mem notBehind,
          List.count_eq_zero_of_not_mem (written.decimalSymbol_not_mem usable)]

/-! ## How its number is written -/

theorem length_inPlaces (positive : 0 < places) (small : number < 10 ^ places) :
    (inPlaces places number).length = places := by
  have few : digitCount number ≤ places := (digitCount_le_iff positive).mpr small
  rw [inPlaces, List.length_append, List.length_replicate]
  exact Nat.sub_add_cancel few

theorem numeralValue_inPlaces (places number : Nat) : numeralValue (inPlaces places number) = number := by
  rw [inPlaces, numeralValue_append, numeralValue_replicate_zero, numeralValue_digits, Nat.mul_zero,
    Nat.zero_add]

/-- As many digits as there are places are how their number is written in them. -/
theorem inPlaces_eq (positive : 0 < places) (areDigits : ∀ character ∈ fraction, character.isDigit = true)
    (length : fraction.length = places) (value : numeralValue fraction = number % 10 ^ places) :
    inPlaces places (number % 10 ^ places) = fraction := by
  have small : number % 10 ^ places < 10 ^ places := Nat.mod_lt _ (Nat.pow_pos (by decide))
  apply eq_of_numeralValue_eq (fun _ => isDigit_of_mem_inPlaces) areDigits
  · rw [length_inPlaces positive small, length]
  · rw [numeralValue_inPlaces, value]

/-- What the format writes is one of the texts that write the number. -/
theorem writes_properText (usable : format.IsUsable) (number places : Nat) :
    format.Writes number places (format.properText number places) := by
  have written := isWritten_grouped usable (number / 10 ^ places)
  rcases Nat.eq_zero_or_pos places with rfl | positive
  · rw [Nat.pow_zero, Nat.div_one] at written
    rw [properText_eq, if_pos rfl, List.append_nil, Nat.pow_zero, Nat.div_one]
    exact .integer written
  · have small : number % 10 ^ places < 10 ^ places := Nat.mod_lt _ (Nat.pow_pos (by decide))
    have writes := Writes.fraction 0 written positive (fun _ => isDigit_of_mem_inPlaces)
      (length_inPlaces positive small) (numeralValue_inPlaces places _)
    rw [properText_eq, if_neg (Nat.ne_of_gt positive)]
    rwa [List.replicate_zero, List.append_nil] at writes

/-- A number without a sign whose places all fit the precision is written with all its digits. -/
def WritesExactly (format : NumberFormat) (write : NumberWriting) : Prop :=
  ∀ decimal number places, decimal.negative = false →
    decimal.size = (Decimal.ofPlaces number places).size → (0 < places → number % 10 ≠ 0) →
    digitCount (number / 10 ^ places) + max format.fractionPlaces places ≤ Decimal.precision →
    write decimal = .ok (format.properText number places)

/-- The writing of a format keeps the promise. -/
theorem writesExactly (format : NumberFormat) : format.WritesExactly format.write := by
  intro decimal number places _ value lowest fits
  rcases Decimal.exists_fit?_of_places value (by omega) with ⟨kept, fitted, sameSize⟩
  have keptValue := sameSize.trans value
  rcases Decimal.reduced_of_places keptValue lowest with ⟨samePlaces, scaled⟩
  have reducedValue := (Decimal.size_reduced kept).trans keptValue
  simp only [write, fitted]
  generalize kept.reduced = reduced at *
  have notTooLong : ¬(reduced.coefficient ≠ 0 ∧ digitCount reduced.coefficient + reduced.exponent +
      format.placesOf reduced > Decimal.precision) := by
    intro tooLong
    have low : reduced.magnitude ≤ digitCount (number / 10 ^ places) :=
      Decimal.magnitude_le_of_size_lt tooLong.1 (reducedValue ▸ Decimal.size_ofPlaces_lt number places)
    have long := tooLong.2
    rw [placesOf, samePlaces] at long
    rw [Decimal.magnitude] at low
    omega
  rw [writeReduced?, if_neg notTooLong, samePlaces, scaled]

theorem dropWhile_reverse_append_zeros (ends : ∃ last ∈ fraction.getLast?, last ≠ '0') (zeros : Nat) :
    ((fraction ++ List.replicate zeros '0').reverse.dropWhile (· == '0')).reverse = fraction := by
  have areZeros (character : Char) (member : character ∈ List.replicate zeros '0') :
      (character == '0') = true := beq_iff_eq.mpr (List.eq_of_mem_replicate member)
  rcases ends with ⟨last, isLast, notZero⟩
  rw [← List.head?_reverse] at isLast
  rcases List.head?_eq_some_iff.mp isLast with ⟨before, parts⟩
  rw [List.reverse_append, List.reverse_replicate, List.dropWhile_append_of_pos areZeros, parts,
    List.dropWhile_cons_of_neg (by simpa using notZero), ← parts, List.reverse_reverse]

/-- Zeros behind a fraction are left out up to its last digit that is no zero. -/
theorem withoutTrailingZeros_append (noPoint : format.decimalSymbol ∉ whole)
    (ends : ∃ last ∈ fraction.getLast?, last ≠ '0') (zeros : Nat) :
    format.withoutTrailingZeros
        (whole ++ format.decimalSymbol :: (fraction ++ List.replicate zeros '0')) =
      whole ++ format.decimalSymbol :: fraction := by
  have others := bne_of_not_mem noPoint
  have kept := dropWhile_reverse_append_zeros ends zeros
  rcases ends with ⟨last, isLast, _⟩
  -- The definition looks at what follows the symbol only if that is not empty.
  rcases List.exists_cons_of_ne_nil (List.ne_nil_of_mem (List.mem_of_getLast? isLast)) with
    ⟨first, more, rfl⟩
  rw [List.cons_append] at kept
  rw [withoutTrailingZeros, List.takeWhile_append_of_pos others, List.dropWhile_append_of_pos others,
    List.takeWhile_cons_of_neg (by simp), List.dropWhile_cons_of_neg (by simp), List.append_nil]
  simp only [List.cons_append, kept]

/-- The last digit of a fraction is the lowest digit of its number. -/
theorem exists_getLast?_ne_zero (lowest : number % 10 ≠ 0) (positive : 0 < places)
    (length : fraction.length = places) (value : numeralValue fraction = number % 10 ^ places) :
    ∃ last ∈ fraction.getLast?, last ≠ '0' := by
  cases fraction using List.reverseRecOn with
  | nil =>
      rw [← length] at positive
      exact absurd positive (Nat.lt_irrefl 0)
  | append_singleton before last =>
      refine ⟨last, List.getLast?_concat, fun zero => lowest ?_⟩
      have tens : 10 ∣ 10 ^ places := dvd_pow_self 10 (Nat.ne_of_gt positive)
      rw [← Nat.mod_mod_of_dvd number tens, ← value, zero, numeralValue_append, numeralValue_singleton,
        List.length_singleton, Nat.pow_one]
      exact Nat.mul_add_mod 10 _ 0

/-- Read with one sort of space, a text that writes a number is how the format writes it, or is so without
the zeros at its end. -/
theorem Writes.normalized_eq_properText (usable : format.IsUsable)
    (writes : format.Writes number places text) (lowest : 0 < places → number % 10 ≠ 0) :
    format.normalized text = format.properText number places ∨
      format.withoutTrailingZeros (format.normalized text) = format.properText number places := by
  cases writes with
  | integer written =>
      left
      rw [properText_eq, if_pos rfl, List.append_nil, Nat.pow_zero, Nat.div_one]
      exact written.normalized_eq_grouped usable
  | fraction zeros written positive areDigits length value =>
      right
      have figures := map_symbolFor_eq_self fun character member =>
        usable.not_isSeparator (isFigure_of_mem_fraction areDigits zeros character member)
      rw [properText_eq, if_neg (Nat.ne_of_gt positive), inPlaces_eq positive areDigits length value,
        ← withoutTrailingZeros_append (decimalSymbol_not_mem_grouped usable _)
          (exists_getLast?_ne_zero (lowest positive) positive length value) zeros,
        ← written.normalized_eq_grouped usable, normalized, normalized, List.map_append, figures]

theorem Writes.read {write : NumberWriting} {read : NumberReading} (usable : format.IsUsable)
    (strictly : format.ReadsStrictly write read) (exactly : format.WritesExactly write)
    (writes : format.Writes number places text) (lowest : 0 < places → number % 10 ≠ 0)
    (fits : ∀ grouping ∈ format.grouping,
      digitCount (number / 10 ^ places) + max format.fractionPlaces places ≤ Decimal.precision) :
    ∃ decimal, read true (format.normalized text) = .ok decimal ∧
      decimal.toRat = number / 10 ^ places := by
  rcases writes.readLenient? usable with ⟨decimal, found, notNegative, value⟩
  have symbols := overSymbols_normalized (writes.mem_bodies usable)
  refine ⟨decimal, (strictly _ decimal symbols).mpr ⟨found, fun separated => ?_⟩, ?_⟩
  · rcases writes.exists_grouping usable (groupSymbol_mem_normalized_iff.mp separated) with
      ⟨grouping, groups⟩
    exact ⟨_, exactly decimal number places notNegative value lowest (fits grouping groups),
      writes.normalized_eq_properText usable lowest⟩
  · rw [Decimal.toRat, notNegative, if_neg Bool.false_ne_true, value, Decimal.size_ofPlaces]

end NumberFormat

/-! ## Numbers read strictly -/

/-- Strictly, every number that a locale writes is read, where its digits in front of the point and its
places, or the three that are always provided for, are no more than the precision. The text may have zeros
behind the fraction, and what is left has to be something that the body cannot be continued with. -/
theorem decimalNumber_strict_written (grammar : Grammar) {format : NumberFormat}
    (usable : format.IsUsable)
    (signed : ∃ first ∈ format.minusSymbol.head?, ¬IsFigure format.decimalSymbol first)
    (provided : ∀ grouping ∈ format.grouping, format.fractionPlaces = 3) {write : NumberWriting}
    {read : NumberReading} (strictly : format.ReadsStrictly write read)
    (exactly : format.WritesExactly write) (code : String) {number places : Nat}
    (lowest : 0 < places → number % 10 ≠ 0)
    (fits : digitCount (number / 10 ^ places) + max 3 places ≤ Decimal.precision) {text tail : List Char}
    (writes : format.Writes number places text)
    (stops : ∀ more, more <+: tail →
      text ++ more ∈ bodies format.decimalSymbol format.groupSymbol → more = [])
    {cursor : Cursor} (here : cursor.HasLeft (text ++ tail)) :
    ∃ value stop,
      (grammar.parse (.decimalNumber (format.locale read) code true) cursor).ending =
          .ok ⟨.decimal value, stop⟩ ∧
        value.toRat = number / 10 ^ places ∧ stop.HasLeft tail := by
  have unsigned : ¬format.minusSymbol <+: text ++ tail := by
    intro inFront
    rcases exists_head?_of_inFront (List.prefix_append text tail) writes.exists_head? with
      ⟨first, begins, isDigit⟩
    rcases exists_head?_of_inFront inFront signed with ⟨sign, signBegins, noFigure⟩
    exact noFigure (Option.mem_unique begins signBegins ▸ .inl isDigit)
  have body := isLongest_append_iff.mpr ⟨writes.mem_bodies usable, stops⟩
  have enough : ∀ grouping ∈ format.grouping,
      digitCount (number / 10 ^ places) + max format.fractionPlaces places ≤ Decimal.precision := by
    intro grouping groups
    rwa [provided grouping groups]
  rcases writes.read usable strictly exactly lowest enough with ⟨value, reads, same⟩
  have means : (format.locale read).interpret code true false text = .ok (.decimal value) :=
    NumberFormat.interpret_eq_ok_iff.mpr ⟨value, reads, rfl⟩
  refine ⟨value, cursor.forward text.length, ?_, same, here.behind⟩
  rw [Grammar.ending_parse_unsigned here unsigned, Grammar.ending_parse_afterSign usable here body, means]
  rfl

open NumberFormat (indian)

private def amount : List Char := ['1', '2', ',', '3', '4', ',', '5', '6', '7', '.', '5', '0', ' ', '₹']

/-- A zero behind the fraction is read with it, and the space after that is left. -/
theorem decimalNumber_strict_written_indian :
    ∃ value stop,
      (Grammar.empty.parse (.decimalNumber indian.builtIn "hi-IN" true)
          (.start (.text amount.toArray))).ending = .ok ⟨.decimal value, stop⟩ ∧
        value.toRat = 12345675 / 10 ∧ stop.HasLeft [' ', '₹'] := by
  have usable : indian.IsUsable := by decide
  have signed : ∃ first ∈ indian.minusSymbol.head?, ¬IsFigure indian.decimalSymbol first :=
    ⟨'-', rfl, by decide⟩
  have provided : ∀ grouping ∈ indian.grouping, indian.fractionPlaces = 3 := fun _ _ => rfl
  have written : indian.IsWritten (12345675 / 10 ^ 1) (amount.take 9) := by
    have proper : indian.grouped (digits (12345675 / 10 ^ 1)) = amount.take 9 := by decide +kernel
    exact proper ▸ NumberFormat.isWritten_grouped usable _
  have writes : indian.Writes 12345675 1 (amount.take 12) :=
    .fraction 1 written (by decide) (List.forall_mem_singleton.mpr rfl) rfl (by decide)
  have body : IsLongest (bodies '.' ',') (amount.take 12) (amount.take 12 ++ [' ', '₹']) :=
    isLongest_bodies_of_all (by decide) (by decide) (by decide) (by decide)
  have here : (Cursor.start (.text amount.toArray)).HasLeft (amount.take 12 ++ [' ', '₹']) := rfl
  rcases decimalNumber_strict_written .empty usable signed provided indian.readsStrictly
    indian.writesExactly "hi-IN" (by decide) (by decide +kernel) writes
    (isLongest_append_iff.mp body).2 here with ⟨value, stop, reads, same, leaves⟩
  refine ⟨value, stop, reads, ?_, leaves⟩
  rw [same]
  norm_num

end CursorParsing
