import CursorParsing.Proofs.DecimalNumbers
import Mathlib.Data.List.Forall2

/-!
# Sorts of spaces

Where groups have spaces between them, it makes no difference which sort of space is written: two texts that
are alike but for that are read as the same number, or neither is read.
-/

namespace CursorParsing

/-! ## Texts that are normalized alike -/

namespace NumberFormat

variable {format : NumberFormat} {text other left right behind : List Char}

theorem IsUsable.isFigure_symbolFor_iff (usable : format.IsUsable) (character : Char) :
    IsFigure format.decimalSymbol (format.symbolFor character) ↔
      IsFigure format.decimalSymbol character := by
  constructor
  · intro isFigure
    rwa [usable.symbolFor_eq isFigure] at isFigure
  · intro isFigure
    rwa [symbolFor, if_neg (usable.not_isSeparator isFigure)]

theorem isSpace_symbolFor_iff (spaced : isSpaceGroup [format.groupSymbol] = true) (character : Char) :
    IsSpace (format.symbolFor character) ↔ IsSpace character := by
  rw [← isSeparator_iff_isSpace spaced, ← isSeparator_iff_isSpace spaced, isSeparator_symbolFor]

/-- Which sort of space is written does not decide what is written as a body. -/
theorem normalized_mem_bodies_iff (usable : format.IsUsable) :
    format.normalized text ∈ bodies format.decimalSymbol format.groupSymbol ↔
      text ∈ bodies format.decimalSymbol format.groupSymbol := by
  by_cases spaced : isSpaceGroup [format.groupSymbol] = true
  · rw [bodies, if_pos spaced, normalized, mem_spacedRows_iff, mem_spacedRows_iff]
    simp only [List.head?_map, List.getLast?_map, Option.mem_map, exists_exists_and_eq_and,
      List.forall_mem_map, usable.isFigure_symbolFor_iff, isSpace_symbolFor_iff spaced]
  · rw [normalized, symbolFor_eq_id spaced, List.map_id]

/-- A text without separators is the only one that is normalized as it is. -/
theorem eq_of_normalized_eq (plain : ∀ character ∈ text, ¬format.IsSeparator character)
    (same : format.normalized text = format.normalized other) : other = text := by
  rw [normalized, normalized, map_symbolFor_eq_self plain] at same
  have otherPlain : ∀ character ∈ other, ¬format.IsSeparator character := by
    intro character member
    rw [← isSeparator_symbolFor]
    apply plain
    rw [same]
    exact List.mem_map_of_mem member
  rw [same, map_symbolFor_eq_self otherPlain]

theorem length_eq_of_normalized_eq (same : format.normalized left = format.normalized right) :
    left.length = right.length := by
  simpa only [normalized, List.length_map] using congrArg List.length same

theorem normalized_take (count : Nat) (text : List Char) :
    format.normalized (text.take count) = (format.normalized text).take count := by
  rw [normalized, normalized, List.map_take]

/-- The longest bodies in front are normalized alike too: what is longer in one text is longer in the
other. -/
theorem isLongest_take_of_normalized_eq (usable : format.IsUsable)
    (same : format.normalized left = format.normalized right)
    (body : IsLongest (bodies format.decimalSymbol format.groupSymbol) text left) :
    IsLongest (bodies format.decimalSymbol format.groupSymbol) (right.take text.length) right ∧
      format.normalized text = format.normalized (right.take text.length) := by
  have sameParts (count : Nat) :
      format.normalized (left.take count) = format.normalized (right.take count) := by
    rw [normalized_take, normalized_take, same]
  have sameText : format.normalized text = format.normalized (right.take text.length) := by
    rw [← sameParts, ← List.prefix_iff_eq_take.mp body.inFront]
  refine ⟨⟨?_, List.take_prefix _ _, ?_⟩, sameText⟩
  · rw [← normalized_mem_bodies_iff usable, ← sameText, normalized_mem_bodies_iff usable]
    exact body.member
  · intro other otherBody inFront
    have sameOther : format.normalized (left.take other.length) = format.normalized other := by
      rw [sameParts, ← List.prefix_iff_eq_take.mp inFront]
    rw [← length_eq_of_normalized_eq sameText, ← length_eq_of_normalized_eq sameOther]
    refine body.longest _ ?_ (List.take_prefix _ _)
    rwa [← normalized_mem_bodies_iff usable, sameOther, normalized_mem_bodies_iff usable]

/-- Behind the same minus sign what is normalized alike is normalized alike. -/
theorem exists_behind_of_normalized_eq (usable : format.IsUsable)
    (same : format.normalized (format.minusSymbol ++ behind) = format.normalized right) :
    ∃ other, right = format.minusSymbol ++ other ∧
      format.normalized behind = format.normalized other := by
  rw [normalized, normalized, List.map_append] at same
  rcases List.map_eq_append_iff.mp same.symm with ⟨sign, other, rfl, sameSign, sameBehind⟩
  rw [← normalized, ← normalized] at sameSign sameBehind
  exact ⟨other, by rw [eq_of_normalized_eq usable.minusSymbol_plain sameSign.symm], sameBehind.symm⟩

/-- Spaces of any sort are normalized alike. -/
theorem normalized_eq_of_spaces (spaced : isSpaceGroup [format.groupSymbol] = true)
    (alike : List.Forall₂ (fun first second => first = second ∨ IsSpace first ∧ IsSpace second)
      left right) :
    format.normalized left = format.normalized right := by
  rw [normalized, normalized, ← List.forall₂_eq_eq_eq, List.forall₂_map_left_iff,
    List.forall₂_map_right_iff]
  refine alike.imp fun first second either => ?_
  rcases either with same | ⟨firstSpace, secondSpace⟩
  · rw [same]
  · rw [symbolFor, symbolFor, if_pos (.inr ⟨spaced, firstSpace⟩), if_pos (.inr ⟨spaced, secondSpace⟩)]

end NumberFormat

/-! ## Readings of two texts -/

/-- Two readings match with the same value and take as many symbols, or both do not match, or both end in the
same fault. -/
inductive ReadsAlike (one other : Cursor) : Outcome Reply → Outcome Reply → Prop
  | matched (value : Value) (count : Nat) :
      ReadsAlike one other (.ok ⟨value, one.forward count⟩) (.ok ⟨value, other.forward count⟩)
  | mismatched (cause otherCause : Mismatch) :
      ReadsAlike one other (.error (.mismatch cause)) (.error (.mismatch otherCause))
  | faulted (fault : Fault) :
      ReadsAlike one other (.error (.fault fault)) (.error (.fault fault))

/-- What is read alike behind as many symbols is read alike. -/
theorem ReadsAlike.behind {one other : Cursor} {first second : Outcome Reply} (count : Nat)
    (alike : ReadsAlike (one.forward count) (other.forward count) first second) :
    ReadsAlike one other first second := by
  cases alike with
  | matched value further =>
      rw [Cursor.forward_forward, Cursor.forward_forward]
      exact .matched value (count + further)
  | mismatched cause otherCause => exact .mismatched cause otherCause
  | faulted fault => exact .faulted fault

/-- If one text is read, so is the other, with the same value and as many symbols. -/
theorem ReadsAlike.eq_ok {one other : Cursor} {reply : Reply} {second : Outcome Reply}
    (alike : ReadsAlike one other (.ok reply) second) :
    ∃ count, reply.cursor = one.forward count ∧ second = .ok ⟨reply.value, other.forward count⟩ := by
  cases alike with
  | matched value count => exact ⟨count, rfl, rfl⟩

namespace Grammar

variable (grammar : Grammar) {format : NumberFormat} (read : NumberReading) (code : String)
  (strict negative : Bool) {one other : Cursor} {left right text otherText : List Char}

/-- The meaning of a body depends on its normalized text. -/
theorem interpret_readsAlike (count : Nat) (same : format.normalized text = format.normalized otherText) :
    ReadsAlike one other
      (((format.locale read).interpret code strict negative text).map (⟨·, one.forward count⟩))
      (((format.locale read).interpret code strict negative otherText).map
        (⟨·, other.forward count⟩)) := by
  rw [NumberFormat.interpret_eq, NumberFormat.interpret_eq, same]
  rcases read strict (format.normalized otherText) with (reason | _) | number
  · exact .mismatched _ _
  · exact .faulted _
  · dsimp only
    rcases Parser.applySign negative number with (cause | fault) | value
    · exact .mismatched cause cause
    · exact .faulted fault
    · exact .matched value count

theorem parse_afterSign_readsAlike (usable : format.IsUsable) (here : one.HasLeft left)
    (there : other.HasLeft right) (same : format.normalized left = format.normalized right) :
    ReadsAlike one other
      (grammar.parse (.afterSign (format.locale read) code strict negative) one).ending
      (grammar.parse (.afterSign (format.locale read) code strict negative) other).ending := by
  by_cases found : ∃ text, IsLongest (bodies format.decimalSymbol format.groupSymbol) text left
  · rcases found with ⟨text, body⟩
    rcases NumberFormat.isLongest_take_of_normalized_eq usable same body with ⟨otherBody, sameText⟩
    rw [ending_parse_afterSign usable here body, ending_parse_afterSign usable there otherBody,
      ← NumberFormat.length_eq_of_normalized_eq sameText]
    exact interpret_readsAlike read code strict negative text.length sameText
  · have notFound : ¬∃ text, IsLongest (bodies format.decimalSymbol format.groupSymbol) text right := by
      intro otherFound
      rcases otherFound with ⟨text, body⟩
      exact found ⟨_, (NumberFormat.isLongest_take_of_normalized_eq usable same.symm body).1⟩
    rcases ending_parse_afterSign_of_none usable here found with ⟨cause, failed⟩
    rcases ending_parse_afterSign_of_none usable there notFound with ⟨otherCause, otherFailed⟩
    rw [failed, otherFailed]
    exact .mismatched cause otherCause

end Grammar

/-- However a locale with spaces between groups reads, texts that differ only in the sorts of their spaces are
read alike, strictly or leniently: the same number from as many characters, or none from either. -/
theorem decimalNumber_spaces_alike (grammar : Grammar) {format : NumberFormat} (usable : format.IsUsable)
    (notEmpty : format.minusSymbol ≠ []) (spaced : isSpaceGroup [format.groupSymbol] = true)
    (read : NumberReading) (code : String) (strict : Bool) {one other : Cursor} {left right : List Char}
    (here : one.HasLeft left) (there : other.HasLeft right)
    (alike : List.Forall₂ (fun first second => first = second ∨ IsSpace first ∧ IsSpace second)
      left right) :
    ReadsAlike one other
      (grammar.parse (.decimalNumber (format.locale read) code strict) one).ending
      (grammar.parse (.decimalNumber (format.locale read) code strict) other).ending := by
  have same := NumberFormat.normalized_eq_of_spaces spaced alike
  by_cases signed : format.minusSymbol <+: left
  · rcases signed with ⟨behind, rfl⟩
    rcases NumberFormat.exists_behind_of_normalized_eq usable same with ⟨otherBehind, rfl, sameBehind⟩
    rw [Grammar.ending_parse_signed notEmpty here, Grammar.ending_parse_signed notEmpty there]
    apply ReadsAlike.behind format.minusSymbol.length
    exact grammar.parse_afterSign_readsAlike read code strict true usable here.behind there.behind
      sameBehind
  · have unsigned : ¬format.minusSymbol <+: right := by
      intro inFront
      rcases inFront with ⟨behind, rfl⟩
      rcases NumberFormat.exists_behind_of_normalized_eq usable same.symm with ⟨otherBehind, rfl, _⟩
      exact signed (List.prefix_append _ _)
    rw [Grammar.ending_parse_unsigned here signed, Grammar.ending_parse_unsigned there unsigned]
    exact grammar.parse_afterSign_readsAlike read code strict false usable here there same

open NumberFormat (french)

private def typed : List Char := ['-', '1', ' ', '2', '3', '4', ',', '5', '\u00a0', '€']

private def printed : List Char := ['-', '1', '\u202f', '2', '3', '4', ',', '5', ' ', '€']

/-- Another sort of space is as good between groups, and as little a part of the number behind it. -/
theorem decimalNumber_spaces_alike_french :
    (Grammar.empty.parse (.decimalNumber french.builtIn "fr-FR" true) (.start (.text typed.toArray))).ending =
        .ok ⟨.decimal ⟨true, 12345, -1⟩, ⟨.text typed.toArray, 8⟩⟩ ∧
      (Grammar.empty.parse (.decimalNumber french.builtIn "fr-FR" true)
          (.start (.text printed.toArray))).ending =
        .ok ⟨.decimal ⟨true, 12345, -1⟩, ⟨.text printed.toArray, 8⟩⟩ := by
  have usable : french.IsUsable := by decide
  have here : (Cursor.start (.text typed.toArray)).HasLeft (french.minusSymbol ++ typed.drop 1) := rfl
  have body : IsLongest (bodies ',' '\u202f') ((typed.drop 1).take 7) (typed.drop 1) :=
    isLongest_bodies_of_spaced (by decide) (by decide) (by decide) (by decide) (by decide) (by decide)
  have means : french.builtIn.interpret "fr-FR" true true ((typed.drop 1).take 7) =
    .ok (.decimal ⟨true, 12345, -1⟩) := by rfl
  have typedReads :
      (Grammar.empty.parse (.decimalNumber french.builtIn "fr-FR" true)
          (.start (.text typed.toArray))).ending =
        .ok ⟨.decimal ⟨true, 12345, -1⟩, ⟨.text typed.toArray, 8⟩⟩ := by
    rw [Grammar.ending_parse_signed (by decide) here,
      Grammar.ending_parse_afterSign usable here.behind body, means]
    rfl
  have alike : List.Forall₂ (fun first second => first = second ∨ IsSpace first ∧ IsSpace second)
      typed printed := by
    have space : ∀ character ∈ spaceVariants, IsSpace character := fun _ member => member
    refine .cons (.inl rfl) <| .cons (.inl rfl) <| .cons (.inr ⟨space _ ?_, space _ ?_⟩) <|
      .cons (.inl rfl) <| .cons (.inl rfl) <| .cons (.inl rfl) <| .cons (.inl rfl) <| .cons (.inl rfl) <|
      .cons (.inr ⟨space _ ?_, space _ ?_⟩) <| .cons (.inl rfl) .nil <;> decide
  have there : (Cursor.start (.text printed.toArray)).HasLeft printed := rfl
  have reads := decimalNumber_spaces_alike .empty usable (by decide) rfl french.read "fr-FR" true here
    there alike
  rw [typedReads] at reads
  rcases reads.eq_ok with ⟨count, stops, otherReads⟩
  have taken : 8 = 0 + count := congrArg Cursor.position stops
  rw [Nat.zero_add] at taken
  refine ⟨typedReads, ?_⟩
  rw [otherReads, ← taken]
  rfl

end CursorParsing
