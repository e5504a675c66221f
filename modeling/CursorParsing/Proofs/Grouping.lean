import CursorParsing.Proofs.LocaleFormats

/-!
# Groups of digits

In a number that a format writes, separators stand at the places that its grouping gives, counted from the
point, and nowhere else.
-/

namespace CursorParsing

open Number

/-- More digits of a number leave its leading digit what it is. -/
theorem Number.head?_digits_ne_zero (number : Nat) (positive : 0 < number) :
    (digits number).head? ≠ some '0' := by
  induction number using Nat.strongRecOn with
  | ind number induction =>
      by_cases small : number < 10
      · rw [digits, Nat.toDigits_of_lt_base small]
        have all : ∀ digit < 10, 0 < digit → [Nat.digitChar digit].head? ≠ some '0' := by decide
        exact all number small positive
      · have leading := induction (number / 10) (by omega) (by omega)
        have split : digits number = digits (number / 10) ++ digits (number % 10) := by
          have joined := @Nat.toDigits_append_toDigits 10 (number / 10) (number % 10) (by decide)
            (by omega) (by omega)
          rw [Nat.div_add_mod] at joined
          exact joined.symm
        rcases digitsOfQuotient : digits (number / 10) with _ | ⟨first, more⟩
        · exact absurd digitsOfQuotient (digits_ne_nil _)
        · rw [digitsOfQuotient] at leading
          rw [split, digitsOfQuotient]
          exact leading

/-- Whether a separator belongs at a place, counted from the point. -/
def Grouping.Separates (grouping : Grouping) (place : Nat) : Prop :=
  ∃ groups, place = grouping.primary + groups * (grouping.secondary + 1)

namespace NumberFormat

/-! ## Symbols between groups -/

section Symbols

variable {symbol : Char} {size left : Nat} {digits : List Char}

theorem mem_insertSymbols {character : Char}
    (member : character ∈ insertSymbols symbol size left digits) :
    character = symbol ∨ character ∈ digits := by
  induction left, digits using insertSymbols.induct size with
  | case1 => exact .inr member
  | case2 digit rest induction =>
      rw [insertSymbols, List.mem_cons, List.mem_cons] at member
      rcases member with same | same | later
      · exact .inl same
      · exact .inr (List.mem_cons.mpr (.inl same))
      · exact (induction later).imp_right (List.mem_cons_of_mem _)
  | case3 left digit rest induction =>
      rw [insertSymbols, List.mem_cons] at member
      rcases member with same | later
      · exact .inr (List.mem_cons.mpr (.inl same))
      · exact (induction later).imp_right (List.mem_cons_of_mem _)

theorem getLast?_insertSymbols : (insertSymbols symbol size left digits).getLast? = digits.getLast? := by
  induction left, digits using insertSymbols.induct size with
  | case1 => rfl
  | case2 digit rest induction =>
      rw [insertSymbols, List.getLast?_cons_cons, List.getLast?_cons, induction, ← List.getLast?_cons]
  | case3 left digit rest induction =>
      rw [insertSymbols, List.getLast?_cons, induction, ← List.getLast?_cons]

/-- Two characters on, past a symbol and the first digit behind it, the rest of that group counts. -/
theorem exists_groups_add_two_iff (positive : 0 < size) (place : Nat) :
    (∃ groups, place + 2 = 0 + groups * (size + 1)) ↔
      ∃ groups, place = size - 1 + groups * (size + 1) := by
  constructor
  · intro given
    rcases given with ⟨_ | groups, counted⟩
    · omega
    · rw [Nat.succ_mul] at counted
      exact ⟨groups, by omega⟩
  · intro given
    rcases given with ⟨groups, counted⟩
    refine ⟨groups + 1, ?_⟩
    rw [Nat.succ_mul]
    omega

/-- A symbol stands wherever the current group and any number of later ones, each with its symbol, end. -/
theorem eq_symbol_iff_of_insertSymbols (positive : 0 < size) (noSymbol : symbol ∉ digits)
    {place : Nat} {character : Char}
    (found : (insertSymbols symbol size left digits)[place]? = some character) :
    character = symbol ↔ ∃ groups, place = left + groups * (size + 1) := by
  induction left, digits using insertSymbols.induct size generalizing place with
  | case1 => cases found
  | case2 digit rest induction =>
      rw [insertSymbols] at found
      rw [List.mem_cons, not_or] at noSymbol
      rcases place with _ | _ | place
      · cases found
        exact iff_of_true rfl ⟨0, by omega⟩
      · cases found
        refine iff_of_false (Ne.symm noSymbol.1) fun given => ?_
        rcases given with ⟨_ | groups, counted⟩
        · omega
        · rw [Nat.succ_mul] at counted
          omega
      · rw [exists_groups_add_two_iff positive]
        exact induction noSymbol.2 found
  | case3 left digit rest induction =>
      rw [insertSymbols] at found
      rw [List.mem_cons, not_or] at noSymbol
      rcases place with _ | place
      · cases found
        exact iff_of_false (Ne.symm noSymbol.1) fun given => by
          rcases given with ⟨groups, counted⟩
          omega
      · rw [induction noSymbol.2 found]
        exact exists_congr fun groups => by omega

theorem filter_insertSymbols (noSymbol : symbol ∉ digits) :
    (insertSymbols symbol size left digits).filter (· != symbol) = digits := by
  induction left, digits using insertSymbols.induct size with
  | case1 => rfl
  | case2 digit rest induction =>
      rw [List.mem_cons, not_or] at noSymbol
      simp [insertSymbols, Ne.symm noSymbol.1, induction noSymbol.2]
  | case3 left digit rest induction =>
      rw [List.mem_cons, not_or] at noSymbol
      simp [insertSymbols, Ne.symm noSymbol.1, induction noSymbol.2]

theorem eq_nil_of_filter_eq_nil {text : List Char} (ends : ∀ last ∈ text.getLast?, last ≠ symbol)
    (nothing : text.filter (· != symbol) = []) : text = [] := by
  cases text using List.reverseRecOn with
  | nil => rfl
  | append_singleton text last =>
      have kept := ends last List.getLast?_concat
      simp [kept] at nothing

/-- A text that does not end with a symbol is determined by the places of its symbols and by what else is
in it. -/
theorem eq_of_symbols_alike {kind : Nat → Prop} {text other : List Char}
    (places : ∀ place character, text[place]? = some character → (character = symbol ↔ kind place))
    (otherPlaces : ∀ place character, other[place]? = some character → (character = symbol ↔ kind place))
    (ends : ∀ last ∈ text.getLast?, last ≠ symbol) (otherEnds : ∀ last ∈ other.getLast?, last ≠ symbol)
    (same : text.filter (· != symbol) = other.filter (· != symbol)) : text = other := by
  induction text generalizing kind other with
  | nil => exact (eq_nil_of_filter_eq_nil otherEnds same.symm).symm
  | cons character text induction =>
      cases other with
      | nil => exact eq_nil_of_filter_eq_nil ends same
      | cons otherCharacter other =>
          have alike := (places 0 character rfl).trans (otherPlaces 0 otherCharacter rfl).symm
          have later := @induction (fun place => kind (place + 1)) other
            (fun place => places (place + 1)) (fun place => otherPlaces (place + 1))
            (fun last member => ends last (List.mem_getLast?_cons member))
            (fun last member => otherEnds last (List.mem_getLast?_cons member))
          by_cases isSymbol : character = symbol
          · have otherIsSymbol := alike.mp isSymbol
            rw [isSymbol, otherIsSymbol] at same ⊢
            rw [later (by simpa using same)]
          · have notSymbol := alike.not.mp isSymbol
            simp only [List.filter_cons, bne_iff_ne.mpr isSymbol, bne_iff_ne.mpr notSymbol, if_true,
              List.cons.injEq] at same
            rw [same.1, later same.2]

end Symbols

/-! ## Grouped texts -/

/-- Whether a separator belongs at a place in a format, counted from the point. -/
def SeparatesAt (format : NumberFormat) (place : Nat) : Prop :=
  ∃ grouping ∈ format.grouping, grouping.Separates place

/-- The digits of a number, with separators exactly where the format has them. -/
structure IsWritten (format : NumberFormat) (number : Nat) (whole : List Char) : Prop where
  digit_or_separator : ∀ character ∈ whole, character.isDigit = true ∨ format.IsSeparator character
  separates : ∀ place character, whole.reverse[place]? = some character →
    (format.IsSeparator character ↔ format.SeparatesAt place)
  filter_isDigit : whole.filter Char.isDigit = digits number
  leading : ∃ first ∈ whole.head?, first.isDigit = true

/-- Digits with separators exactly where the grouping has them, and without a zero in front. -/
structure IsGrouped (format : NumberFormat) (grouping : Grouping) (whole : List Char) : Prop where
  digit_or_separator : ∀ character ∈ whole, character.isDigit = true ∨ format.IsSeparator character
  separates : ∀ place character, whole.reverse[place]? = some character →
    (format.IsSeparator character ↔ grouping.Separates place)
  leading : ∃ first ∈ whole.head?, first.isDigit = true ∧ first ≠ '0'

section Grouped

variable {format : NumberFormat} {grouping : Grouping}

theorem mem_grouped {digits : List Char} {character : Char}
    (member : character ∈ format.grouped digits) :
    character = format.groupSymbol ∨ character ∈ digits := by
  unfold grouped at member
  split at member
  · rw [List.mem_reverse] at member
    exact (mem_insertSymbols member).imp_right List.mem_reverse.mp
  · exact .inr member

theorem head?_grouped (digits : List Char) : (format.grouped digits).head? = digits.head? := by
  unfold grouped
  split
  · rw [List.head?_reverse, getLast?_insertSymbols, List.getLast?_reverse]
  · rfl

theorem separatesAt_iff (groups : format.grouping = some grouping) (place : Nat) :
    format.SeparatesAt place ↔ grouping.Separates place := by
  simp [SeparatesAt, groups]

theorem digit_or_groupSymbol_of_mem_grouped {number : Nat} {character : Char}
    (member : character ∈ format.grouped (digits number)) :
    character.isDigit = true ∨ character = format.groupSymbol :=
  (mem_grouped member).symm.imp_left isDigit_of_mem_digits

theorem groupSymbol_not_mem_digits (usable : format.IsUsable) (number : Nat) :
    format.groupSymbol ∉ (digits number).reverse :=
  List.mem_reverse.not.mpr (not_mem_digits usable.groupSymbol_isDigit number)

theorem eq_groupSymbol_iff_of_grouped (usable : format.IsUsable) {number place : Nat} {character : Char}
    (found : (format.grouped (digits number)).reverse[place]? = some character) :
    character = format.groupSymbol ↔ format.SeparatesAt place := by
  have noSymbol := groupSymbol_not_mem_digits usable number
  rcases groups : format.grouping with _ | grouping
  · rw [grouped, groups] at found
    refine iff_of_false (fun same => noSymbol (same ▸ List.mem_of_getElem? found)) fun given => ?_
    rcases given with ⟨grouping, isGrouping, _⟩
    rw [groups] at isGrouping
    cases isGrouping
  · rw [grouped, groups, List.reverse_reverse] at found
    rw [separatesAt_iff groups]
    exact eq_symbol_iff_of_insertSymbols (usable.grouping_pos grouping groups).2 noSymbol found

theorem filter_grouped (usable : format.IsUsable) (number : Nat) :
    (format.grouped (digits number)).filter (· != format.groupSymbol) = digits number := by
  unfold grouped
  split
  · rw [List.filter_reverse, filter_insertSymbols (groupSymbol_not_mem_digits usable number),
      List.reverse_reverse]
  · exact List.filter_eq_self.mpr (bne_of_not_mem (not_mem_digits usable.groupSymbol_isDigit number))

theorem exists_head?_grouped (number : Nat) :
    ∃ first ∈ (format.grouped (digits number)).head?, first.isDigit = true := by
  rw [head?_grouped]
  have leading := List.head?_eq_some_head (digits_ne_nil number)
  exact ⟨_, leading, isDigit_of_mem_digits (List.mem_of_head? leading)⟩

theorem isWritten_grouped (usable : format.IsUsable) (number : Nat) :
    format.IsWritten number (format.grouped (digits number)) := by
  have separator {character : Char} (member : character ∈ format.grouped (digits number)) :
      format.IsSeparator character ↔ character = format.groupSymbol := by
    refine ⟨fun isSeparator => ?_, .inl⟩
    exact (digit_or_groupSymbol_of_mem_grouped member).resolve_left fun isDigit =>
      usable.not_isSeparator (.inl isDigit) isSeparator
  refine ⟨?_, ?_, ?_, exists_head?_grouped number⟩
  · exact fun character member => (digit_or_groupSymbol_of_mem_grouped member).imp_right .inl
  · intro place character found
    rw [separator (List.mem_reverse.mp (List.mem_of_getElem? found))]
    exact eq_groupSymbol_iff_of_grouped usable found
  · have kept : ∀ character ∈ format.grouped (digits number),
        character.isDigit = (character != format.groupSymbol) := by
      intro character member
      rw [Bool.eq_iff_iff, bne_iff_ne]
      exact ⟨fun isDigit => usable.ne_groupSymbol (.inl isDigit),
        (digit_or_groupSymbol_of_mem_grouped member).resolve_right⟩
    rw [List.filter_congr kept, filter_grouped usable]

theorem isGrouped_grouped (usable : format.IsUsable) (groups : format.grouping = some grouping)
    {number : Nat} (positive : 0 < number) : format.IsGrouped grouping (format.grouped (digits number)) := by
  have written := isWritten_grouped usable number
  refine ⟨written.digit_or_separator, fun place character found => ?_, ?_⟩
  · rw [← separatesAt_iff groups]
    exact written.separates place character found
  · rcases written.leading with ⟨first, begins, isDigit⟩
    rw [head?_grouped] at begins ⊢
    exact ⟨first, begins, isDigit, fun zero => head?_digits_ne_zero number positive (zero ▸ begins)⟩

/-- What is written of a number is, but for the sorts of spaces, what the format gives. -/
theorem IsWritten.normalized_eq_grouped (usable : format.IsUsable) {number : Nat} {whole : List Char}
    (written : format.IsWritten number whole) :
    format.normalized whole = format.grouped (digits number) := by
  have kept : ∀ character ∈ whole,
      (format.symbolFor character != format.groupSymbol) = character.isDigit := by
    intro character member
    rw [Bool.eq_iff_iff, bne_iff_ne, Ne, symbolFor_eq_groupSymbol_iff]
    exact ⟨(written.digit_or_separator character member).resolve_right,
      fun isDigit => usable.not_isSeparator (.inl isDigit)⟩
  have unchanged : (digits number).map format.symbolFor = digits number :=
    map_symbolFor_eq_self fun _ member => usable.not_isSeparator (.inl (isDigit_of_mem_digits member))
  rw [← List.reverse_inj, normalized]
  refine @eq_of_symbols_alike format.groupSymbol format.SeparatesAt _ _ ?places ?writtenPlaces ?ends
    ?writtenEnds ?same
  case places =>
    intro place character found
    rw [← List.map_reverse, List.getElem?_map, Option.map_eq_some_iff] at found
    rcases found with ⟨other, found, rfl⟩
    rw [symbolFor_eq_groupSymbol_iff]
    exact written.separates place other found
  case writtenPlaces => exact fun place character found => eq_groupSymbol_iff_of_grouped usable found
  case ends =>
    intro last member
    rcases written.leading with ⟨first, begins, isDigit⟩
    rw [List.getLast?_reverse, List.head?_map, Option.mem_def.mp begins] at member
    cases member
    rw [Ne, symbolFor_eq_groupSymbol_iff]
    exact usable.not_isSeparator (.inl isDigit)
  case writtenEnds =>
    intro last member
    rcases (isWritten_grouped usable number).leading with ⟨first, begins, isDigit⟩
    rw [List.getLast?_reverse, Option.mem_def.mp begins] at member
    cases member
    exact usable.ne_groupSymbol (.inl isDigit)
  case same =>
    rw [List.filter_reverse, List.filter_reverse, filter_grouped usable, List.filter_map]
    have digitsKept := (List.filter_congr kept).trans written.filter_isDigit
    exact congrArg List.reverse ((congrArg (List.map _) digitsKept).trans unchanged)

/-- Zero is one digit, and so has no separator. -/
theorem pos_of_groupSymbol_mem (usable : format.IsUsable) {number : Nat}
    (member : format.groupSymbol ∈ format.grouped (digits number)) :
    0 < number ∧ ∃ grouping, format.grouping = some grouping := by
  have noDigit := not_mem_digits usable.groupSymbol_isDigit number
  rcases groups : format.grouping with _ | grouping
  · rw [grouped, groups] at member
    exact absurd member noDigit
  · refine ⟨Nat.pos_of_ne_zero fun zero => noDigit ?_, grouping, rfl⟩
    rcases Nat.exists_eq_add_one.mpr (usable.grouping_pos grouping groups).1 with ⟨more, primary⟩
    rw [grouped, groups, zero] at member
    simpa only [primary, digits, Nat.toDigits_zero, List.reverse_singleton, insertSymbols, zero]
      using member

/-- Which sort of space is written makes no difference. -/
theorem IsGrouped.of_normalized (usable : format.IsUsable) {whole : List Char}
    (isGrouped : format.IsGrouped grouping (format.normalized whole)) :
    format.IsGrouped grouping whole := by
  rcases isGrouped with ⟨characters, separates, leading⟩
  rw [normalized] at characters separates leading
  refine ⟨?_, ?_, ?_⟩
  · intro character member
    rcases characters _ (List.mem_map_of_mem member) with isDigit | isSeparator
    · exact .inl (usable.symbolFor_eq (.inl isDigit) ▸ isDigit)
    · exact .inr ((isSeparator_symbolFor character).mp isSeparator)
  · intro place character found
    rw [← isSeparator_symbolFor]
    exact separates place _ (by rw [← List.map_reverse, List.getElem?_map, found]; rfl)
  · rw [List.head?_map] at leading
    rcases leading with ⟨first, begins, isDigit, notZero⟩
    rcases Option.map_eq_some_iff.mp begins with ⟨character, starts, rfl⟩
    have unchanged := usable.symbolFor_eq (.inl isDigit)
    rw [unchanged] at isDigit notZero
    exact ⟨character, starts, isDigit, notZero⟩

end Grouped

end NumberFormat

end CursorParsing
