import CursorParsing.Locale.DecimalNumber
import CursorParsing.Proofs.Numerals
import CursorParsing.Proofs.SpacedRows
import CursorParsing.Proofs.TextReading

/-!
# Number bodies

The body of a number is the longest text in front that is written as one: digits and symbols in any order,
or rows of digits and points with spaces between them. Its characters are given one by one and none of them
is lost.
-/

namespace CursorParsing

/-! ## Bodies -/

/-- A digit or the symbol for the point. -/
def IsFigure (decimalSymbol character : Char) : Prop :=
  character.isDigit = true ∨ character = decimalSymbol

instance (decimalSymbol character : Char) : Decidable (IsFigure decimalSymbol character) :=
  inferInstanceAs (Decidable (_ ∨ _))

def IsSpace (character : Char) : Prop := character ∈ spaceVariants

/-- The texts that may be written as the body of a number, well formed or not. -/
def bodies (decimalSymbol groupSymbol : Char) : Language Char :=
  if isSpaceGroup [groupSymbol] then spacedRows (IsFigure decimalSymbol) IsSpace
  else rowsOf fun character => IsFigure decimalSymbol character ∨ character = groupSymbol

theorem mem_figures_iff (decimalSymbol character : Char) :
    character ∈ Parser.digitCharacters ++ [decimalSymbol] ↔ IsFigure decimalSymbol character := by
  rw [List.mem_append, List.mem_singleton, Parser.mem_digitCharacters_iff, IsFigure]

theorem not_isSpace_of_isFigure {decimalSymbol : Char} (noSpace : decimalSymbol ∉ spaceVariants)
    (character : Char) (isFigure : IsFigure decimalSymbol character) : ¬IsSpace character := by
  intro isSpace
  rcases isFigure with isDigit | rfl
  · have noDigits : spaceVariants.all (!Char.isDigit ·) = true := by decide
    have notDigit := List.all_eq_true.mp noDigits character isSpace
    rw [isDigit] at notDigit
    cases notDigit
  · exact noSpace isSpace

/-- The characters of a text one by one. -/
def Value.characters (text : List Char) : Value := .list (text.map .ofChar)

theorem Value.characters_injective : Function.Injective Value.characters := by
  intro text other same
  have sameItems : text.map Value.ofChar = other.map Value.ofChar := Value.list.inj same
  refine List.map_injective_iff.mpr ?_ sameItems
  intro first second equal
  exact (List.cons.inj (Value.text.inj equal)).1

theorem Value.add_characters (left right : List Char) :
    add (characters left) (characters right) = .ok (characters (left ++ right)) := by
  simp [characters, add]

theorem Parser.flattenLists_characters (texts : List (List Char)) :
    flattenLists (.list (texts.map Value.characters)) = .ok (Value.characters texts.flatten) := by
  have lists : (texts.map Value.characters).mapM Value.items? =
      some (texts.map fun text => text.map Value.ofChar) := by
    induction texts with
    | nil => rfl
    | cons text texts induction =>
        rw [List.map_cons, List.mapM_cons, induction]
        rfl
  change (do
    let lists ← Value.orTypeMismatch ((texts.map Value.characters).mapM Value.items?)
    return Value.list lists.flatten) = _
  rw [lists, Value.characters, List.map_flatten]
  rfl

section Reading

variable (grammar : Grammar) {decimalSymbol groupSymbol : Char}

theorem reads_row {members : List Char} {kind : Char → Prop}
    (same : ∀ character, character ∈ members ↔ kind character) :
    Reads grammar (.oneOrMore (.oneCharOf members)) Value.characters (.longest (rowsOf kind)) := by
  apply ((Reads.oneCharOf grammar members).oneOrMore (Form.consumes_oneThat _)).congr
  intro left text rest
  rw [longest_rowsOf_iff, Form.atLeastOnce, Form.many_oneThat_iff]
  simp only [decide_eq_true_eq, decide_eq_false_iff_not, same]
  exact ⟨fun given => ⟨given.1.1, ⟨given.2, given.1.2.1⟩, given.1.2.2⟩,
    fun given => ⟨⟨given.1, given.2.1.2, given.2.2⟩, given.2.1.1⟩⟩

theorem reads_spacedBody (noSpace : decimalSymbol ∉ spaceVariants) :
    Reads grammar (.spacedBody [decimalSymbol]) Value.characters
      (.longest (spacedRows (IsFigure decimalSymbol) IsSpace)) := by
  have row := reads_row grammar (mem_figures_iff decimalSymbol)
  have gap : Reads grammar _ Value.characters (.longest (rowsOf IsSpace)) :=
    reads_row grammar fun _ => Iff.rfl
  have chunk : Reads grammar _ Value.characters (laterRow (IsFigure decimalSymbol) IsSpace) :=
    gap.lift2 row Value.add_characters
  have later := (chunk.zeroOrMore (consumes_laterRow _ _)).map Parser.flattenLists_characters
  apply (row.lift2 later Value.add_characters).congr
  exact fun left text rest => rowByRow_iff (not_isSpace_of_isFigure noSpace)

theorem reads_numberBody (groupSymbol : Char) (noSpace : decimalSymbol ∉ spaceVariants) :
    Reads grammar (.numberBody [decimalSymbol] [groupSymbol]) Value.characters
      (.longest (bodies decimalSymbol groupSymbol)) := by
  unfold Parser.numberBody bodies
  split
  · exact reads_spacedBody grammar noSpace
  · apply reads_row grammar
    intro character
    rw [List.mem_append, mem_figures_iff, List.mem_singleton]

variable {cursor : Cursor} {left : List Char}

theorem ending_numberBody_eq_ok_iff (noSpace : decimalSymbol ∉ spaceVariants)
    (here : cursor.HasLeft left) {reply : Reply} :
    (grammar.parse (.numberBody [decimalSymbol] [groupSymbol]) cursor).ending = .ok reply ↔
      ∃ text, IsLongest (bodies decimalSymbol groupSymbol) text left ∧
        reply = ⟨.characters text, cursor.forward text.length⟩ := by
  have reads := reads_numberBody grammar groupSymbol noSpace
  have advances := grammar.advances_parse (.numberBody [decimalSymbol] [groupSymbol]) cursor
  constructor
  · intro matched
    rcases reads.sound here matched with ⟨text, rest, formed, gives, there⟩
    have stops := here.eq_forward formed.1 (advances reply matched) there
    exact ⟨text, formed.2, by rw [← gives, ← stops]⟩
  · intro given
    rcases given with ⟨text, isLongest, rfl⟩
    rcases isLongest.inFront with ⟨rest, split⟩
    exact reads.ending_eq_ok here split.symm ⟨split.symm, isLongest⟩

/-- A text is collected if it is the longest. -/
theorem numberBody_collects_iff (noSpace : decimalSymbol ∉ spaceVariants)
    (here : cursor.HasLeft left) {text : List Char} {stop : Cursor} :
    (grammar.parse (.numberBody [decimalSymbol] [groupSymbol]) cursor).ending =
        .ok ⟨.characters text, stop⟩ ↔
      IsLongest (bodies decimalSymbol groupSymbol) text left ∧ stop = cursor.forward text.length := by
  rw [ending_numberBody_eq_ok_iff grammar noSpace here]
  constructor
  · intro given
    rcases given with ⟨other, isLongest, same⟩
    rcases Reply.mk.inj same with ⟨sameValue, stops⟩
    rw [Value.characters_injective sameValue]
    exact ⟨isLongest, stops⟩
  · intro given
    exact ⟨text, given.1, by rw [given.2]⟩

theorem ending_numberBody_eq_mismatch_iff (noSpace : decimalSymbol ∉ spaceVariants)
    (here : cursor.HasLeft left) :
    (∃ cause, (grammar.parse (.numberBody [decimalSymbol] [groupSymbol]) cursor).ending =
        .error (.mismatch cause)) ↔
      ¬∃ text, IsLongest (bodies decimalSymbol groupSymbol) text left := by
  constructor
  · intro failed found
    rcases failed with ⟨cause, failed⟩
    rcases found with ⟨text, isLongest⟩
    cases failed.symm.trans
      ((ending_numberBody_eq_ok_iff grammar noSpace here).mpr ⟨text, isLongest, rfl⟩)
  · intro without
    exact (reads_numberBody grammar groupSymbol noSpace).refuses
      (fun text _ formed => without ⟨text, formed.2⟩) cursor here

/-- A body begins with a figure, or with a group symbol that is no space. -/
theorem exists_isLongest_bodies_iff (noSpace : decimalSymbol ∉ spaceVariants) :
    (∃ text, IsLongest (bodies decimalSymbol groupSymbol) text left) ↔
      ∃ character ∈ left.head?, IsFigure decimalSymbol character ∨
        isSpaceGroup [groupSymbol] = false ∧ character = groupSymbol := by
  unfold bodies
  by_cases spaced : isSpaceGroup [groupSymbol] = true
  · rw [if_pos spaced]
    simp only [spaced, Bool.true_eq_false, false_and, or_false]
    constructor
    · intro given
      rcases given with ⟨text, isLongest⟩
      exact exists_head?_of_inFront isLongest.inFront
        (figure_head?_of_mem_spacedRows isLongest.member)
    · intro begins
      rcases exists_rowByRow begins with ⟨text, _, formed⟩
      exact ⟨text, (longest_of_rowByRow (not_isSpace_of_isFigure noSpace) formed).2⟩
  · rw [if_neg spaced]
    simp only [eq_false_of_ne_true spaced, true_and]
    constructor
    · intro given
      rcases given with ⟨text, isLongest⟩
      exact exists_head?_of_inFront isLongest.inFront (head?_of_mem_rowsOf isLongest.member)
    · intro begins
      rcases exists_longest_rowsOf begins with ⟨text, _, formed⟩
      exact ⟨text, formed.2⟩

/-- Where the group symbol is no space, a body goes on up to what is none of its characters. -/
theorem isLongest_bodies_of_all (notSpaced : isSpaceGroup [groupSymbol] = false) {text rest : List Char}
    (notEmpty : text ≠ [])
    (all : text.all (fun character => IsFigure decimalSymbol character ∨ character = groupSymbol) = true)
    (stops : rest.head?.all
      (fun character => ¬(IsFigure decimalSymbol character ∨ character = groupSymbol)) = true) :
    IsLongest (bodies decimalSymbol groupSymbol) text (text ++ rest) := by
  rw [bodies, if_neg (ne_true_of_eq_false notSpaced)]
  refine (longest_rowsOf_iff.mpr ⟨rfl, ⟨notEmpty, fun character member => ?_⟩, fun character next => ?_⟩).2
  · exact of_decide_eq_true (List.all_eq_true.mp all character member)
  · exact of_decide_eq_true ((Option.all_eq_true _ _).mp stops character next)

/-- Where groups have spaces between them, a body goes on up to its last figure. -/
theorem isLongest_bodies_of_spaced (spaced : isSpaceGroup [groupSymbol] = true)
    (noSpace : decimalSymbol ∉ spaceVariants) {text rest : List Char}
    (starts : text.head?.any (IsFigure decimalSymbol ·) = true)
    (ends : text.getLast?.any (IsFigure decimalSymbol ·) = true)
    (all : text.all (fun character => IsFigure decimalSymbol character ∨ character ∈ spaceVariants) = true)
    (stops : rest.all (¬IsFigure decimalSymbol ·) = true) :
    IsLongest (bodies decimalSymbol groupSymbol) text (text ++ rest) := by
  simp only [Option.any_eq_true, List.all_eq_true, decide_eq_true_eq] at starts ends all stops
  rw [bodies, if_pos spaced]
  have halts : HaltsRows (IsFigure decimalSymbol) IsSpace rest := fun gaps more split _ character next =>
    stops character (split ▸ List.mem_append_right gaps (List.mem_of_head? next))
  exact ((longest_spacedRows_iff (not_isSpace_of_isFigure noSpace)).mpr
    ⟨rfl, mem_spacedRows_iff.mpr ⟨starts, ends, all⟩, halts⟩).2

end Reading

/-- The body of a number is the longest text in front that may be written as one, and its characters are
given one by one. There is none exactly where the first character cannot begin one. Where groups have
spaces between them, the body neither begins nor ends with a space, and spaces that no figure follows are
left. -/
theorem numberBody_longest (grammar : Grammar) (decimalSymbol groupSymbol : Char)
    (noSpace : decimalSymbol ∉ spaceVariants) {cursor : Cursor} {left : List Char}
    (here : cursor.HasLeft left) :
    (∀ reply, (grammar.parse (.numberBody [decimalSymbol] [groupSymbol]) cursor).ending = .ok reply ↔
        ∃ text, IsLongest (bodies decimalSymbol groupSymbol) text left ∧
          reply = ⟨.list (text.map .ofChar), cursor.forward text.length⟩) ∧
      ((∃ cause, (grammar.parse (.numberBody [decimalSymbol] [groupSymbol]) cursor).ending =
          .error (.mismatch cause)) ↔
        ∀ character ∈ left.head?, ¬(IsFigure decimalSymbol character ∨
          isSpaceGroup [groupSymbol] = false ∧ character = groupSymbol)) ∧
      (∀ fault, (grammar.parse (.numberBody [decimalSymbol] [groupSymbol]) cursor).ending ≠
        .error (.fault fault)) ∧
      (isSpaceGroup [groupSymbol] = true → ∀ text rest, left = text ++ rest →
        IsLongest (bodies decimalSymbol groupSymbol) text left →
          (∀ character ∈ text.head?, ¬IsSpace character) ∧
            (∀ character ∈ text.getLast?, ¬IsSpace character) ∧
            HaltsRows (IsFigure decimalSymbol) IsSpace rest) := by
  refine ⟨fun _ => ending_numberBody_eq_ok_iff grammar noSpace here, ?_, ?_, ?_⟩
  · rw [ending_numberBody_eq_mismatch_iff grammar noSpace here, exists_isLongest_bodies_iff noSpace]
    simp only [not_exists, not_and]
  · exact (reads_numberBody grammar groupSymbol noSpace).faultless here
  · intro spaced text rest split isLongest
    have apart := not_isSpace_of_isFigure noSpace
    rw [bodies, if_pos spaced] at isLongest
    rcases (longest_spacedRows_iff apart).mp ⟨split, isLongest⟩ with ⟨_, member, halts⟩
    rcases figure_head?_of_mem_spacedRows member with ⟨first, starts, firstFigure⟩
    rcases figure_getLast?_of_mem_spacedRows member with ⟨last, ends, lastFigure⟩
    refine ⟨?_, ?_, halts⟩
    · intro character same
      rw [Option.mem_unique same starts]
      exact apart first firstFigure
    · intro character same
      rw [Option.mem_unique same ends]
      exact apart last lastFigure

private def frenchPrice : List Char := ['1', ' ', '2', '\u00a0', '3', ' ', 'E']

/-- Any sort of space is in the body, but not the one that no digit follows. -/
theorem numberBody_longest_french :
    (Grammar.empty.parse (.numberBody [','] ['\u202f']) (.start (.text frenchPrice.toArray))).ending =
      .ok ⟨.list ((frenchPrice.take 5).map .ofChar), ⟨.text frenchPrice.toArray, 5⟩⟩ := by
  have here : (Cursor.start (.text frenchPrice.toArray)).HasLeft frenchPrice := rfl
  have figure (digit : Char) (isDigit : digit.isDigit = true) : [digit] ∈ rowsOf (IsFigure ',') :=
    ⟨List.cons_ne_nil _ _, fun _ member => .inl (List.mem_singleton.mp member ▸ isDigit)⟩
  have gap (space : Char) (isSpace : space ∈ spaceVariants) : [space] ∈ rowsOf IsSpace :=
    ⟨List.cons_ne_nil _ _, fun _ member => List.mem_singleton.mp member ▸ isSpace⟩
  have twoRows := append_mem_spacedRows (rowsOf_subset_spacedRows (figure '1' rfl))
    (gap ' ' (by decide)) (figure '2' rfl)
  have spaced : frenchPrice.take 5 ∈ spacedRows (IsFigure ',') IsSpace :=
    append_mem_spacedRows twoRows (gap '\u00a0' (by decide)) (figure '3' rfl)
  have noFigures : [' ', 'E'].all (¬IsFigure ',' ·) = true := by decide
  have halts : HaltsRows (IsFigure ',') IsSpace [' ', 'E'] := by
    intro gaps more split _ character next
    have member : character ∈ [' ', 'E'] :=
      split ▸ List.mem_append_right gaps (List.mem_of_head? next)
    simpa using List.all_eq_true.mp noFigures character member
  have isLongest : IsLongest (bodies ',' '\u202f') (frenchPrice.take 5) frenchPrice :=
    ((longest_spacedRows_iff (not_isSpace_of_isFigure (by decide))).mpr ⟨rfl, spaced, halts⟩).2
  exact ((numberBody_longest .empty ',' '\u202f' (by decide) here).1 _).mpr ⟨_, isLongest, rfl⟩

end CursorParsing
