import CursorParsing.ContactCard
import CursorParsing.Proofs.TextReading

/-!
# Contact cards, exactly

What the grammar of contact cards reads: a card as it is written and all the line ends after it. So cards
that are written one after another are read again, with or without line ends between them.
-/

namespace CursorParsing

/-! ## What may be written -/

/-- A character that a name can be written with. -/
def IsNameCharacter (character : Char) : Prop := character ≠ ',' ∧ character ≠ ';' ∧ character ≠ '\n'

instance (character : Char) : Decidable (IsNameCharacter character) :=
  inferInstanceAs (Decidable (_ ∧ _ ∧ _))

/-- A card that can be told from what is written. -/
structure ContactCard.IsProper (card : ContactCard) : Prop where
  lastName_plain : ∀ character ∈ card.person.lastName, IsNameCharacter character
  firstName_plain : ∀ character ∈ card.person.firstName, IsNameCharacter character
  phoneNumber_length : card.phoneNumber.length = 12
  phoneNumber_symbols : ∀ character ∈ card.phoneNumber, character ∈ "0123456789-".toList

namespace ContactCard

/-- In this form it is decided on the characters of the card, not on all characters there are. -/
theorem isProper_iff (card : ContactCard) :
    card.IsProper ↔
      card.person.lastName.all (IsNameCharacter ·) ∧ card.person.firstName.all (IsNameCharacter ·) ∧
        card.phoneNumber.length = 12 ∧ card.phoneNumber.all (· ∈ "0123456789-".toList) := by
  simp only [List.all_eq_true, decide_eq_true_eq]
  constructor
  · rintro ⟨lastPlain, firstPlain, length, symbols⟩
    exact ⟨lastPlain, firstPlain, length, symbols⟩
  · rintro ⟨lastPlain, firstPlain, length, symbols⟩
    exact ⟨lastPlain, firstPlain, length, symbols⟩

instance (card : ContactCard) : Decidable card.IsProper :=
  decidable_of_iff _ card.isProper_iff.symm

/-- Cards, each with a number of line ends after it. -/
def writeAll (lines : List (ContactCard × Nat)) : List Char :=
  lines.flatMap fun line => line.1.write ++ List.replicate line.2 '\n'

/-! ## The forms -/

/-- A name ends at a character that it cannot be written with, or at the end. -/
def nameForm : Form (List Char) := fun left name rest =>
  left = name ++ rest ∧ (∀ character ∈ name, IsNameCharacter character) ∧
    ∀ character ∈ rest.head?, ¬IsNameCharacter character

def phoneForm : Form (List Char) := fun left number rest =>
  left = number ++ rest ∧ number.length = 12 ∧
    ∀ character ∈ number, character ∈ "0123456789-".toList

def personForm : Form Person := fun left person rest =>
  ∃ after, left = person.lastName ++ ',' :: after ∧
    (∀ character ∈ person.lastName, IsNameCharacter character) ∧ nameForm after person.firstName rest

def form : Form ContactCard := fun left card rest =>
  card.IsProper ∧ (∃ count, left = card.write ++ List.replicate count '\n' ++ rest) ∧
    rest.head? ≠ some '\n'

theorem mem_nameEnds_iff (character : Char) : character ∈ nameEnds ↔ ¬IsNameCharacter character := by
  simp [nameEnds, IsNameCharacter]
  tauto

theorem mem_phoneCharacters_iff (character : Char) :
    character ∈ phoneCharacters ↔ character ∈ "0123456789-".toList := by
  simp [phoneCharacters]
  tauto

theorem join_characters (characters : List Char) :
    Transform.join.apply (.list (characters.map .ofChar)) = .ok (.text characters) := by
  change (do return Value.text (← Value.joinTexts (characters.map .ofChar))) = _
  rw [Value.joinTexts_characters]
  rfl

variable (grammar : Grammar)

theorem reads_name : Reads grammar nameParser .text nameForm := by
  have collected := (Reads.noCharOf grammar nameEnds).zeroOrMore (Form.consumes_oneThat _)
  have joined : Reads grammar nameParser .text _ := collected.map join_characters
  apply joined.congr
  intro left name rest
  simp [Form.map_iff, Form.many_oneThat_iff, mem_nameEnds_iff, nameForm]

/-- The first name begins after the comma, so the last one cannot have read it. -/
theorem reads_person : Reads grammar personParser Person.toValue personForm := by
  have comma := Reads.word grammar (List.cons_ne_nil ',' [])
  have lifted : Reads grammar personParser Person.toValue
      (.lift2 (fun lastName firstName => ⟨firstName, lastName⟩)
        (nameForm.keepLeft (.literal [','])) nameForm) :=
    ((reads_name grammar).keepLeft comma).lift2 (reads_name grammar) fun _ _ => rfl
  apply lifted.congr
  intro left person rest
  constructor
  · intro formed
    rcases Form.lift2_iff.mp formed with ⟨lastName, firstName, after, kept, more, rfl⟩
    rcases Form.keepLeft_iff.mp kept with ⟨_, _, ⟨rfl, plain, _⟩, rfl⟩
    exact ⟨after, rfl, plain, more⟩
  · rintro ⟨after, rfl, plain, more⟩
    have ends : nameForm (person.lastName ++ ',' :: after) person.lastName (',' :: after) :=
      ⟨rfl, plain, by simp [IsNameCharacter]⟩
    exact Form.lift2_iff.mpr
      ⟨_, _, after, Form.keepLeft_iff.mpr ⟨_, (), ends, rfl⟩, more, rfl⟩

theorem isWritable_phoneLength : (Value.int phoneLength).isWritable = true := by decide +kernel

theorem reads_phone : Reads grammar phoneParser .text phoneForm := by
  have collected := (Reads.oneCharOf grammar phoneCharacters).repeated
    (Form.consumes_oneThat _) phoneLength isWritable_phoneLength Value.isWritable_ofChar
  have joined : Reads grammar phoneParser .text _ := collected.map join_characters
  apply joined.congr
  intro left number rest
  simp [Form.map_iff, Form.times, Form.runs_oneThat_iff, mem_phoneCharacters_iff, phoneForm,
    phoneLength]
  tauto

theorem reads_card : Reads grammar parser toValue form := by
  have semicolon := Reads.word grammar (List.cons_ne_nil ';' [])
  have lineEnd := Reads.word grammar (List.cons_ne_nil '\n' [])
  have lineEnds := lineEnd.zeroOrMore (Form.consumes_literal (List.cons_ne_nil '\n' []))
  have lifted : Reads grammar parser toValue
      (.lift2 ContactCard.mk (personForm.keepLeft (.literal [';']))
        (phoneForm.keepLeft (.many (.literal ['\n'])))) :=
    ((reads_person grammar).keepLeft semicolon).lift2 ((reads_phone grammar).keepLeft lineEnds)
      fun _ _ => rfl
  apply lifted.congr
  intro left card rest
  constructor
  · intro formed
    rcases Form.lift2_iff.mp formed with ⟨person, number, afterPerson, kept, more, rfl⟩
    rcases Form.keepLeft_iff.mp kept with ⟨_, _, ⟨_, rfl, lastPlain, rfl, firstPlain, _⟩, rfl⟩
    rcases Form.keepLeft_iff.mp more with ⟨_, count, ⟨rfl, length, symbols⟩, ends⟩
    rcases Form.many_character_iff.mp ends with ⟨rfl, halts⟩
    exact ⟨⟨lastPlain, firstPlain, length, symbols⟩, ⟨count.length, by simp [write]⟩, halts⟩
  · rintro ⟨proper, ⟨count, rfl⟩, halts⟩
    have personFormed : personForm _ card.person
        (';' :: (card.phoneNumber ++ (List.replicate count '\n' ++ rest))) :=
      ⟨_, rfl, proper.lastName_plain, rfl, proper.firstName_plain, by simp [IsNameCharacter]⟩
    have phoneFormed : phoneForm _ card.phoneNumber (List.replicate count '\n' ++ rest) :=
      ⟨rfl, proper.phoneNumber_length, proper.phoneNumber_symbols⟩
    have ends : (Form.literal ['\n']).many (List.replicate count '\n' ++ rest)
        (List.replicate count ()) rest :=
      Form.many_character_iff.mpr ⟨by rw [List.length_replicate], halts⟩
    refine Form.lift2_iff.mpr ⟨card.person, card.phoneNumber, _,
      Form.keepLeft_iff.mpr ⟨_, (), ?_, rfl⟩, Form.keepLeft_iff.mpr ⟨_, _, phoneFormed, ends⟩, rfl⟩
    simpa [write] using personFormed

/-! ## Written cards -/

theorem toValue_injective : Function.Injective toValue := by
  intro card other same
  have read := congrArg ofValue? same
  rw [ofValue?_toValue, ofValue?_toValue] at read
  exact Option.some.inj read

theorem consumes_form : form.Consumes := by
  rintro _ card rest ⟨_, ⟨count, rfl⟩, _⟩
  simp only [write, List.length_append, List.length_cons]
  omega

theorem not_form_nil (card : ContactCard) (rest : List Char) : ¬form [] card rest := fun formed =>
  Nat.not_lt_zero _ (consumes_form [] card rest formed)

/-- A proper card does not begin with a line end. -/
theorem IsProper.head?_ne {card : ContactCard} (proper : card.IsProper) (after : List Char) :
    (card.write ++ after).head? ≠ some '\n' := by
  have plain := proper.lastName_plain
  cases isName : card.person.lastName with
  | nil => simp [write, isName]
  | cons character name =>
      rw [isName] at plain
      simpa [write, isName] using (plain character List.mem_cons_self).2.2

theorem head?_writeAll_ne {lines : List (ContactCard × Nat)}
    (proper : ∀ line ∈ lines, line.1.IsProper) : (writeAll lines).head? ≠ some '\n' := by
  cases lines with
  | nil => simp [writeAll]
  | cons line lines =>
      rw [writeAll, List.flatMap_cons, List.append_assoc]
      exact (proper line List.mem_cons_self).head?_ne _

theorem runs_writeAll {lines : List (ContactCard × Nat)}
    (proper : ∀ line ∈ lines, line.1.IsProper) :
    form.Runs (writeAll lines) (lines.map Prod.fst) [] := by
  induction lines with
  | nil => exact .none []
  | cons line lines induction =>
      rcases List.forall_mem_cons.mp proper with ⟨first, others⟩
      exact .next ⟨first, ⟨line.2, rfl⟩, head?_writeAll_ne others⟩ (induction others)

theorem exists_lines {left rest : List Char} {cards : List ContactCard}
    (runs : form.Runs left cards rest) :
    ∃ lines : List (ContactCard × Nat), lines.map Prod.fst = cards ∧
      (∀ line ∈ lines, line.1.IsProper) ∧ left = writeAll lines ++ rest := by
  induction runs with
  | none left => exact ⟨[], rfl, List.forall_mem_nil _, rfl⟩
  | @next left middle rest card cards first _ induction =>
      rcases first with ⟨proper, ⟨count, rfl⟩, _⟩
      rcases induction with ⟨lines, rfl, others, rfl⟩
      refine ⟨(card, count) :: lines, rfl, List.forall_mem_cons.mpr ⟨proper, others⟩, ?_⟩
      simp [writeAll]

/-- The grammar of contact cards reads a proper card and all the line ends after it, and nothing else.
So repeated it reads all of a text as certain cards exactly if these are proper and the text is how they
are written one after another, with or without line ends between them. -/
theorem parser_reads_exactly (grammar : Grammar) (characters : Array Char) (position : Nat) :
    (∀ (card : ContactCard) (rest : List Char),
      (grammar.run parser ⟨.text characters, position⟩).1 = .ok ⟨card.toValue, .text rest⟩ ↔
        card.IsProper ∧
          (∃ count, characters.toList.drop position =
            card.write ++ List.replicate count '\n' ++ rest) ∧
          rest.head? ≠ some '\n') ∧
      (∀ result, (grammar.run parser ⟨.text characters, position⟩).1 = .ok result →
        ∃ card rest, result = ⟨toValue card, .text rest⟩) ∧
      ∀ cards : List ContactCard,
        (grammar.run (.zeroOrMore parser) ⟨.text characters, position⟩).1 =
            .ok ⟨.list (cards.map toValue), .text []⟩ ↔
          ∃ lines : List (ContactCard × Nat), lines.map Prod.fst = cards ∧
            (∀ line ∈ lines, line.1.IsProper) ∧
            characters.toList.drop position = writeAll lines := by
  have here := Cursor.hasLeft_text characters position
  have reads := reads_card grammar
  refine ⟨?_, ?_, ?_⟩
  · intro card rest
    rw [reads.run_eq_ok_iff here]
    constructor
    · rintro ⟨other, after, formed, same⟩
      rw [Grammar.Result.mk.injEq, Value.text.injEq] at same
      rcases same with ⟨sameCard, rfl⟩
      exact toValue_injective sameCard ▸ formed
    · intro formed
      exact ⟨card, rest, formed, rfl⟩
  · intro result ended
    rcases (reads.run_eq_ok_iff here).mp ended with ⟨card, rest, _, same⟩
    exact ⟨card, rest, same⟩
  · intro cards
    rw [(reads.zeroOrMore consumes_form).run_eq_ok_iff here]
    constructor
    · rintro ⟨others, rest, ⟨runs, _⟩, same⟩
      rw [Grammar.Result.mk.injEq, Value.list.injEq, Value.text.injEq] at same
      rcases same with ⟨sameCards, rfl⟩
      rw [toValue_injective.list_map sameCards]
      simpa using exists_lines runs
    · rintro ⟨lines, rfl, proper, written⟩
      rw [written]
      exact ⟨lines.map Prod.fst, [], ⟨runs_writeAll proper, not_form_nil⟩, rfl⟩

private def mcPerson : ContactCard :=
  ⟨⟨"John Jr.".toList, "McPerson".toList⟩, "555-123-9090".toList⟩

private def personson : ContactCard :=
  ⟨⟨"Alicia".toList, "St. Personson".toList⟩, "555-789-1111".toList⟩

/-- Without a line end between them the second card begins after the twelfth symbol of the number. -/
theorem parser_reads_exactly_abutting :
    (Grammar.empty.run (.zeroOrMore parser)
        ⟨.text (writeAll [(mcPerson, 0), (personson, 2)]).toArray, 0⟩).1 =
      .ok ⟨.list [mcPerson.toValue, personson.toValue], .text []⟩ := by
  have proper : ∀ line ∈ [(mcPerson, 0), (personson, 2)], line.1.IsProper := by decide
  exact ((parser_reads_exactly .empty _ 0).2.2 _).mpr ⟨_, rfl, proper, rfl⟩

end ContactCard

end CursorParsing
