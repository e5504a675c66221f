import CursorParsing.Nesting
import CursorParsing.Proofs.Recognisers

/-!
# What is left is a suffix

Reading only ever drops symbols from the front. From wherever a parser begins, even from past the end
of the source, what it leaves is a suffix of what it was given.
-/

namespace CursorParsing

/-! ## Where reading can lead -/

/-- Where reading from a cursor can lead: on in the same source, and not past its end unless reading
began there. -/
structure Cursor.ReachesTo (start stop : Cursor) : Prop where
  source_eq : stop.source = start.source
  position_le : start.position ≤ stop.position
  position_le_max : stop.position ≤ max start.position start.source.size

namespace Cursor

@[simp] theorem symbols_remaining (cursor : Cursor) :
    cursor.remaining.symbols = cursor.source.symbols.drop cursor.position := by
  rw [remaining, Source.symbols_slice, List.take_of_length_le]
  simp

theorem symbol?_eq_head? (cursor : Cursor) :
    cursor.source.symbol? cursor.position = cursor.remaining.symbols.head? := by
  rw [Source.symbol?_eq_getElem?, symbols_remaining, List.head?_drop]

namespace ReachesTo

variable {start middle stop : Cursor}

theorem refl (cursor : Cursor) : cursor.ReachesTo cursor :=
  ⟨rfl, Nat.le_refl _, Nat.le_max_left _ _⟩

theorem trans (first : start.ReachesTo middle) (second : middle.ReachesTo stop) :
    start.ReachesTo stop := by
  have withinMiddle := second.position_le_max
  rw [first.source_eq] at withinMiddle
  have withinStart := first.position_le_max
  refine ⟨second.source_eq.trans first.source_eq,
    Nat.le_trans first.position_le second.position_le, ?_⟩
  omega

theorem forward {count : Nat} {cursor : Cursor}
    (enough : cursor.position + count ≤ cursor.source.size) :
    cursor.ReachesTo (cursor.forward count) :=
  ⟨rfl, Nat.le_add_right _ _, Nat.le_trans enough (Nat.le_max_right _ _)⟩

/-- The distance is the number of symbols that were dropped, past the end too. -/
theorem distance_eq (reaches : start.ReachesTo stop) :
    stop.position - start.position = start.length - stop.length := by
  have forward := reaches.position_le
  have bounded := reaches.position_le_max
  simp only [length, reaches.source_eq]
  omega

theorem length_le (reaches : start.ReachesTo stop) : stop.length ≤ start.length := by
  have forward := reaches.position_le
  simp only [length, reaches.source_eq]
  omega

theorem length_lt (reaches : start.ReachesTo stop) (moved : stop.position ≠ start.position) :
    stop.length < start.length := by
  have forward := reaches.position_le
  have bounded := reaches.position_le_max
  simp only [length, reaches.source_eq]
  omega

theorem remaining_suffix (reaches : start.ReachesTo stop) :
    stop.remaining.symbols <:+ start.remaining.symbols := by
  rw [symbols_remaining, symbols_remaining, reaches.source_eq]
  exact List.drop_suffix_drop_left _ reaches.position_le

end ReachesTo

end Cursor

/-! ## One step -/

/-- Attempts whose matches lead on. -/
def Advances (attempt : Cursor → Run Reply) : Prop :=
  ∀ start reply, (attempt start).ending = .ok reply → start.ReachesTo reply.cursor

theorem advances_readSymbol (accepts : Value → Outcome Bool) : Advances (readSymbol accepts) := by
  intro start reply matched
  rcases readSymbol_eq_ok matched with ⟨symbol, found, _, rfl⟩
  exact .forward (Source.lt_size_of_symbol? found)

theorem advances_readLiteral (expected : Value) : Advances (readLiteral expected) := by
  intro start reply matched
  rcases readLiteral_eq_ok matched with ⟨literal, _, holds, rfl⟩
  exact .forward (Cursor.le_size_of_startsWith holds)

theorem advances_readEnd : Advances readEnd := by
  intro start reply matched
  rcases readEnd_eq_ok matched with ⟨_, rfl⟩
  exact .refl start

section Loops

variable {attempt : Cursor → Run Reply}

theorem collect_reachesTo (advances : Advances attempt) (bound : Nat) (cursor : Cursor)
    {collection : Collection} (ended : (collect attempt bound cursor).ending = .ok collection) :
    cursor.ReachesTo collection.cursor := by
  induction bound generalizing cursor collection with
  | zero =>
      cases ended
      exact .refl cursor
  | succ bound induction =>
      rw [collect_succ] at ended
      rcases Run.round_eq_ok ended with ⟨_, _, rfl⟩ | ⟨reply, later, matched, laterEnded, rfl⟩
      · exact .refl cursor
      · have first := advances cursor reply matched
        unfold Run.unlessStill at laterEnded
        split at laterEnded
        · cases laterEnded
          exact first
        · have rest : reply.cursor.ReachesTo later.cursor := induction reply.cursor laterEnded
          exact first.trans rest

theorem collectUpTo_reachesTo (advances : Advances attempt) (rounds : Nat) (cursor : Cursor)
    {collection : Collection} (ended : (collectUpTo attempt rounds cursor).ending = .ok collection) :
    cursor.ReachesTo collection.cursor := by
  induction rounds generalizing cursor collection with
  | zero =>
      cases ended
      exact .refl cursor
  | succ rounds induction =>
      rw [collectUpTo_succ] at ended
      rcases Run.round_eq_ok ended with ⟨_, _, rfl⟩ | ⟨reply, later, matched, laterEnded, rfl⟩
      · exact .refl cursor
      · have rest : reply.cursor.ReachesTo later.cursor := induction reply.cursor laterEnded
        exact (advances cursor reply matched).trans rest

/-- What is collected where something has to match begins with the first match. -/
theorem collectSome_eq_ok (advances : Advances attempt) (cursor : Cursor)
    {collection : Collection} (ended : (collectSome attempt cursor).ending = .ok collection) :
    ∃ reply, (attempt cursor).ending = .ok reply ∧ reply.cursor.ReachesTo collection.cursor := by
  rcases Run.andThen_eq_ok ended with ⟨reply, matched, rest⟩
  refine ⟨reply, matched, ?_⟩
  split at rest
  · cases rest
    exact .refl _
  · rcases Run.map_eq_ok rest with ⟨later, laterEnded, rfl⟩
    have onward : reply.cursor.ReachesTo later.cursor :=
      collect_reachesTo advances _ _ laterEnded
    exact onward

theorem collectSome_reachesTo (advances : Advances attempt) (cursor : Cursor)
    {collection : Collection} (ended : (collectSome attempt cursor).ending = .ok collection) :
    cursor.ReachesTo collection.cursor := by
  rcases collectSome_eq_ok advances cursor ended with ⟨reply, matched, rest⟩
  exact (advances cursor reply matched).trans rest

theorem collectUntilMismatch_reachesTo (advances : Advances attempt) (cursor : Cursor)
    {collection : Collection}
    (ended : (collectUntilMismatch attempt cursor).ending = .ok collection) :
    cursor.ReachesTo collection.cursor := by
  rcases Run.andThen_eq_ok ended with ⟨collected, collectedEnded, rest⟩
  split at rest <;> cases rest
  exact collectUpTo_reachesTo advances _ _ collectedEnded

theorem collectCounted_reachesTo (advances : Advances attempt) (rounds : Option Nat)
    (cursor : Cursor) {collection : Collection}
    (ended : (collectCounted attempt rounds cursor).ending = .ok collection) :
    cursor.ReachesTo collection.cursor := by
  cases rounds with
  | none => exact collectUntilMismatch_reachesTo advances cursor ended
  | some rounds => exact collectUpTo_reachesTo advances rounds cursor ended

theorem collectExactly_reachesTo (advances : Advances attempt) (count : Count) (cursor : Cursor)
    {collection : Collection}
    (ended : (collectExactly attempt count cursor).ending = .ok collection) :
    cursor.ReachesTo collection.cursor := by
  rw [collectExactly_eq] at ended
  rcases Run.andThen_eq_ok ended with ⟨collected, collectedEnded, checked⟩
  rcases Count.check_eq_ok checked with ⟨_, rfl⟩
  exact collectCounted_reachesTo advances count.rounds cursor collectedEnded

end Loops

/-- If following names leads on, so does every parser. -/
theorem Parser.advances_step {resolve : String → Cursor → Run Reply}
    (resolves : ∀ name, Advances (resolve name)) (parser : Parser) :
    Advances (parser.step resolve) := by
  induction parser with
  | pure value =>
      intro start reply ended
      cases ended
      exact .refl start
  | raise error =>
      intro start reply ended
      cases ended
  | symbolThat accepts => exact advances_readSymbol accepts
  | literal expected => exact advances_readLiteral expected
  | endOfInput => exact advances_readEnd
  | flatMap first next firstAdvances nextAdvances =>
      intro start reply ended
      rcases Run.andThen_eq_ok ended with ⟨middle, firstEnded, nextEnded⟩
      exact (firstAdvances start middle firstEnded).trans
        (nextAdvances middle.value middle.cursor reply nextEnded)
  | orElse first second firstAdvances secondAdvances =>
      intro start reply ended
      simp only [step] at ended
      rcases firstEnded : (first.step resolve start).ending with (cause | fault) | answer
      · rw [Run.orElse_of_mismatch _ firstEnded] at ended
        exact secondAdvances start reply ended
      · rw [Run.orElse_of_fault _ firstEnded, firstEnded] at ended
        cases ended
      · rw [Run.orElse_of_ok _ firstEnded] at ended
        exact firstAdvances start reply ended
  | zeroOrMore inner innerAdvances =>
      intro start reply ended
      rcases Run.map_eq_ok ended with ⟨collection, collected, rfl⟩
      exact collect_reachesTo innerAdvances _ start collected
  | oneOrMore inner innerAdvances =>
      intro start reply ended
      rcases Run.map_eq_ok ended with ⟨collection, collected, rfl⟩
      exact collectSome_reachesTo innerAdvances start collected
  | repeated inner count innerAdvances =>
      intro start reply ended
      simp only [step, Run.ending_after] at ended
      rcases Run.map_eq_ok ended with ⟨collection, collected, rfl⟩
      exact collectExactly_reachesTo innerAdvances count start collected
  | named name inner innerAdvances => exact innerAdvances
  | traced tag inner innerAdvances =>
      intro start reply ended
      exact innerAdvances start reply (traceAttempt_eq_ok ended)
  | reference name => exact resolves name

/-! ## Whole runs -/

namespace Grammar

theorem advances_resolve (grammar : Grammar) (depth : Nat) (name : String) :
    Advances (grammar.resolve depth name) := by
  induction depth generalizing name with
  | zero =>
      intro start reply ended
      cases ended
  | succ depth induction =>
      intro start reply ended
      unfold resolve at ended
      split at ended
      · cases ended
      · exact Parser.advances_step induction _ start reply ended

theorem advances_step (grammar : Grammar) (depth : Nat) (parser : Parser) :
    Advances (parser.step (grammar.resolve depth)) :=
  parser.advances_step (grammar.advances_resolve depth)

theorem advances_parse (grammar : Grammar) (parser : Parser) : Advances (grammar.parse parser) :=
  fun start => grammar.advances_step (grammar.depthFrom start) parser start

/-- A parser that matches leaves a suffix of what it was given, and moves on by as many places as
there are symbols fewer. -/
theorem parse_leaves_suffix (grammar : Grammar) (parser : Parser) (cursor : Cursor) {reply : Reply}
    (matched : (grammar.parse parser cursor).ending = .ok reply) :
    reply.cursor.source = cursor.source ∧
      cursor.position ≤ reply.cursor.position ∧
      reply.cursor.position ≤ max cursor.position cursor.source.size ∧
      reply.cursor.remaining.symbols <:+ cursor.remaining.symbols ∧
      (reply.cursor.position : Int) - cursor.position =
        cursor.length - reply.cursor.length := by
  have reaches := grammar.advances_parse parser cursor reply matched
  refine ⟨reaches.source_eq, reaches.position_le, reaches.position_le_max,
    reaches.remaining_suffix, ?_⟩
  have distance := reaches.distance_eq
  have forward := reaches.position_le
  have shorter := reaches.length_le
  omega

/-- A bracketed `x` in the middle of a text. -/
theorem parse_leaves_suffix_nested :
    (⟨.text #['-', '(', 'x', ')', '!'], 4⟩ : Cursor).remaining.symbols <:+
      (⟨.text #['-', '(', 'x', ')', '!'], 1⟩ : Cursor).remaining.symbols := by
  have matched : (Nesting.brackets.parse (.reference "nested")
      ⟨.text #['-', '(', 'x', ')', '!'], 1⟩).ending =
        .ok ⟨.text ['x'], ⟨.text #['-', '(', 'x', ')', '!'], 4⟩⟩ := rfl
  exact (Nesting.brackets.parse_leaves_suffix _ _ matched).2.2.2.1

end Grammar

end CursorParsing
