import CursorParsing.Proofs.Invocations
import Mathlib.Data.Finset.Card
import Mathlib.Logic.Relation

/-!
# Guarded grammars

A reference is guarded if something has to be read before it is followed. A grammar whose unguarded
references lead nowhere in a circle gives each of its names a rank.
-/

namespace CursorParsing

/-! ## Counts that are met -/

theorem Count.rounds_of_isMetBy {count : Count} {matched : Nat}
    (met : count.isMetBy matched = true) : count.rounds = some matched := by
  simp only [isMetBy, Bool.and_eq_true, beq_iff_eq] at met
  exact met.2

section Loops

variable {attempt : Cursor → Run Reply}

theorem collectUpTo_eq_ok (advances : Advances attempt) {rounds : Nat} (cursor : Cursor)
    {collection : Collection} (ended : (collectUpTo attempt rounds cursor).ending = .ok collection)
    (notEmpty : collection.values ≠ []) :
    ∃ reply, (attempt cursor).ending = .ok reply ∧ reply.cursor.ReachesTo collection.cursor := by
  cases rounds with
  | zero =>
      cases ended
      exact absurd rfl notEmpty
  | succ rounds =>
      rw [collectUpTo_succ] at ended
      rcases Run.round_eq_ok ended with ⟨_, _, rfl⟩ | ⟨reply, later, matched, laterEnded, rfl⟩
      · exact absurd rfl notEmpty
      · have onward : reply.cursor.ReachesTo later.cursor :=
          collectUpTo_reachesTo advances rounds reply.cursor laterEnded
        exact ⟨reply, matched, onward⟩

/-- A count above zero is only met by what begins with a match. -/
theorem collectExactly_eq_ok (advances : Advances attempt) {count : Count}
    (notZero : count.rounds ≠ some 0) (cursor : Cursor) {collection : Collection}
    (ended : (collectExactly attempt count cursor).ending = .ok collection) :
    ∃ reply, (attempt cursor).ending = .ok reply ∧ reply.cursor.ReachesTo collection.cursor := by
  rw [collectExactly_eq] at ended
  rcases Run.andThen_eq_ok ended with ⟨collected, collectedEnded, checked⟩
  rcases Count.check_eq_ok checked with ⟨met, rfl⟩
  have rounds := Count.rounds_of_isMetBy met
  rw [rounds] at collectedEnded
  apply collectUpTo_eq_ok advances cursor collectedEnded
  intro empty
  rw [empty] at rounds
  exact notZero rounds

end Loops

namespace Grammar

/-! ## Parsers that have to read something -/

/-- A parser gives a value at some place, with references followed to some depth. -/
def Gives (grammar : Grammar) (parser : Parser) (value : Value) : Prop :=
  ∃ cursor depth reply,
    (grammar.invoke ⟨parser, cursor, depth⟩).ending = .ok reply ∧ reply.value = value

/-- A parser that cannot match without reading a symbol, as far as that can be told without following
a reference. -/
def MustConsume (grammar : Grammar) : Parser → Prop
  | .raise _ | .symbolThat _ => True
  | .literal expected => ∀ literal, Source.ofValue? expected = some literal → 0 < literal.size
  | .flatMap first next =>
    grammar.MustConsume first ∨ ∀ value, grammar.Gives first value → grammar.MustConsume (next value)
  | .orElse first second => grammar.MustConsume first ∧ grammar.MustConsume second
  | .repeated inner count => count.rounds ≠ some 0 ∧ grammar.MustConsume inner
  | .oneOrMore inner | .named _ inner | .traced _ inner => grammar.MustConsume inner
  | .pure _ | .endOfInput | .zeroOrMore _ | .reference _ => False

theorem MustConsume.position_lt {grammar : Grammar} {parser : Parser}
    (consumes : grammar.MustConsume parser) {depth : Nat} {cursor : Cursor} {reply : Reply}
    (matched : (grammar.invoke ⟨parser, cursor, depth⟩).ending = .ok reply) :
    cursor.position < reply.cursor.position := by
  have advances := grammar.advances_step depth
  induction parser generalizing cursor reply with
  | pure | endOfInput | zeroOrMore | reference => exact consumes.elim
  | raise error => cases matched
  | symbolThat accepts =>
      rcases readSymbol_eq_ok matched with ⟨symbol, _, _, rfl⟩
      exact Nat.lt_succ_self _
  | literal expected =>
      rcases readLiteral_eq_ok matched with ⟨literal, isSequence, _, rfl⟩
      exact Nat.lt_add_of_pos_right (consumes literal isSequence)
  | flatMap first next firstMoves nextMoves =>
      rcases Run.andThen_eq_ok matched with ⟨middle, firstEnded, nextEnded⟩
      have toMiddle := (advances first cursor middle firstEnded).position_le
      have fromMiddle := (advances _ middle.cursor reply nextEnded).position_le
      rcases consumes with firstConsumes | nextConsumes
      · exact Nat.lt_of_lt_of_le (firstMoves firstConsumes firstEnded) fromMiddle
      · have given : grammar.Gives first middle.value := ⟨cursor, depth, middle, firstEnded, rfl⟩
        exact Nat.lt_of_le_of_lt toMiddle (nextMoves _ (nextConsumes _ given) nextEnded)
  | orElse first second firstMoves secondMoves =>
      simp only [invoke, Parser.step] at matched
      rcases firstEnded : (first.step (grammar.resolve depth) cursor).ending with
        (cause | fault) | answer
      · rw [Run.orElse_of_mismatch _ firstEnded] at matched
        exact secondMoves consumes.2 matched
      · rw [Run.orElse_of_fault _ firstEnded, firstEnded] at matched
        cases matched
      · rw [Run.orElse_of_ok _ firstEnded] at matched
        exact firstMoves consumes.1 matched
  | oneOrMore inner innerMoves =>
      rcases Run.map_eq_ok matched with ⟨collection, collected, rfl⟩
      rcases collectSome_eq_ok (advances inner) cursor collected with ⟨first, firstEnded, rest⟩
      exact Nat.lt_of_lt_of_le (innerMoves consumes firstEnded) rest.position_le
  | repeated inner count innerMoves =>
      simp only [invoke, Parser.step, Run.ending_after] at matched
      rcases Run.map_eq_ok matched with ⟨collection, collected, rfl⟩
      rcases collectExactly_eq_ok (advances inner) consumes.1 cursor collected with
        ⟨first, firstEnded, rest⟩
      exact Nat.lt_of_lt_of_le (innerMoves consumes.2 firstEnded) rest.position_le
  | named name inner innerMoves => exact innerMoves consumes matched
  | traced tag inner innerMoves => exact innerMoves consumes (traceAttempt_eq_ok matched)

/-! ## References -/

/-- A parser refers to a name, where what follows a first parser only counts if the first one lets it
pass. -/
def RefersTo (grammar : Grammar) (Passes : Parser → Prop) (name : String) : Parser → Prop
  | .reference other => other = name
  | .flatMap first next =>
    grammar.RefersTo Passes name first ∨
      Passes first ∧ ∃ value, grammar.Gives first value ∧ grammar.RefersTo Passes name (next value)
  | .orElse first second =>
    grammar.RefersTo Passes name first ∨ grammar.RefersTo Passes name second
  | .zeroOrMore inner | .oneOrMore inner | .repeated inner _ | .named _ inner | .traced _ inner =>
    grammar.RefersTo Passes name inner
  | .pure _ | .raise _ | .symbolThat _ | .literal _ | .endOfInput => False

/-- A reference at any place within a parser. -/
def Mentions (grammar : Grammar) : String → Parser → Prop := grammar.RefersTo fun _ => True

/-- A reference that can be followed before anything has to be read. -/
def Exposes (grammar : Grammar) : String → Parser → Prop :=
  grammar.RefersTo fun first => ¬grammar.MustConsume first

theorem Exposes.mentions {grammar : Grammar} {name : String} {parser : Parser}
    (exposes : grammar.Exposes name parser) : grammar.Mentions name parser := by
  induction parser with
  | pure | raise | symbolThat | literal | endOfInput | reference => exact exposes
  | flatMap first next firstMentions nextMentions =>
      rcases exposes with inFirst | ⟨_, value, given, inNext⟩
      · exact .inl (firstMentions inFirst)
      · exact .inr ⟨trivial, value, given, nextMentions value inNext⟩
  | orElse first second firstMentions secondMentions =>
      rcases exposes with inFirst | inSecond
      · exact .inl (firstMentions inFirst)
      · exact .inr (secondMentions inSecond)
  | zeroOrMore inner innerMentions => exact innerMentions exposes
  | oneOrMore inner innerMentions => exact innerMentions exposes
  | repeated inner count innerMentions => exact innerMentions exposes
  | named name inner innerMentions => exact innerMentions exposes
  | traced tag inner innerMentions => exact innerMentions exposes

/-- No repetition asks for endlessly many matches. -/
def Counted (grammar : Grammar) : Parser → Prop
  | .flatMap first next =>
    grammar.Counted first ∧ ∀ value, grammar.Gives first value → grammar.Counted (next value)
  | .orElse first second => grammar.Counted first ∧ grammar.Counted second
  | .repeated inner count => count.rounds ≠ none ∧ grammar.Counted inner
  | .zeroOrMore inner | .oneOrMore inner | .named _ inner | .traced _ inner => grammar.Counted inner
  | .pure _ | .raise _ | .symbolThat _ | .literal _ | .endOfInput | .reference _ => True

/-- The definition of a name has an unguarded reference to another. -/
def Needs (grammar : Grammar) (name other : String) : Prop :=
  ∃ parser, grammar.find? name = some parser ∧ grammar.Exposes other parser

structure Guarded (grammar : Grammar) : Prop where
  acyclic : ∀ name, ¬Relation.TransGen grammar.Needs name name
  counted : ∀ name parser, grammar.find? name = some parser → grammar.Counted parser

/-! ## What combinators keep -/

section Combinators

variable {grammar : Grammar} {inner : Parser} {transform : Value → Outcome Value}

theorem mustConsume_word (grammar : Grammar) {characters : List Char} (notEmpty : characters ≠ []) :
    grammar.MustConsume (.word characters) := by
  intro literal isSequence
  cases isSequence
  exact List.length_pos_of_ne_nil notEmpty

theorem not_refersTo_ofOutcome {Passes : Parser → Prop} {name : String} (outcome : Outcome Value) :
    ¬grammar.RefersTo Passes name (.ofOutcome outcome) := by
  cases outcome <;> exact id

theorem refersTo_map {Passes : Parser → Prop} {name : String} :
    grammar.RefersTo Passes name (inner.map transform) ↔ grammar.RefersTo Passes name inner := by
  constructor
  · rintro (inInner | ⟨_, value, _, inOutcome⟩)
    · exact inInner
    · exact absurd inOutcome (not_refersTo_ofOutcome _)
  · exact .inl

theorem counted_ofOutcome (grammar : Grammar) (outcome : Outcome Value) :
    grammar.Counted (.ofOutcome outcome) := by
  cases outcome <;> trivial

theorem counted_map : grammar.Counted (inner.map transform) ↔ grammar.Counted inner := by
  constructor
  · exact And.left
  · intro counted
    exact ⟨counted, fun _ _ => grammar.counted_ofOutcome _⟩

end Combinators

/-! ## Ranks -/

open Classical in
/-- How many definitions can be met from a name on without reading anything. -/
noncomputable def rank (grammar : Grammar) (name : String) : Nat :=
  ((grammar.definitions.map Prod.fst).toFinset.filter
    (Relation.ReflTransGen grammar.Needs name)).card

section Ranks

variable {grammar : Grammar} {name other : String} {parser : Parser}

theorem rank_le (grammar : Grammar) (name : String) :
    grammar.rank name ≤ grammar.definitions.length := by
  classical
  calc grammar.rank name
      ≤ (grammar.definitions.map Prod.fst).toFinset.card := Finset.card_filter_le _ _
    _ ≤ (grammar.definitions.map Prod.fst).length := List.toFinset_card_le _
    _ = grammar.definitions.length := List.length_map _

theorem mem_names_of_find? (found : grammar.find? name = some parser) :
    name ∈ (grammar.definitions.map Prod.fst).toFinset := by
  rcases List.lookup_eq_some_iff.mp found with ⟨before, after, definitions, _⟩
  rw [definitions]
  simp

theorem rank_pos (found : grammar.find? name = some parser) : 0 < grammar.rank name := by
  classical
  apply Finset.card_pos.mpr
  exact ⟨name, Finset.mem_filter.mpr ⟨mem_names_of_find? found, .refl⟩⟩

theorem Guarded.rank_lt (guarded : grammar.Guarded) (needs : grammar.Needs name other) :
    grammar.rank other < grammar.rank name := by
  classical
  apply Finset.card_lt_card
  rw [Finset.ssubset_iff_of_subset]
  · rcases needs with ⟨parser, found, exposes⟩
    refine ⟨name, Finset.mem_filter.mpr ⟨mem_names_of_find? found, .refl⟩, ?_⟩
    intro member
    have back := (Finset.mem_filter.mp member).2
    exact guarded.acyclic name (.head' ⟨parser, found, exposes⟩ back)
  · intro reached member
    rw [Finset.mem_filter] at member ⊢
    exact ⟨member.1, .head needs member.2⟩

end Ranks

end Grammar

/-! ## Lists -/

namespace Nesting

/-- Brackets guard the elements of a list, and nothing guards the item that an element begins with. -/
theorem lists_needs {name other : String} (needs : lists.Needs name other) :
    name = "element" ∧ other = "item" := by
  rcases needs with ⟨parser, found, exposes⟩
  simp only [Grammar.find?, lists, List.lookup_cons, List.lookup_nil] at found
  split at found
  · cases found
    rcases exposes with inNumber | (inOpening | ⟨unread, _⟩) | ⟨unread, _⟩
    · exact (Grammar.refersTo_map.mp inNumber).elim
    · exact inOpening.elim
    · exact absurd (lists.mustConsume_word (List.cons_ne_nil _ _)) unread
    · exact absurd (.inl (lists.mustConsume_word (List.cons_ne_nil _ _))) unread
  · split at found <;> cases found
    rename_i isElement
    rcases exposes with inItem | ⟨_, _, _, inComma⟩
    · exact ⟨beq_iff_eq.mp isElement, inItem.symm⟩
    · rcases Grammar.refersTo_map.mp inComma with inTrue | inFalse
      · exact (Grammar.refersTo_map.mp inTrue).elim
      · exact inFalse.elim

theorem lists_guarded : lists.Guarded where
  acyclic name cycle := by
    rcases Relation.TransGen.head'_iff.mp cycle with ⟨_, first, _⟩
    rcases Relation.TransGen.tail'_iff.mp cycle with ⟨_, _, last⟩
    have different : "element" ≠ "item" := by decide
    exact different ((lists_needs first).1.symm.trans (lists_needs last).2)
  counted name parser found := by
    simp only [Grammar.find?, lists, List.lookup_cons, List.lookup_nil] at found
    split at found
    · cases found
      have inNumber : lists.Counted number := Grammar.counted_map.mpr trivial
      have inClosing (value : Value) :
          lists.Counted ((Parser.word [']']).map fun _ => .ok value) := Grammar.counted_map.mpr trivial
      exact ⟨inNumber, ⟨trivial, fun _ _ => trivial⟩, fun value _ => inClosing value⟩
    · split at found <;> cases found
      have inComma : lists.Counted (Parser.word [',']).asBool :=
        ⟨Grammar.counted_map.mpr trivial, trivial⟩
      exact ⟨trivial, fun _ _ => Grammar.counted_map.mpr inComma⟩

end Nesting

end CursorParsing
