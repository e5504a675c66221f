import CursorParsing.Parser.Combinators
import CursorParsing.Proofs.Guardedness
import CursorParsing.Proofs.Omission

/-!
# Parsers in a row

What a sequencing combinator does is to run other parsers in a row and to make a value of theirs. What
these run in a row, it runs as well.
-/

namespace CursorParsing

/-! ## Reading in a row -/

/-- The answer of an operation that raises nothing. -/
def answerOf (outcome : Outcome Value) : Value := outcome.toOption.getD default

/-- Combine values from the left, beginning with the first of them. -/
def combineAll (combine : Value → Value → Outcome Value) : List Value → Value
  | [] => default
  | first :: rest => rest.foldl (fun left right => answerOf (combine left right)) first

namespace Collection

/-- Make one value of all. -/
def collapse (value : List Value → Value) (collection : Collection) : Reply :=
  ⟨value collection.values, collection.cursor⟩

def regroup (values : List Value → List Value) (collection : Collection) : Collection :=
  ⟨values collection.values, collection.cursor⟩

/-- The values of two collections, of which the second begins where the first ends. -/
def followedBy (first second : Collection) : Collection :=
  ⟨first.values ++ second.values, second.cursor⟩

end Collection

theorem logLines_without_entries {α : Type} (run : Run α) :
    logLines (run.without Event.isEntry).history = logLines run.history := by
  rw [logLines, logLines, Run.without, List.filterMap_filter]
  congr 1
  funext event
  cases event <;> rfl

namespace Grammar

/-- What a parser does, not counting which parsers are entered for it. -/
def effect (grammar : Grammar) (depth : Nat) (parser : Parser) (cursor : Cursor) : Run Reply :=
  (grammar.invoke ⟨parser, cursor, depth⟩).without Event.isEntry

/-- Run parsers one after the other and collect their values. -/
def readAll (grammar : Grammar) (depth : Nat) : List Parser → Cursor → Run Collection
  | [], cursor => .done ⟨[], cursor⟩
  | parser :: rest, cursor =>
    (grammar.effect depth parser cursor).andThen fun reply =>
      (grammar.readAll depth rest reply.cursor).map (.cons reply.value)

section Rows

variable {grammar : Grammar} {depth : Nat}

theorem effect_pure (value : Value) (cursor : Cursor) :
    grammar.effect depth (.pure value) cursor = .done ⟨value, cursor⟩ := rfl

theorem effect_flatMap (first : Parser) (next : Value → Parser) (cursor : Cursor) :
    grammar.effect depth (.flatMap first next) cursor =
      (grammar.effect depth first cursor).andThen fun reply =>
        grammar.effect depth (next reply.value) reply.cursor := by
  rw [effect, invoke_flatMap, Run.without_andThen]
  rfl

theorem gives_of_effect {parser : Parser} {cursor : Cursor} {reply : Reply}
    (matched : (grammar.effect depth parser cursor).ending = .ok reply) :
    grammar.Gives parser reply.value :=
  ⟨cursor, depth, reply, matched, rfl⟩

theorem readAll_append (first second : List Parser) (cursor : Cursor) :
    grammar.readAll depth (first ++ second) cursor =
      (grammar.readAll depth first cursor).andThen fun collection =>
        (grammar.readAll depth second collection.cursor).map collection.followedBy := by
  induction first generalizing cursor with
  | nil =>
      rw [readAll, Run.done_andThen]
      exact (Run.map_id _).symm
  | cons parser rest induction =>
      simp only [List.cons_append, readAll, induction, Run.andThen_assoc, Run.map_andThen,
        Run.andThen_map, Run.map_map]
      rfl

theorem length_readAll {parsers : List Parser} {cursor : Cursor} {collection : Collection}
    (ended : (grammar.readAll depth parsers cursor).ending = .ok collection) :
    collection.values.length = parsers.length := by
  induction parsers generalizing cursor collection with
  | nil =>
      cases ended
      rfl
  | cons parser rest induction =>
      rcases Run.andThen_eq_ok ended with ⟨reply, _, restEnded⟩
      rcases Run.map_eq_ok restEnded with ⟨later, laterEnded, rfl⟩
      exact congrArg Nat.succ (induction laterEnded)

end Rows

/-! ## What parsers give -/

/-- A parser gives no value for which a function raises an error. -/
def Suits (grammar : Grammar) (transform : Value → Outcome Value) (parser : Parser) : Prop :=
  ∀ value, grammar.Gives parser value → ∃ answer, transform value = .ok answer

def SuitsBoth (grammar : Grammar) (combine : Value → Value → Outcome Value)
    (first second : Parser) : Prop :=
  ∀ left, grammar.Gives first left → grammar.Suits (combine left) second

/-- No step of a concatenation raises an error, where the first parser gives what was collected
before. -/
def SuitsAll (grammar : Grammar) (combine : Value → Value → Outcome Value) :
    Parser → List Parser → Prop
  | _, [] => True
  | collected, parser :: rest =>
    grammar.SuitsBoth combine collected parser ∧
      grammar.SuitsAll combine (collected.lift2 combine parser) rest

section Gives

variable {grammar : Grammar} {parser first second : Parser} {value : Value}

theorem effect_map {inner : Parser} {transform : Value → Outcome Value}
    (suits : grammar.Suits transform inner) (depth : Nat) (cursor : Cursor) :
    grammar.effect depth (inner.map transform) cursor =
      (grammar.effect depth inner cursor).map fun reply =>
        ⟨answerOf (transform reply.value), reply.cursor⟩ := by
  rw [Parser.map, effect_flatMap, ← Run.andThen_done]
  apply Run.andThen_congr
  intro reply matched
  rcases suits reply.value (gives_of_effect matched) with ⟨answer, transformed⟩
  simp only [transformed, Parser.ofOutcome, effect_pure]
  rfl

theorem Gives.of_ofOutcome {outcome : Outcome Value}
    (gives : grammar.Gives (.ofOutcome outcome) value) : outcome = .ok value := by
  rcases gives with ⟨cursor, depth, reply, matched, rfl⟩
  rcases outcome with error | answer <;> cases matched
  rfl

theorem Gives.of_flatMap {next : Value → Parser}
    (gives : grammar.Gives (.flatMap first next) value) :
    ∃ given, grammar.Gives first given ∧ grammar.Gives (next given) value := by
  rcases gives with ⟨cursor, depth, reply, matched, rfl⟩
  rcases Run.andThen_eq_ok matched with ⟨middle, firstMatched, nextMatched⟩
  exact ⟨middle.value, ⟨cursor, depth, middle, firstMatched, rfl⟩,
    ⟨middle.cursor, depth, reply, nextMatched, rfl⟩⟩

theorem Gives.of_map {transform : Value → Outcome Value}
    (gives : grammar.Gives (parser.map transform) value) :
    ∃ given, grammar.Gives parser given ∧ transform given = .ok value := by
  rcases gives.of_flatMap with ⟨given, here, made⟩
  exact ⟨given, here, made.of_ofOutcome⟩

theorem Gives.of_keepLeft (gives : grammar.Gives (first.keepLeft second) value) :
    grammar.Gives first value := by
  rcases gives.of_flatMap with ⟨given, here, kept⟩
  rcases kept.of_map with ⟨_, _, same⟩
  cases same
  exact here

theorem Gives.of_keepRight (gives : grammar.Gives (first.keepRight second) value) :
    grammar.Gives second value := by
  rcases gives.of_flatMap with ⟨_, _, kept⟩
  exact kept

theorem Gives.of_literal {expected : Value} (gives : grammar.Gives (.literal expected) value) :
    value = expected := by
  rcases gives with ⟨cursor, depth, reply, matched, rfl⟩
  rcases readLiteral_eq_ok matched with ⟨_, _, _, rfl⟩
  rfl

/-- A concatenation raises nothing if its operation keeps a property that lets it combine what was
collected with any value of a further parser. -/
theorem suitsAll_of_keeps {combine : Value → Value → Outcome Value} {parsers : List Parser}
    (Holds : Value → Prop) (collected : Parser)
    (holds : ∀ value, grammar.Gives collected value → Holds value)
    (keeps : ∀ parser ∈ parsers, ∀ left right, Holds left → grammar.Gives parser right →
      ∃ answer, combine left right = .ok answer ∧ Holds answer) :
    grammar.SuitsAll combine collected parsers := by
  induction parsers generalizing collected with
  | nil => trivial
  | cons parser rest induction =>
      have keepsHere := keeps parser List.mem_cons_self
      constructor
      · intro left leftGiven right rightGiven
        rcases keepsHere left right (holds left leftGiven) rightGiven with ⟨answer, combined, _⟩
        exact ⟨answer, combined⟩
      · apply induction
        · intro value given
          rcases given.of_flatMap with ⟨left, leftGiven, rightMade⟩
          rcases rightMade.of_map with ⟨right, rightGiven, combined⟩
          rcases keepsHere left right (holds left leftGiven) rightGiven with ⟨answer, same, kept⟩
          rw [combined] at same
          cases same
          exact kept
        · intro other member
          exact keeps other (List.mem_cons_of_mem _ member)

end Gives

/-! ## Parsers that read leaves in a row -/

/-- A parser runs its leaves in a row and makes its value of theirs. -/
def Reads (grammar : Grammar) (parser : Parser) (leaves : List Parser) (value : List Value → Value) :
    Prop :=
  ∀ depth cursor,
    grammar.effect depth parser cursor =
      (grammar.readAll depth leaves cursor).map (Collection.collapse value)

/-- Several parsers in a row run the leaves of them all in a row. -/
def ReadsAll (grammar : Grammar) (parsers leaves : List Parser) (values : List Value → List Value) :
    Prop :=
  ∀ depth cursor,
    grammar.readAll depth parsers cursor =
      (grammar.readAll depth leaves cursor).map (Collection.regroup values)

section Reads

variable {grammar : Grammar} {parser first second third : Parser}
  {leaves firstLeaves secondLeaves thirdLeaves : List Parser}
  {value other firstValue secondValue thirdValue : List Value → Value}

/-- Only lists of as many values as there are leaves matter. -/
theorem Reads.congr (reads : grammar.Reads parser leaves value)
    (same : ∀ values, values.length = leaves.length → value values = other values) :
    grammar.Reads parser leaves other := by
  intro depth cursor
  rw [reads depth cursor]
  apply Run.map_congr
  intro collection ended
  rw [Collection.collapse, same collection.values (length_readAll ended), Collection.collapse]

theorem Reads.leaf (grammar : Grammar) (parser : Parser) :
    grammar.Reads parser [parser] fun values => values.headD default := by
  intro depth cursor
  simp only [readAll, Run.andThen_map, Run.map_map]
  exact ((Run.andThen_done id _).trans (Run.map_id _)).symm

theorem Reads.pure (grammar : Grammar) (value : Value) :
    grammar.Reads (.pure value) [] fun _ => value := by
  intro depth cursor
  rfl

theorem Reads.map {transform : Value → Outcome Value} (reads : grammar.Reads parser leaves value)
    (suits : grammar.Suits transform parser) :
    grammar.Reads (parser.map transform) leaves fun values => answerOf (transform (value values)) := by
  intro depth cursor
  rw [effect_map suits, reads depth cursor, Run.map_map]
  rfl

/-- The values of the first leaves come first. -/
theorem Reads.flatMap {next : Value → Parser} {nextValue : Value → List Value → Value}
    (reads : grammar.Reads first firstLeaves firstValue)
    (nextReads : ∀ given, grammar.Gives first given →
      grammar.Reads (next given) secondLeaves (nextValue given)) :
    grammar.Reads (.flatMap first next) (firstLeaves ++ secondLeaves) fun values =>
      nextValue (firstValue (values.take firstLeaves.length)) (values.drop firstLeaves.length) := by
  intro depth cursor
  have goesOn : ∀ reply, (grammar.effect depth first cursor).ending = .ok reply →
      grammar.effect depth (next reply.value) reply.cursor =
        (grammar.readAll depth secondLeaves reply.cursor).map
          (Collection.collapse (nextValue reply.value)) :=
    fun reply matched => nextReads reply.value (gives_of_effect matched) depth reply.cursor
  rw [effect_flatMap, Run.andThen_congr goesOn, reads depth cursor, Run.map_andThen, readAll_append,
    Run.andThen_map]
  apply Run.andThen_congr
  intro collection ended
  rw [Run.map_map]
  -- There are as many values as leaves, so all values are cut where those of the first leaves end.
  simp only [Collection.collapse, Collection.followedBy, ← length_readAll ended, List.take_left,
    List.drop_left]
  rfl

theorem Reads.keepRight (reads : grammar.Reads first firstLeaves firstValue)
    (nextReads : grammar.Reads second secondLeaves secondValue) :
    grammar.Reads (first.keepRight second) (firstLeaves ++ secondLeaves) fun values =>
      secondValue (values.drop firstLeaves.length) :=
  reads.flatMap fun _ _ => nextReads

theorem Reads.keepLeft (reads : grammar.Reads first firstLeaves firstValue)
    (nextReads : grammar.Reads second secondLeaves secondValue) :
    grammar.Reads (first.keepLeft second) (firstLeaves ++ secondLeaves) fun values =>
      firstValue (values.take firstLeaves.length) :=
  reads.flatMap fun given _ => nextReads.map fun _ _ => ⟨given, rfl⟩

theorem Reads.lift2 {combine : Value → Value → Outcome Value}
    (reads : grammar.Reads first firstLeaves firstValue)
    (nextReads : grammar.Reads second secondLeaves secondValue)
    (suits : grammar.SuitsBoth combine first second) :
    grammar.Reads (.lift2 combine first second) (firstLeaves ++ secondLeaves) fun values =>
      answerOf (combine (firstValue (values.take firstLeaves.length))
        (secondValue (values.drop firstLeaves.length))) :=
  reads.flatMap fun left given => nextReads.map (suits left given)

theorem Reads.lift3 {combine : Value → Value → Value → Outcome Value}
    (reads : grammar.Reads first firstLeaves firstValue)
    (nextReads : grammar.Reads second secondLeaves secondValue)
    (lastReads : grammar.Reads third thirdLeaves thirdValue)
    (suits : ∀ left, grammar.Gives first left → grammar.SuitsBoth (combine left) second third) :
    grammar.Reads (.lift3 combine first second third)
      (firstLeaves ++ (secondLeaves ++ thirdLeaves)) fun values =>
        let later := values.drop firstLeaves.length
        answerOf (combine (firstValue (values.take firstLeaves.length))
          (secondValue (later.take secondLeaves.length))
          (thirdValue (later.drop secondLeaves.length))) :=
  reads.flatMap fun left given => nextReads.lift2 lastReads (suits left given)

end Reads

/-! ## Parsers that read many leaves -/

section Many

variable {grammar : Grammar} {parser : Parser} {parsers leaves moreLeaves : List Parser}
  {value : List Value → Value} {values : List Value → List Value}

theorem ReadsAll.itself (grammar : Grammar) (parsers : List Parser) :
    grammar.ReadsAll parsers parsers id := by
  intro depth cursor
  exact (Run.map_id _).symm

theorem ReadsAll.cons (reads : grammar.Reads parser leaves value)
    (readsRest : grammar.ReadsAll parsers moreLeaves values) :
    grammar.ReadsAll (parser :: parsers) (leaves ++ moreLeaves) fun given =>
      value (given.take leaves.length) :: values (given.drop leaves.length) := by
  intro depth cursor
  rw [readAll, reads depth cursor, Run.map_andThen, readAll_append, Run.andThen_map]
  apply Run.andThen_congr
  intro collection ended
  simp only [readsRest depth, Run.map_map, Collection.collapse, Collection.followedBy,
    Collection.regroup, Collection.cons, ← length_readAll ended, List.take_left, List.drop_left]

/-- The leaves of leaves are leaves. -/
theorem Reads.trans (reads : grammar.Reads parser parsers value)
    (readsAll : grammar.ReadsAll parsers leaves values) :
    grammar.Reads parser leaves fun given => value (values given) := by
  intro depth cursor
  rw [reads depth cursor, readsAll depth cursor, Run.map_map]
  rfl

theorem reads_sequenceAfter (grammar : Grammar) (collected : List Value) (parsers : List Parser) :
    grammar.Reads (.sequenceAfter collected parsers) parsers fun values =>
      .tuple (collected.reverse ++ values) := by
  induction parsers generalizing collected with
  | nil =>
      apply (Reads.pure grammar (.tuple collected.reverse)).congr
      intro values empty
      rw [List.length_eq_zero_iff.mp empty, List.append_nil]
  | cons parser rest induction =>
      have reads := (Reads.leaf grammar parser).flatMap fun given _ => induction (given :: collected)
      apply reads.congr
      rintro (_ | ⟨first, values⟩) sameLength
      · cases sameLength
      · simp

theorem reads_sequence (grammar : Grammar) (parsers : List Parser) :
    grammar.Reads (.sequence parsers) parsers Value.tuple :=
  grammar.reads_sequenceAfter [] parsers

/-- What was collected before counts as the first leaf. -/
theorem reads_foldl {combine : Value → Value → Outcome Value} (collected : Parser)
    (suits : grammar.SuitsAll combine collected parsers) :
    grammar.Reads (parsers.foldl (.lift2 combine) collected) (collected :: parsers)
      (combineAll combine) := by
  induction parsers generalizing collected with
  | nil =>
      apply (Reads.leaf grammar collected).congr
      rintro (_ | ⟨first, _ | ⟨second, values⟩⟩) sameLength <;> cases sameLength
      rfl
  | cons parser rest induction =>
      rcases suits with ⟨here, later⟩
      -- The rest is concatenated to the first two, which count as one leaf until they are taken apart.
      have pair := (Reads.leaf grammar collected).lift2 (.leaf grammar parser) here
      apply ((induction _ later).trans (.cons pair (.itself grammar rest))).congr
      rintro (_ | ⟨first, _ | ⟨second, values⟩⟩) sameLength
      · cases sameLength
      · cases sameLength
      · rfl

theorem reads_concat {combine : Value → Value → Outcome Value} {identity : Value}
    (suits : grammar.SuitsAll combine (.pure identity) parsers) :
    grammar.Reads (.concat combine identity parsers) parsers fun values =>
      combineAll combine (identity :: values) :=
  (grammar.reads_foldl (.pure identity) suits).trans
    (ReadsAll.cons (.pure grammar identity) (.itself grammar parsers))

end Many

end Grammar

end CursorParsing
