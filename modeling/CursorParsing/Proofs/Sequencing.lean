import CursorParsing.Proofs.Rows

/-!
# Sequencing is flat

A phrase is what is built from parsers by sequencing. However it is bracketed, its parsers are run in
a row, and its value is made of theirs; so long as making it raises nothing, nobody can tell when it is
made.
-/

namespace CursorParsing

/-! ## Phrases -/

inductive Phrase where
  | leaf (parser : Parser)
  | map (transform : Value → Outcome Value) (inner : Phrase)
  | keepRight (first second : Phrase)
  | keepLeft (first second : Phrase)
  | between (opening closing inner : Phrase)
  | lift2 (combine : Value → Value → Outcome Value) (first second : Phrase)
  | lift3 (combine : Value → Value → Value → Outcome Value) (first second third : Phrase)
  | concat (combine : Value → Value → Outcome Value) (identity : Value) (parts : List Phrase)
  | sequence (parts : List Phrase)

namespace Phrase

mutual
def parser : Phrase → Parser
  | .leaf parser => parser
  | .map transform inner => inner.parser.map transform
  | .keepRight first second => first.parser.keepRight second.parser
  | .keepLeft first second => first.parser.keepLeft second.parser
  | .between opening closing inner => .between opening.parser closing.parser inner.parser
  | .lift2 combine first second => .lift2 combine first.parser second.parser
  | .lift3 combine first second third => .lift3 combine first.parser second.parser third.parser
  | .concat combine identity parts => .concat combine identity (parsers parts)
  | .sequence parts => .sequence (parsers parts)

def parsers : List Phrase → List Parser
  | [] => []
  | part :: rest => part.parser :: parsers rest
end

mutual
/-- The parsers that a phrase is built from, in the order in which they are run. -/
def leaves : Phrase → List Parser
  | .leaf parser => [parser]
  | .map _ inner => inner.leaves
  | .keepRight first second | .keepLeft first second | .lift2 _ first second =>
    first.leaves ++ second.leaves
  | .between opening closing inner => opening.leaves ++ inner.leaves ++ closing.leaves
  | .lift3 _ first second third => first.leaves ++ (second.leaves ++ third.leaves)
  | .concat _ _ parts | .sequence parts => allLeaves parts

def allLeaves : List Phrase → List Parser
  | [] => []
  | part :: rest => part.leaves ++ allLeaves rest
end

mutual
/-- What a phrase makes of the values of its leaves. -/
def value : Phrase → List Value → Value
  | .leaf _, values => values.headD default
  | .map transform inner, values => answerOf (transform (inner.value values))
  | .keepRight first second, values => second.value (values.drop first.leaves.length)
  | .keepLeft first _, values => first.value (values.take first.leaves.length)
  | .between opening _ inner, values =>
    inner.value ((values.take (opening.leaves ++ inner.leaves).length).drop opening.leaves.length)
  | .lift2 combine first second, values =>
    answerOf (combine (first.value (values.take first.leaves.length))
      (second.value (values.drop first.leaves.length)))
  | .lift3 combine first second third, values =>
    let later := values.drop first.leaves.length
    answerOf (combine (first.value (values.take first.leaves.length))
      (second.value (later.take second.leaves.length))
      (third.value (later.drop second.leaves.length)))
  | .concat combine identity parts, values =>
    combineAll combine (identity :: allValues parts values)
  | .sequence parts, values => .tuple (allValues parts values)

def allValues : List Phrase → List Value → List Value
  | [], _ => []
  | part :: rest, values =>
    part.value (values.take part.leaves.length) ::
      allValues rest (values.drop part.leaves.length)
end

/-- The leaves in one sequence, of whose values the phrase's is made afterwards. -/
def flat (phrase : Phrase) : Parser :=
  (Parser.sequence phrase.leaves).map fun values => .ok (phrase.value (values.items?.getD []))

mutual
/-- No operation of a phrase raises an error for values that it can be given there. So it is with
operations that never raise any. -/
def Harmless (grammar : Grammar) : Phrase → Prop
  | .leaf _ => True
  | .map transform inner => inner.Harmless grammar ∧ grammar.Suits transform inner.parser
  | .keepRight first second | .keepLeft first second =>
    first.Harmless grammar ∧ second.Harmless grammar
  | .between opening closing inner =>
    opening.Harmless grammar ∧ closing.Harmless grammar ∧ inner.Harmless grammar
  | .lift2 combine first second =>
    first.Harmless grammar ∧ second.Harmless grammar ∧
      grammar.SuitsBoth combine first.parser second.parser
  | .lift3 combine first second third =>
    first.Harmless grammar ∧ second.Harmless grammar ∧ third.Harmless grammar ∧
      ∀ left, grammar.Gives first.parser left →
        grammar.SuitsBoth (combine left) second.parser third.parser
  | .concat combine identity parts =>
    AllHarmless grammar parts ∧ grammar.SuitsAll combine (.pure identity) (parsers parts)
  | .sequence parts => AllHarmless grammar parts

def AllHarmless (grammar : Grammar) : List Phrase → Prop
  | [] => True
  | part :: rest => part.Harmless grammar ∧ AllHarmless grammar rest
end

mutual
theorem Harmless.reads {grammar : Grammar} :
    (phrase : Phrase) → phrase.Harmless grammar →
      grammar.Reads phrase.parser phrase.leaves phrase.value
  | .leaf parser, _ => .leaf grammar parser
  | .map _ inner, ⟨innerHarmless, suits⟩ => (reads inner innerHarmless).map suits
  | .keepRight first second, ⟨firstHarmless, secondHarmless⟩ =>
    (reads first firstHarmless).keepRight (reads second secondHarmless)
  | .keepLeft first second, ⟨firstHarmless, secondHarmless⟩ =>
    (reads first firstHarmless).keepLeft (reads second secondHarmless)
  | .between opening closing inner, ⟨openingHarmless, closingHarmless, innerHarmless⟩ =>
    ((reads opening openingHarmless).keepRight (reads inner innerHarmless)).keepLeft
      (reads closing closingHarmless)
  | .lift2 _ first second, ⟨firstHarmless, secondHarmless, suits⟩ =>
    (reads first firstHarmless).lift2 (reads second secondHarmless) suits
  | .lift3 _ first second third, ⟨firstHarmless, secondHarmless, thirdHarmless, suits⟩ =>
    (reads first firstHarmless).lift3 (reads second secondHarmless) (reads third thirdHarmless) suits
  | .concat _ _ parts, ⟨partsHarmless, suits⟩ =>
    (Grammar.reads_concat suits).trans (readsAll parts partsHarmless)
  | .sequence parts, partsHarmless =>
    (grammar.reads_sequence (parsers parts)).trans (readsAll parts partsHarmless)

theorem Harmless.readsAll {grammar : Grammar} :
    (parts : List Phrase) → AllHarmless grammar parts →
      grammar.ReadsAll (parsers parts) (allLeaves parts) (allValues parts)
  | [], _ => .itself grammar []
  | part :: rest, ⟨partHarmless, restHarmless⟩ =>
    .cons (reads part partHarmless) (readsAll rest restHarmless)
end

end Phrase

/-! ## Alike parsers -/

namespace Grammar

/-- At every place two parsers end with the same value and at the same cursor, or in the same error,
and tell of the same attempts. -/
def Alike (grammar : Grammar) (first second : Parser) : Prop :=
  ∀ cursor,
    (grammar.parse first cursor).ending = (grammar.parse second cursor).ending ∧
      logLines (grammar.parse first cursor).history = logLines (grammar.parse second cursor).history

section Alike

variable {grammar : Grammar} {first second : Parser} {leaves : List Parser}
  {value other : List Value → Value}

theorem ending_effect (grammar : Grammar) (parser : Parser) (cursor : Cursor) :
    (grammar.effect (grammar.depthFrom cursor) parser cursor).ending =
      (grammar.parse parser cursor).ending := rfl

theorem logLines_effect (grammar : Grammar) (parser : Parser) (cursor : Cursor) :
    logLines (grammar.effect (grammar.depthFrom cursor) parser cursor).history =
      logLines (grammar.parse parser cursor).history :=
  logLines_without_entries _

theorem alike_of_effect
    (same : ∀ depth cursor, grammar.effect depth first cursor = grammar.effect depth second cursor) :
    grammar.Alike first second := by
  intro cursor
  rw [← ending_effect, ← ending_effect, ← logLines_effect, ← logLines_effect, same]
  exact ⟨rfl, rfl⟩

theorem Reads.alike (reads : grammar.Reads first leaves value)
    (otherReads : grammar.Reads second leaves value) : grammar.Alike first second :=
  alike_of_effect fun depth cursor => (reads depth cursor).trans (otherReads depth cursor).symm

/-- Where reading ends, and whether it does, has nothing to do with what is made of the values. -/
theorem Reads.sameStop (reads : grammar.Reads first leaves value)
    (otherReads : grammar.Reads second leaves other) (cursor : Cursor) :
    (grammar.parse first cursor).ending.map Reply.cursor =
      (grammar.parse second cursor).ending.map Reply.cursor := by
  rw [← ending_effect, ← ending_effect, reads, otherReads]
  rcases grammar.readAll (grammar.depthFrom cursor) leaves cursor with ⟨error | collection, history⟩ <;>
    rfl

end Alike

end Grammar

namespace Phrase

variable {grammar : Grammar}

theorem reads_flat (grammar : Grammar) (phrase : Phrase) :
    grammar.Reads phrase.flat phrase.leaves phrase.value :=
  (grammar.reads_sequence phrase.leaves).map fun _ _ => ⟨_, rfl⟩

theorem Harmless.alike_flat {phrase : Phrase} (harmless : phrase.Harmless grammar) :
    grammar.Alike phrase.parser phrase.flat :=
  (harmless.reads phrase).alike (reads_flat grammar phrase)

section Bracketing

variable {first second : Phrase} (firstHarmless : first.Harmless grammar)
  (secondHarmless : second.Harmless grammar) (sameLeaves : first.leaves = second.leaves)

include firstHarmless secondHarmless sameLeaves

theorem sameStop_of_leaves (cursor : Cursor) :
    (grammar.parse first.parser cursor).ending.map Reply.cursor =
      (grammar.parse second.parser cursor).ending.map Reply.cursor := by
  have otherReads := secondHarmless.reads second
  rw [← sameLeaves] at otherReads
  exact (firstHarmless.reads first).sameStop otherReads cursor

theorem alike_of_leaves
    (sameValue : ∀ values, values.length = first.leaves.length →
      first.value values = second.value values) :
    grammar.Alike first.parser second.parser := by
  have otherReads := secondHarmless.reads second
  rw [← sameLeaves] at otherReads
  exact ((firstHarmless.reads first).congr sameValue).alike otherReads

end Bracketing

end Phrase

/-! ## Tuples -/

def Value.single (value : Value) : Outcome Value := .ok (.tuple [value])

def Value.triple (left middle right : Value) : Outcome Value := .ok (.tuple [left, middle, right])

namespace Grammar

theorem pair_alike_sequence (grammar : Grammar) (first second : Parser) :
    grammar.Alike (.lift2 Operation.pair.apply first second) (.sequence [first, second]) := by
  have suits : grammar.SuitsBoth Operation.pair.apply first second := fun _ _ _ _ => ⟨_, rfl⟩
  have pairReads := (Reads.leaf grammar first).lift2 (.leaf grammar second) suits
  apply (pairReads.congr _).alike (grammar.reads_sequence [first, second])
  rintro (_ | ⟨left, _ | ⟨right, _ | ⟨further, values⟩⟩⟩) sameLength <;> cases sameLength
  rfl

theorem triple_alike_sequence (grammar : Grammar) (first second third : Parser) :
    grammar.Alike (.lift3 Value.triple first second third) (.sequence [first, second, third]) := by
  have tripleReads := (Reads.leaf grammar first).lift3 (.leaf grammar second) (.leaf grammar third)
    fun left _ middle _ right _ => ⟨Value.tuple [left, middle, right], rfl⟩
  apply (tripleReads.congr _).alike (grammar.reads_sequence [first, second, third])
  rintro (_ | ⟨left, _ | ⟨middle, _ | ⟨right, _ | ⟨further, values⟩⟩⟩⟩) sameLength <;>
    cases sameLength
  rfl

theorem readsAll_single (grammar : Grammar) (parsers : List Parser) :
    grammar.ReadsAll (parsers.map (Parser.map Value.single)) parsers
      (List.map fun value => .tuple [value]) := by
  intro depth cursor
  induction parsers generalizing cursor with
  | nil => rfl
  | cons parser rest induction =>
      have suits : grammar.Suits Value.single parser := fun value _ => ⟨.tuple [value], rfl⟩
      simp only [List.map_cons, readAll, effect_map suits, Run.map_andThen, induction,
        Run.andThen_map, Run.map_map]
      rfl

theorem suitsAll_single (grammar : Grammar) (parsers : List Parser) :
    grammar.SuitsAll Value.add (.pure (.tuple [])) (parsers.map (Parser.map Value.single)) := by
  apply suitsAll_of_keeps fun value => ∃ items, value = .tuple items
  · rintro value ⟨cursor, depth, reply, matched, rfl⟩
    cases matched
    exact ⟨[], rfl⟩
  · intro wrapped member left right ⟨items, leftTuple⟩ rightGiven
    rcases List.mem_map.mp member with ⟨parser, _, rfl⟩
    rcases rightGiven.of_map with ⟨given, _, rightTuple⟩
    cases leftTuple
    cases rightTuple
    exact ⟨.tuple (items ++ [given]), rfl, items ++ [given], rfl⟩

theorem combineAll_single (collected values : List Value) :
    combineAll Value.add (.tuple collected :: values.map fun value => .tuple [value]) =
      .tuple (collected ++ values) := by
  induction values generalizing collected with
  | nil => simp [combineAll]
  | cons value rest induction =>
      calc combineAll Value.add (.tuple collected :: (value :: rest).map fun value => .tuple [value])
          = combineAll Value.add
              (.tuple (collected ++ [value]) :: rest.map fun value => .tuple [value]) := rfl
        _ = .tuple (collected ++ [value] ++ rest) := induction _
        _ = .tuple (collected ++ value :: rest) := by rw [List.append_assoc, List.singleton_append]

theorem sequence_alike_concat (grammar : Grammar) (parsers : List Parser) :
    grammar.Alike (.sequence parsers)
      (.concat Value.add (.tuple []) (parsers.map (Parser.map Value.single))) := by
  have concatReads := (reads_concat (grammar.suitsAll_single parsers)).trans
    (grammar.readsAll_single parsers)
  apply (grammar.reads_sequence parsers).alike (concatReads.congr _)
  intro values _
  exact combineAll_single [] values

/-! ## Functions as values

A function of two or three operands, curried, gives a function for each operand but the last. Whichever
functions these are, lifting what they compute together is applying them to one value after the other. -/

section Curried

variable (grammar : Grammar) {function : Value} {once : Value → Value} {twice : Value → Value → Value}
  (first second third : Parser) (depth : Nat) (cursor : Cursor)
  (givesOnce : ∀ left, function.call left = .ok (once left))
  (givesTwice : ∀ left middle, (once left).call middle = .ok (twice left middle))

include givesOnce

theorem effect_apply_pure :
    grammar.effect depth ((Parser.pure function).apply first) cursor =
      (grammar.effect depth first cursor).map fun reply => ⟨once reply.value, reply.cursor⟩ := by
  rw [Parser.apply, effect_flatMap, effect_pure, Run.done_andThen,
    effect_map fun left _ => ⟨_, givesOnce left⟩]
  simp only [givesOnce]
  rfl

include givesTwice in
theorem effect_apply_apply_pure :
    grammar.effect depth (((Parser.pure function).apply first).apply second) cursor =
      (grammar.effect depth first cursor).andThen fun reply =>
        (grammar.effect depth second reply.cursor).map fun later =>
          ⟨twice reply.value later.value, later.cursor⟩ := by
  rw [Parser.apply, effect_flatMap, grammar.effect_apply_pure first depth cursor givesOnce,
    Run.map_andThen]
  congr 1
  funext reply
  rw [effect_map fun middle _ => ⟨_, givesTwice reply.value middle⟩]
  simp only [givesTwice]
  rfl

theorem lift2_alike_apply_of_calls {combine : Value → Value → Outcome Value}
    (computes : ∀ left right, (once left).call right = combine left right) :
    grammar.Alike (.lift2 combine first second)
      (((Parser.pure function).apply first).apply second) := by
  apply alike_of_effect
  intro depth cursor
  rw [Parser.lift2, effect_flatMap, Parser.apply, effect_flatMap,
    grammar.effect_apply_pure first depth cursor givesOnce, Run.map_andThen]
  simp only [← computes]

include givesTwice in
theorem lift3_alike_apply_of_calls {combine : Value → Value → Value → Outcome Value}
    (computes : ∀ left middle right, (twice left middle).call right = combine left middle right) :
    grammar.Alike (.lift3 combine first second third)
      ((((Parser.pure function).apply first).apply second).apply third) := by
  apply alike_of_effect
  intro depth cursor
  rw [Parser.apply, effect_flatMap,
    grammar.effect_apply_apply_pure first second depth cursor givesOnce givesTwice, Run.andThen_assoc]
  simp only [Parser.lift3, effect_flatMap, Run.map_andThen, ← computes]

end Curried

/-- Lifting a named operation is applying it to one value after the other. -/
theorem lift2_alike_apply (grammar : Grammar) (operation : Operation) (first second : Parser) :
    grammar.Alike (.lift2 operation.apply first second)
      (((Parser.pure (.function (.curried operation))).apply first).apply second) :=
  grammar.lift2_alike_apply_of_calls first second (fun _ => rfl) fun _ _ => rfl

/-! ## Every phrase is flat -/

/-- Every phrase does what its leaves in one sequence do, of whose values its own is made afterwards. So
phrases of the same leaves stop at the same places or in the same errors, and if they make the same of
the values nobody can tell them from each other. In particular a tuple is read by lifting, by
concatenation or as a sequence, and an operation is lifted or applied to one value after the other,
with the same effect. -/
theorem sequencing_flat (grammar : Grammar) :
    (∀ phrase : Phrase, phrase.Harmless grammar → grammar.Alike phrase.parser phrase.flat) ∧
      (∀ first second : Phrase, first.Harmless grammar → second.Harmless grammar →
        first.leaves = second.leaves →
          (∀ cursor, (grammar.parse first.parser cursor).ending.map Reply.cursor =
              (grammar.parse second.parser cursor).ending.map Reply.cursor) ∧
            ((∀ values, values.length = first.leaves.length →
                first.value values = second.value values) →
              grammar.Alike first.parser second.parser)) ∧
      (∀ operation : Operation, ∀ first second,
        grammar.Alike (.lift2 operation.apply first second)
          (((Parser.pure (.function (.curried operation))).apply first).apply second)) ∧
      (∀ first second,
        grammar.Alike (.lift2 Operation.pair.apply first second) (.sequence [first, second])) ∧
      (∀ first second third,
        grammar.Alike (.lift3 Value.triple first second third) (.sequence [first, second, third])) ∧
      ∀ parsers,
        grammar.Alike (.sequence parsers)
          (.concat Value.add (.tuple []) (parsers.map (Parser.map Value.single))) := by
  refine ⟨fun phrase harmless => harmless.alike_flat, ?_, grammar.lift2_alike_apply,
    grammar.pair_alike_sequence, grammar.triple_alike_sequence, grammar.sequence_alike_concat⟩
  intro first second firstHarmless secondHarmless sameLeaves
  exact ⟨Phrase.sameStop_of_leaves firstHarmless secondHarmless sameLeaves,
    Phrase.alike_of_leaves firstHarmless secondHarmless sameLeaves⟩

private def commaEarly : Phrase :=
  .lift2 Value.add (.keepLeft (.leaf (.word ['a'])) (.leaf (.word [',']))) (.leaf (.word ['b']))

private def commaLate : Phrase :=
  .lift2 Value.add (.leaf (.word ['a'])) (.keepRight (.leaf (.word [','])) (.leaf (.word ['b'])))

/-- Whether a comma between two words is read with the first or with the second, their text is joined
in the same way. -/
theorem sequencing_flat_comma :
    commaEarly.Harmless empty ∧ commaLate.Harmless empty ∧
      empty.Alike commaEarly.parser commaEarly.flat ∧
      empty.Alike commaEarly.parser commaLate.parser ∧
      (empty.parse commaLate.parser (.start (.text #['a', ',', 'b', '!']))).ending =
        .ok ⟨.text ['a', 'b'], ⟨.text #['a', ',', 'b', '!'], 3⟩⟩ := by
  have suitsEarly : empty.SuitsBoth Value.add
      ((Parser.word ['a']).keepLeft (.word [','])) (.word ['b']) := by
    intro left leftGiven right rightGiven
    cases leftGiven.of_keepLeft.of_literal
    cases rightGiven.of_literal
    exact ⟨_, rfl⟩
  have suitsLate : empty.SuitsBoth Value.add
      (.word ['a']) ((Parser.word [',']).keepRight (.word ['b'])) := by
    intro left leftGiven right rightGiven
    cases leftGiven.of_literal
    cases rightGiven.of_keepRight.of_literal
    exact ⟨_, rfl⟩
  have earlyHarmless : commaEarly.Harmless empty := ⟨⟨trivial, trivial⟩, trivial, suitsEarly⟩
  have lateHarmless : commaLate.Harmless empty := ⟨trivial, ⟨trivial, trivial⟩, suitsLate⟩
  rcases sequencing_flat empty with ⟨flat, rebracketed, _⟩
  have alike : empty.Alike commaEarly.parser commaLate.parser := by
    apply (rebracketed _ _ earlyHarmless lateHarmless rfl).2
    rintro (_ | ⟨left, _ | ⟨comma, _ | ⟨right, _ | ⟨further, values⟩⟩⟩⟩) sameLength <;>
      cases sameLength
    rfl
  have joined : (empty.parse commaEarly.parser (.start (.text #['a', ',', 'b', '!']))).ending =
      .ok ⟨.text ['a', 'b'], ⟨.text #['a', ',', 'b', '!'], 3⟩⟩ := rfl
  exact ⟨earlyHarmless, lateHarmless, flat _ earlyHarmless, alike, (alike _).1.symm.trans joined⟩

end Grammar

end CursorParsing
