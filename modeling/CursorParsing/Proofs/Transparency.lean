import CursorParsing.Nesting
import CursorParsing.Proofs.Faults
import CursorParsing.Proofs.Congruences

/-!
# Names and traces change nothing

Names and traces are there for whoever watches. A grammar from which they are erased, everywhere and in
all definitions, does the same, as long as what traced attempts show can be written. Where it cannot, the
first such attempt ends the run, although nobody may be watching.
-/

namespace CursorParsing

/-! ## Erasure -/

namespace Parser

def erase : Parser → Parser
  | .flatMap first next => .flatMap first.erase fun value => (next value).erase
  | .orElse first second => .orElse first.erase second.erase
  | .zeroOrMore inner => .zeroOrMore inner.erase
  | .oneOrMore inner => .oneOrMore inner.erase
  | .repeated inner count => .repeated inner.erase count
  | .named _ inner => inner.erase
  | .traced _ inner => inner.erase
  | .pure value => .pure value
  | .raise error => .raise error
  | .symbolThat accepts => .symbolThat accepts
  | .literal expected => .literal expected
  | .endOfInput => .endOfInput
  | .reference name => .reference name

/-- No part of a parser has a name or is traced. -/
def IsPlain : Parser → Prop
  | .flatMap first next => first.IsPlain ∧ ∀ value, (next value).IsPlain
  | .orElse first second => first.IsPlain ∧ second.IsPlain
  | .zeroOrMore inner | .oneOrMore inner | .repeated inner _ => inner.IsPlain
  | .named .. | .traced .. => False
  | .pure _ | .raise _ | .symbolThat _ | .literal _ | .endOfInput | .reference _ => True

theorem isPlain_erase (parser : Parser) : parser.erase.IsPlain := by
  induction parser with
  | pure | raise | symbolThat | literal | endOfInput | reference => trivial
  | flatMap first next firstPlain nextPlain => exact ⟨firstPlain, nextPlain⟩
  | orElse first second firstPlain secondPlain => exact ⟨firstPlain, secondPlain⟩
  | zeroOrMore inner plain | oneOrMore inner plain | repeated inner count plain => exact plain
  | named name inner plain | traced tag inner plain => exact plain

end Parser

namespace Grammar

def erase (grammar : Grammar) : Grammar :=
  ⟨grammar.definitions.map fun definition => (definition.1, definition.2.erase)⟩

theorem find?_erase (grammar : Grammar) (name : String) :
    grammar.erase.find? name = (grammar.find? name).map Parser.erase := by
  rcases grammar with ⟨definitions⟩
  simp only [erase, find?]
  induction definitions with
  | nil => rfl
  | cons definition rest induction =>
      rw [List.map_cons, List.lookup_cons, List.lookup_cons]
      split
      · rfl
      · exact induction

end Grammar

/-! ## One step -/

/-- A traced attempt at a place that can be reached could not show what is ahead. -/
def Event.IsUnshownFrom (base : Cursor) : Event → Prop
  | .raised .tracing (.fault .integerTooLong) place =>
    base.ReachesTo place ∧ place.isShowable = false
  | _ => False

/-- Another run is the same as this one but for what is told of traced attempts, unless one of them could
not show what is ahead. -/
def Run.UntracedAs {α : Type} (base : Cursor) (run untraced : Run α) : Prop :=
  run.ShownAs (Event.IsUnshownFrom base) Event.isTrace untraced

namespace Run.UntracedAs

variable {base : Cursor}

theorem congruence : Run.Congruence (UntracedAs base) := ShownAs.congruence fun _ _ _ => rfl

theorem without_toldAs (tag : String) (ahead : List Char) (cursor : Cursor) (run : Run Reply) :
    (run.toldAs tag ahead cursor).without Event.isTrace = run.without Event.isTrace := by
  rcases ended : run.ending with (cause | fault) | reply <;>
    simp [without, toldAs, closingsOf, ended, Event.isTrace]

theorem traceAttempt (tag : String) {attempt untraced : Cursor → Run Reply} {place : Cursor}
    (reaches : base.ReachesTo place) (same : (attempt place).UntracedAs base (untraced place)) :
    (traceAttempt tag attempt place).UntracedAs base (untraced place) := by
  rcases shown : place.snippet? with fault | ahead
  · rw [traceAttempt_of_unshown shown]
    exact .inl ⟨_, List.mem_singleton_self _, reaches, (Cursor.snippet?_eq_error shown).1⟩
  · rw [traceAttempt_of_shown shown]
    rcases same with unshown | same
    · exact .inl ((happensIn_toldAs tag ahead place _).breaksOff unshown)
    · exact .inr (same.trans (without_toldAs tag ahead place _).symm)

end Run.UntracedAs

theorem Parser.step_erase {base : Cursor} {resolve erased : String → Cursor → Run Reply}
    (advances : ∀ name, Advances (resolve name))
    (erases : ∀ name, AlikeFrom (Run.UntracedAs base) base (resolve name) (erased name))
    (parser : Parser) :
    AlikeFrom (Run.UntracedAs base) base (parser.step resolve) (parser.erase.step erased) := by
  have congruence : Run.Congruence (Run.UntracedAs base) := Run.UntracedAs.congruence
  induction parser with
  | pure value =>
      intro stop _
      exact .inr rfl
  | raise error =>
      intro stop _
      exact .inr rfl
  | symbolThat accepts =>
      intro stop _
      exact (congruence.refl (onlyRaises_readSymbol accepts stop)).after rfl
  | literal expected =>
      intro stop _
      exact (congruence.refl (onlyRaises_readLiteral expected stop)).after rfl
  | endOfInput =>
      intro stop _
      exact (congruence.refl (onlyRaises_readEnd stop)).after rfl
  | flatMap first next firstErases nextErases =>
      intro stop reaches
      apply (firstErases stop reaches).andThen
      intro reply matched
      have onward := first.advances_step advances stop reply matched
      exact nextErases reply.value reply.cursor (reaches.trans onward)
  | orElse first second firstErases secondErases =>
      intro stop reaches
      exact (firstErases stop reaches).orElse (secondErases stop reaches)
  | zeroOrMore inner innerErases =>
      intro stop reaches
      have collected := congruence.collect (inner.advances_step advances) (stop.length + 1) stop
        (innerErases.onward reaches)
      exact collected.map _
  | oneOrMore inner innerErases =>
      intro stop reaches
      have collected := congruence.collectSome (inner.advances_step advances) stop
        (innerErases.onward reaches)
      exact collected.map _
  | repeated inner count innerErases =>
      intro stop reaches
      have collected := congruence.collectExactly (inner.advances_step advances) count stop
        (innerErases.onward reaches)
      exact (collected.map _).after rfl
  | named name inner innerErases => exact innerErases
  | traced tag inner innerErases =>
      intro stop reaches
      exact (innerErases stop reaches).traceAttempt tag reaches
  | reference name =>
      intro stop reaches
      exact (erases name stop reaches).after rfl

/-! ## Whole runs -/

namespace Grammar

variable (grammar : Grammar) (parser : Parser) (cursor : Cursor)

theorem resolve_erase (depth : Nat) (name : String) :
    AlikeFrom (Run.UntracedAs cursor) cursor (grammar.resolve depth name)
      (grammar.erase.resolve depth name) := by
  induction depth generalizing name with
  | zero =>
      intro stop _
      exact .inr rfl
  | succ depth induction =>
      intro stop reaches
      simp only [resolve, find?_erase]
      rcases grammar.find? name with _ | parser
      · exact .inr rfl
      · exact parser.step_erase (grammar.advances_resolve depth) induction stop reaches

theorem parse_erase :
    (grammar.parse parser cursor).UntracedAs cursor (grammar.erase.parse parser.erase cursor) := by
  have sameDepth : grammar.erase.depthFrom cursor = grammar.depthFrom cursor := by
    simp only [depthFrom, erase, List.length_map]
  rw [parse, parse, sameDepth]
  exact parser.step_erase (grammar.advances_resolve _) (grammar.resolve_erase cursor _) cursor
    (.refl cursor)

/-- Without names and traces everything ends as it does with them, with the same answer or the same error.
All that happens is the same as well but for what is told of traced attempts. -/
structure KeepsOutcome : Prop where
  ending : (grammar.erase.parse parser.erase cursor).ending = (grammar.parse parser cursor).ending
  history : (grammar.erase.parse parser.erase cursor).history =
    (grammar.parse parser cursor).history.filter fun event => !event.isTrace
  outcome : (grammar.erase.run parser.erase cursor).1 = (grammar.run parser cursor).1

variable {grammar parser cursor}

theorem keepsOutcome_of_eq
    (same : grammar.erase.parse parser.erase cursor =
      (grammar.parse parser cursor).without Event.isTrace) : grammar.KeepsOutcome parser cursor where
  ending := by rw [same, Run.ending_without]
  history := congrArg Run.history same
  outcome := by
    simp only [run, same, Run.ending_without]
    split <;> rfl

variable (grammar parser cursor)

/-- Either everything is kept, or a traced attempt could not show what is ahead. -/
theorem keepsOutcome_or_unshown :
    grammar.KeepsOutcome parser cursor ∨
      (grammar.parse parser cursor).ending = .error (.fault .integerTooLong) ∧
        ∃ place, cursor.ReachesTo place ∧ place.isShowable = false ∧
          .raised .tracing (.fault .integerTooLong) place ∈ (grammar.parse parser cursor).history := by
  rcases grammar.parse_erase parser cursor with ⟨event, member, unshown⟩ | same
  · right
    unfold Event.IsUnshownFrom at unshown
    split at unshown
    · rename_i place
      have faultsLast := Run.FaultsLast.invariant.parse grammar parser cursor
      rcases List.append_of_mem member with ⟨earlier, later, history⟩
      exact ⟨(faultsLast.ends_at history).1, place, unshown.1, unshown.2, member⟩
    · exact unshown.elim
  · exact .inl (keepsOutcome_of_eq same)

/-- In a grammar from which names and traces are erased, in a parser and in all definitions, everything is
as before. The one exception is a run that a traced attempt ended because it could not show what is ahead;
and there is none if the source can be written. -/
theorem erase_keeps_outcome (grammar : Grammar) (parser : Parser) (cursor : Cursor) :
    (cursor.source.isWritable = true → grammar.KeepsOutcome parser cursor) ∧
      (grammar.KeepsOutcome parser cursor ∨
        (grammar.parse parser cursor).ending = .error (.fault .integerTooLong) ∧
          ∃ place, cursor.ReachesTo place ∧ place.isShowable = false ∧
            .raised .tracing (.fault .integerTooLong) place ∈ (grammar.parse parser cursor).history) ∧
      parser.erase.IsPlain ∧
      ∀ name definition, grammar.erase.find? name = some definition → definition.IsPlain := by
  have kept := grammar.keepsOutcome_or_unshown parser cursor
  refine ⟨?_, kept, parser.isPlain_erase, ?_⟩
  · intro writable
    rcases kept with keeps | ⟨_, place, reaches, unshowable, _⟩
    · exact keeps
    · have showable : place.isShowable = true := by
        apply Cursor.isShowable_of_isWritable
        rw [reaches.source_eq, writable]
      cases showable.symm.trans unshowable
  · intro name definition found
    rw [find?_erase] at found
    rcases Option.map_eq_some_iff.mp found with ⟨original, _, rfl⟩
    exact original.isPlain_erase

private def tracedBrackets : Grammar :=
  ⟨[("nested", .traced "nested" (.named "brackets" Nesting.nested))]⟩

/-- Brackets are read as they are without a name and a trace of each of them. -/
theorem erase_keeps_outcome_brackets :
    (Nesting.brackets.parse (.reference "nested") (.start (.text #['(', 'x', ')']))).ending =
        (tracedBrackets.parse (.reference "nested") (.start (.text #['(', 'x', ')']))).ending ∧
      Nesting.nested.IsPlain := by
  rcases tracedBrackets.erase_keeps_outcome (.reference "nested")
    (.start (.text #['(', 'x', ')'])) with ⟨keeps, _, _, plain⟩
  exact ⟨(keeps (Source.isWritable_text _)).ending, plain "nested" Nesting.nested rfl⟩

/-- A number of 4301 digits. -/
private def longNumber : Source := .list #[.int (Number.power 10 4300)]

private theorem longNumber_unshown : (Cursor.start longNumber).snippet? = .error .integerTooLong := by
  have unshowable : (Cursor.start longNumber).isShowable = false := by decide +kernel
  rw [Cursor.snippet?, unshowable]
  rfl

private def tracedOne : Parser := .traced "one" (.pure (.int 1))

private theorem ending_tracedOne {cursor : Cursor} (unshown : cursor.snippet? = .error .integerTooLong) :
    (empty.parse tracedOne cursor).ending = .error (.fault .integerTooLong) ∧
      (empty.erase.parse tracedOne.erase cursor).ending = .ok ⟨.int 1, cursor⟩ :=
  ⟨congrArg Run.ending (traceAttempt_of_unshown unshown), rfl⟩

/-- A parser that reads nothing ends in a fault before a number that cannot be shown, if it is traced. -/
theorem erase_keeps_outcome_unwritable :
    (empty.parse (.traced "one" (.pure (.int 1))) (.start longNumber)).ending =
        .error (.fault .integerTooLong) ∧
      (empty.erase.parse (Parser.traced "one" (.pure (.int 1))).erase (.start longNumber)).ending =
        .ok ⟨.int 1, .start longNumber⟩ := ending_tracedOne longNumber_unshown

end Grammar

end CursorParsing
