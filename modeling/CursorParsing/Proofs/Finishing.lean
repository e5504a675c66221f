import CursorParsing.Proofs.Invocations

/-!
# Running to the end

What it means that a parser finishes is said here without any bound: neither on how deep references
are followed nor on how often a loop goes round. A parser that would go on forever has no run.
-/

namespace CursorParsing

namespace Grammar

mutual

/-- A parser comes to the end of a run at a cursor. -/
inductive Finishes (grammar : Grammar) : Parser → Cursor → Run Reply → Prop
  | pure (value : Value) (cursor : Cursor) :
      Finishes grammar (.pure value) cursor ((Run.done ⟨value, cursor⟩).after (.entered cursor))
  | raise (error : Error) (cursor : Cursor) :
      Finishes grammar (.raise error) cursor
        ((Run.raised .supplied error cursor).after (.entered cursor))
  | symbolThat (accepts : Value → Outcome Bool) (cursor : Cursor) :
      Finishes grammar (.symbolThat accepts) cursor
        ((readSymbol accepts cursor).after (.entered cursor))
  | literal (expected : Value) (cursor : Cursor) :
      Finishes grammar (.literal expected) cursor
        ((readLiteral expected cursor).after (.entered cursor))
  | endOfInput (cursor : Cursor) :
      Finishes grammar .endOfInput cursor ((readEnd cursor).after (.entered cursor))
  | flatMap {first : Parser} {next : Value → Parser} {cursor : Cursor} {run : Run Reply}
      {following : Reply → Run Reply} (firstFinishes : Finishes grammar first cursor run)
      (nextFinishes : ∀ reply, run.ending = .ok reply →
        Finishes grammar (next reply.value) reply.cursor (following reply)) :
      Finishes grammar (.flatMap first next) cursor (run.andThen following)
  | orElse {first second : Parser} {cursor : Cursor} {run alternative : Run Reply}
      (firstFinishes : Finishes grammar first cursor run)
      (secondFinishes : ∀ cause, run.ending = .error (.mismatch cause) →
        Finishes grammar second cursor alternative) :
      Finishes grammar (.orElse first second) cursor (run.orElse fun _ => alternative)
  | zeroOrMore {inner : Parser} {cursor : Cursor} {run : Run Collection}
      (collects : Collects grammar inner cursor run) :
      Finishes grammar (.zeroOrMore inner) cursor (run.map Collection.toReply)
  | oneOrMore {inner : Parser} {cursor : Cursor} {run : Run Reply}
      {following : Cursor → Run Collection} (finishes : Finishes grammar inner cursor run)
      (restCollects : ∀ reply, run.ending = .ok reply → reply.Moves cursor →
        Collects grammar inner reply.cursor (following reply.cursor)) :
      Finishes grammar (.oneOrMore inner) cursor ((run.andThen fun reply =>
        (Run.unlessStill cursor following reply).map (.cons reply.value)).map Collection.toReply)
  | repeated {inner : Parser} {count : Count} {cursor : Cursor} {run : Run Collection}
      (collects : CollectsUpTo grammar inner count.rounds cursor run) :
      Finishes grammar (.repeated inner count) cursor
        (((run.andThen count.check).map Collection.toReply).after (.entered cursor))
  | named {name : String} {inner : Parser} {cursor : Cursor} {run : Run Reply}
      (finishes : Finishes grammar inner cursor run) :
      Finishes grammar (.named name inner) cursor run
  | traced {tag : String} {inner : Parser} {cursor : Cursor} {run : Run Reply}
      (finishes : Finishes grammar inner cursor run) :
      Finishes grammar (.traced tag inner) cursor (traceAttempt tag (fun _ => run) cursor)
  | reference {name : String} {parser : Parser} {cursor : Cursor} {run : Run Reply}
      (found : grammar.find? name = some parser) (finishes : Finishes grammar parser cursor run) :
      Finishes grammar (.reference name) cursor (run.after (.entered cursor))
  | missing {name : String} (cursor : Cursor) (notFound : grammar.find? name = none) :
      Finishes grammar (.reference name) cursor
        ((Run.raised .reference (.fault (.unknownName name)) cursor).after (.entered cursor))

/-- A parser is tried again and again until it does not match or reads nothing. -/
inductive Collects (grammar : Grammar) : Parser → Cursor → Run Collection → Prop
  | round {inner : Parser} {cursor : Cursor} {run : Run Reply}
      {following : Cursor → Run Collection} (finishes : Finishes grammar inner cursor run)
      (restCollects : ∀ reply, run.ending = .ok reply → reply.Moves cursor →
        Collects grammar inner reply.cursor (following reply.cursor)) :
      Collects grammar inner cursor (run.round cursor (Run.unlessStill cursor following))

/-- A parser is tried until it does not match, or has matched often enough if that is ever so. -/
inductive CollectsUpTo (grammar : Grammar) :
    Parser → (wanted : Option Nat) → Cursor → Run Collection → Prop
  | enough (inner : Parser) (cursor : Cursor) :
      CollectsUpTo grammar inner (some 0) cursor (.done ⟨[], cursor⟩)
  | round {inner : Parser} {rounds : Nat} {cursor : Cursor} {run : Run Reply}
      {following : Cursor → Run Collection} (finishes : Finishes grammar inner cursor run)
      (restCollects : ∀ reply, run.ending = .ok reply →
        CollectsUpTo grammar inner (some rounds) reply.cursor (following reply.cursor)) :
      CollectsUpTo grammar inner (some (rounds + 1)) cursor
        (run.round cursor fun reply => following reply.cursor)
  | endless {inner : Parser} {cursor : Cursor} {run : Run Reply}
      {following : Cursor → Run Collection} (finishes : Finishes grammar inner cursor run)
      (restCollects : ∀ reply, run.ending = .ok reply →
        CollectsUpTo grammar inner none reply.cursor (following reply.cursor)) :
      CollectsUpTo grammar inner none cursor (run.round cursor fun reply => following reply.cursor)

end

/-! ## There is one run -/

mutual

theorem Finishes.unique {grammar : Grammar} {parser : Parser} {cursor : Cursor}
    {run other : Run Reply} :
    grammar.Finishes parser cursor run → grammar.Finishes parser cursor other → run = other
  | .pure _ _, .pure _ _ => rfl
  | .raise _ _, .raise _ _ => rfl
  | .symbolThat _ _, .symbolThat _ _ => rfl
  | .literal _ _, .literal _ _ => rfl
  | .endOfInput _, .endOfInput _ => rfl
  | .flatMap firstFinishes nextFinishes, .flatMap otherFirst otherNext => by
      cases firstFinishes.unique otherFirst
      apply Run.andThen_congr
      intro reply matched
      exact (nextFinishes reply matched).unique (otherNext reply matched)
  | .orElse firstFinishes secondFinishes, .orElse otherFirst otherSecond => by
      cases firstFinishes.unique otherFirst
      apply Run.orElse_congr
      intro cause failed
      exact (secondFinishes cause failed).unique (otherSecond cause failed)
  | .zeroOrMore collects, .zeroOrMore otherCollects => by
      rw [collects.unique otherCollects]
  | .oneOrMore finishes restCollects, .oneOrMore otherFinishes otherRest => by
      cases finishes.unique otherFinishes
      congr 1
      apply Run.andThen_congr
      intro reply matched
      congr 1
      apply Run.unlessStill_congr
      intro moves
      exact (restCollects reply matched moves).unique (otherRest reply matched moves)
  | .repeated collects, .repeated otherCollects => by
      rw [collects.unique otherCollects]
  | .named finishes, .named otherFinishes => finishes.unique otherFinishes
  | .traced finishes, .traced otherFinishes => by
      rw [finishes.unique otherFinishes]
  | .reference found finishes, .reference otherFound otherFinishes => by
      cases found.symm.trans otherFound
      rw [finishes.unique otherFinishes]
  | .reference found _, .missing _ notFound => by
      cases found.symm.trans notFound
  | .missing _ notFound, .reference found _ => by
      cases found.symm.trans notFound
  | .missing _ _, .missing _ _ => rfl

theorem Collects.unique {grammar : Grammar} {inner : Parser} {cursor : Cursor}
    {run other : Run Collection} :
    grammar.Collects inner cursor run → grammar.Collects inner cursor other → run = other
  | .round finishes restCollects, .round otherFinishes otherRest => by
      cases finishes.unique otherFinishes
      apply Run.round_congr
      intro reply matched
      apply Run.unlessStill_congr
      intro moves
      exact (restCollects reply matched moves).unique (otherRest reply matched moves)

theorem CollectsUpTo.unique {grammar : Grammar} {inner : Parser} {wanted : Option Nat}
    {cursor : Cursor} {run other : Run Collection} :
    grammar.CollectsUpTo inner wanted cursor run → grammar.CollectsUpTo inner wanted cursor other →
      run = other
  | .enough _ _, .enough _ _ => rfl
  | .round finishes restCollects, .round otherFinishes otherRest => by
      cases finishes.unique otherFinishes
      apply Run.round_congr
      intro reply matched
      exact (restCollects reply matched).unique (otherRest reply matched)
  | .endless finishes restCollects, .endless otherFinishes otherRest => by
      cases finishes.unique otherFinishes
      apply Run.round_congr
      intro reply matched
      exact (restCollects reply matched).unique (otherRest reply matched)

end

/-! ## What never ends -/

section LeftRecursion

variable {grammar : Grammar} {name : String} {next : Value → Parser}

theorem Finishes.ne_of_leftRecursive
    (found : grammar.find? name = some (.flatMap (.reference name) next))
    {parser : Parser} {cursor : Cursor} {run : Run Reply} :
    grammar.Finishes parser cursor run →
      parser ≠ .reference name ∧ parser ≠ .flatMap (.reference name) next
  | .reference foundAgain finishes => by
      have never := (ne_of_leftRecursive found finishes).2
      refine ⟨?_, nofun⟩
      intro same
      rw [Parser.reference.inj same] at foundAgain
      exact never (Option.some.inj (foundAgain.symm.trans found))
  | .missing _ notFound => by
      refine ⟨?_, nofun⟩
      intro same
      rw [Parser.reference.inj same] at notFound
      cases found.symm.trans notFound
  | .flatMap firstFinishes _ => by
      have never := (ne_of_leftRecursive found firstFinishes).1
      refine ⟨nofun, ?_⟩
      intro same
      exact never (Parser.flatMap.inj same).1
  | .pure _ _ | .raise _ _ | .symbolThat _ _ | .literal _ _ | .endOfInput _ | .orElse _ _
  | .zeroOrMore _ | .oneOrMore _ _ | .repeated _ | .named _ | .traced _ => ⟨nofun, nofun⟩

/-- A definition that begins with itself has no run, wherever it is followed. -/
theorem not_finishes_of_leftRecursive
    (found : grammar.find? name = some (.flatMap (.reference name) next)) (cursor : Cursor)
    (run : Run Reply) : ¬grammar.Finishes (.reference name) cursor run :=
  fun finishes => (finishes.ne_of_leftRecursive found).1 rfl

end LeftRecursion

end Grammar

end CursorParsing
