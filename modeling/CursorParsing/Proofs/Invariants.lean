import CursorParsing.Proofs.Recognisers

/-!
# Invariants of runs

A property of runs that is kept by each way of making a run of others holds of everything a grammar
does, however its parsers are nested. If raising keeps it for some errors only, it holds wherever the
parsers were supplied with no others.
-/

namespace CursorParsing

/-! ## Where errors come from -/

/-- What running parsers raises of itself, whatever the parsers were made of. -/
def Error.IsOfReading : Error → Prop
  | .mismatch _ | .fault .typeMismatch | .fault .endlessRecursion | .fault (.unknownName _)
  | .fault .integerTooLong => True
  | .fault _ => False

theorem Cursor.refusal_isOfReading (cursor : Cursor) (tell : List Char → Mismatch) :
    (cursor.refusal tell).IsOfReading := by
  rcases cursor.refusal_cases tell with told | tooLong
  · rw [told]
    trivial
  · rw [tooLong]
    trivial

/-- The errors that a parser was made to raise, and those that the functions in it raise, are all of an
allowed sort. -/
def Parser.SuppliesOnly (Allowed : Error → Prop) : Parser → Prop
  | .raise error => Allowed error
  | .symbolThat accepts => ∀ symbol error, accepts symbol = .error error → Allowed error
  | .flatMap first next => first.SuppliesOnly Allowed ∧ ∀ value, (next value).SuppliesOnly Allowed
  | .orElse first second => first.SuppliesOnly Allowed ∧ second.SuppliesOnly Allowed
  | .zeroOrMore inner | .oneOrMore inner | .repeated inner _ | .named _ inner | .traced _ inner =>
    inner.SuppliesOnly Allowed
  | .pure _ | .literal _ | .endOfInput | .reference _ => True

/-- The definitions of a grammar supply allowed errors only. -/
def Grammar.SuppliesOnly (Allowed : Error → Prop) (grammar : Grammar) : Prop :=
  ∀ name parser, grammar.find? name = some parser → parser.SuppliesOnly Allowed

theorem Parser.suppliesOnly_true (parser : Parser) : parser.SuppliesOnly fun _ => True := by
  induction parser with
  | pure | raise | symbolThat | literal | endOfInput | reference => simp [SuppliesOnly]
  | flatMap first next firstHolds nextHolds => exact ⟨firstHolds, nextHolds⟩
  | orElse first second firstHolds secondHolds => exact ⟨firstHolds, secondHolds⟩
  | zeroOrMore _ holds | oneOrMore _ holds | repeated _ _ holds | named _ _ holds
  | traced _ _ holds => exact holds

/-! ## What every run keeps -/

/-- A property of runs, whatever they answer, that everything running parsers does to runs keeps, as
long as no errors but the allowed ones are raised. Those of reading itself are allowed. -/
structure Run.InvariantUnder (Allowed : Error → Prop) (Holds : ∀ {α : Type}, Run α → Prop) :
    Prop where
  ofReading : ∀ error : Error, error.IsOfReading → Allowed error
  done : ∀ {α : Type} (answer : α), Holds (Run.done answer)
  raised : ∀ {α : Type} (origin : Origin) {error : Error} (cursor : Cursor), Allowed error →
    Holds (Run.raised origin error cursor : Run α)
  entered : ∀ {α : Type} (cursor : Cursor) {run : Run α}, Holds run →
    Holds (run.after (.entered cursor))
  map : ∀ {α β : Type} (transform : α → β) {run : Run α}, Holds run → Holds (run.map transform)
  andThen : ∀ {α β : Type} {run : Run α} {next : α → Run β}, Holds run →
    (∀ answer, Holds (next answer)) → Holds (run.andThen next)
  orElse : ∀ {α : Type} {run : Run α} {alternative : Unit → Run α}, Holds run →
    Holds (alternative ()) → Holds (run.orElse alternative)
  told : ∀ (tag : String) (ahead : List Char) (cursor : Cursor) {run : Run Reply}, Holds run →
    Holds (run.toldAs tag ahead cursor)

namespace Run.InvariantUnder

variable {Allowed : Error → Prop} {Holds : ∀ {α : Type}, Run α → Prop}
  (invariant : Run.InvariantUnder Allowed @Holds)

include invariant

theorem raisedByReading {α : Type} (origin : Origin) {error : Error} (cursor : Cursor)
    (ofReading : error.IsOfReading) : Holds (Run.raised origin error cursor : Run α) :=
  invariant.raised origin cursor (invariant.ofReading error ofReading)

theorem round {run : Run Reply} {cursor : Cursor} {goOn : Reply → Run Collection}
    (holds : Holds run) (goOnHolds : ∀ reply, Holds (goOn reply)) :
    Holds (run.round cursor goOn) := by
  apply invariant.andThen
  · exact invariant.orElse (invariant.map some holds) (invariant.done none)
  · intro outcome
    cases outcome with
    | none => exact invariant.done _
    | some reply => exact invariant.map _ (goOnHolds reply)

theorem unlessStill {cursor : Cursor} {goOn : Cursor → Run Collection} (reply : Reply)
    (goOnHolds : Holds (goOn reply.cursor)) : Holds (Run.unlessStill cursor goOn reply) := by
  unfold Run.unlessStill
  split
  · exact invariant.done _
  · exact goOnHolds

section Loops

variable {attempt : Cursor → Run Reply} (attempts : ∀ cursor, Holds (attempt cursor))

include attempts

theorem collect (bound : Nat) (cursor : Cursor) : Holds (collect attempt bound cursor) := by
  induction bound generalizing cursor with
  | zero => exact invariant.done _
  | succ bound induction =>
      rw [collect_succ]
      apply invariant.round (attempts cursor)
      intro reply
      exact invariant.unlessStill reply (induction reply.cursor)

theorem collectSome (cursor : Cursor) : Holds (collectSome attempt cursor) := by
  rw [collectSome_eq]
  apply invariant.andThen (attempts cursor)
  intro reply
  exact invariant.map _ (invariant.unlessStill reply (invariant.collect attempts _ reply.cursor))

theorem collectUpTo (rounds : Nat) (cursor : Cursor) :
    Holds (collectUpTo attempt rounds cursor) := by
  induction rounds generalizing cursor with
  | zero => exact invariant.done _
  | succ rounds induction =>
      rw [collectUpTo_succ]
      exact invariant.round (attempts cursor) fun reply => induction reply.cursor

theorem collectUntilMismatch (cursor : Cursor) : Holds (collectUntilMismatch attempt cursor) := by
  apply invariant.andThen (invariant.collectUpTo attempts _ cursor)
  intro collection
  split
  · exact invariant.raisedByReading _ _ trivial
  · exact invariant.done _

theorem collectExactly (count : Count) (cursor : Cursor) :
    Holds (collectExactly attempt count cursor) := by
  rw [collectExactly_eq]
  apply invariant.andThen
  · cases count.rounds with
    | none => exact invariant.collectUntilMismatch attempts cursor
    | some rounds => exact invariant.collectUpTo attempts rounds cursor
  · intro collection
    unfold Count.check
    split
    · exact invariant.done _
    · exact invariant.raisedByReading _ _ (Cursor.refusal_isOfReading _ _)

end Loops

theorem refuseSymbol (cursor : Cursor) : Holds (refuseSymbol cursor) :=
  invariant.raisedByReading _ _ (cursor.refusal_isOfReading _)

theorem readSymbol {accepts : Value → Outcome Bool}
    (supplied : ∀ symbol error, accepts symbol = .error error → Allowed error) (cursor : Cursor) :
    Holds (readSymbol accepts cursor) := by
  rw [readSymbol_eq]
  rcases cursor.source.symbol? cursor.position with _ | symbol
  · exact invariant.refuseSymbol cursor
  · rcases judged : accepts symbol with error | (_ | _) <;> simp only [judged]
    · exact invariant.raised _ _ (supplied symbol error judged)
    · exact invariant.refuseSymbol cursor
    · exact invariant.done _

theorem readLiteral (expected : Value) (cursor : Cursor) : Holds (readLiteral expected cursor) := by
  rw [readLiteral_eq]
  rcases Source.ofValue? expected with _ | literal
  · exact invariant.raisedByReading _ _ trivial
  · simp only
    split
    · exact invariant.done _
    · exact invariant.raisedByReading _ _ (cursor.refusal_isOfReading _)

theorem readEnd (cursor : Cursor) : Holds (readEnd cursor) := by
  unfold CursorParsing.readEnd
  split
  · exact invariant.done _
  · exact invariant.raisedByReading _ _ (cursor.refusal_isOfReading _)

theorem traceAttempt (tag : String) {attempt : Cursor → Run Reply} {cursor : Cursor}
    (holds : Holds (attempt cursor)) : Holds (traceAttempt tag attempt cursor) := by
  unfold CursorParsing.traceAttempt
  rcases shown : cursor.snippet? with fault | ahead
  · rw [(Cursor.snippet?_eq_error shown).2]
    exact invariant.raisedByReading _ _ trivial
  · exact invariant.told tag ahead cursor holds

/-- If following names keeps an invariant, so does every parser that supplies allowed errors only. -/
theorem step {resolve : String → Cursor → Run Reply}
    (resolves : ∀ name cursor, Holds (resolve name cursor)) {parser : Parser}
    (supplied : parser.SuppliesOnly Allowed) (cursor : Cursor) :
    Holds (parser.step resolve cursor) := by
  induction parser generalizing cursor with
  | pure value => exact invariant.entered cursor (invariant.done _)
  | raise error => exact invariant.entered cursor (invariant.raised _ _ supplied)
  | symbolThat accepts => exact invariant.entered cursor (invariant.readSymbol supplied cursor)
  | literal expected => exact invariant.entered cursor (invariant.readLiteral expected cursor)
  | endOfInput => exact invariant.entered cursor (invariant.readEnd cursor)
  | flatMap first next firstHolds nextHolds =>
      apply invariant.andThen (firstHolds supplied.1 cursor)
      intro reply
      exact nextHolds reply.value (supplied.2 reply.value) reply.cursor
  | orElse first second firstHolds secondHolds =>
      exact invariant.orElse (firstHolds supplied.1 cursor) (secondHolds supplied.2 cursor)
  | zeroOrMore inner innerHolds =>
      exact invariant.map _ (invariant.collect (innerHolds supplied) _ cursor)
  | oneOrMore inner innerHolds =>
      exact invariant.map _ (invariant.collectSome (innerHolds supplied) cursor)
  | repeated inner count innerHolds =>
      apply invariant.entered cursor
      exact invariant.map _ (invariant.collectExactly (innerHolds supplied) count cursor)
  | named name inner innerHolds => exact innerHolds supplied cursor
  | traced tag inner innerHolds => exact invariant.traceAttempt tag (innerHolds supplied cursor)
  | reference name => exact invariant.entered cursor (resolves name cursor)

theorem resolve {grammar : Grammar} (defined : grammar.SuppliesOnly Allowed) (depth : Nat)
    (name : String) (cursor : Cursor) : Holds (grammar.resolve depth name cursor) := by
  induction depth generalizing name cursor with
  | zero => exact invariant.raisedByReading _ _ trivial
  | succ depth induction =>
      unfold Grammar.resolve
      split
      · exact invariant.raisedByReading _ _ trivial
      · rename_i parser found
        exact invariant.step induction (defined name parser found) cursor

theorem parse {grammar : Grammar} (defined : grammar.SuppliesOnly Allowed) {parser : Parser}
    (supplied : parser.SuppliesOnly Allowed) (cursor : Cursor) :
    Holds (grammar.parse parser cursor) :=
  invariant.step (invariant.resolve defined _) supplied cursor

end Run.InvariantUnder

/-! ## Whatever is raised -/

/-- A property of runs, whatever they answer, that everything running parsers does to runs keeps. -/
structure Run.Invariant (Holds : ∀ {α : Type}, Run α → Prop) : Prop where
  done : ∀ {α : Type} (answer : α), Holds (Run.done answer)
  raised : ∀ {α : Type} (origin : Origin) (error : Error) (cursor : Cursor),
    Holds (Run.raised origin error cursor : Run α)
  entered : ∀ {α : Type} (cursor : Cursor) {run : Run α}, Holds run →
    Holds (run.after (.entered cursor))
  map : ∀ {α β : Type} (transform : α → β) {run : Run α}, Holds run → Holds (run.map transform)
  andThen : ∀ {α β : Type} {run : Run α} {next : α → Run β}, Holds run →
    (∀ answer, Holds (next answer)) → Holds (run.andThen next)
  orElse : ∀ {α : Type} {run : Run α} {alternative : Unit → Run α}, Holds run →
    Holds (alternative ()) → Holds (run.orElse alternative)
  told : ∀ (tag : String) (ahead : List Char) (cursor : Cursor) {run : Run Reply}, Holds run →
    Holds (run.toldAs tag ahead cursor)

namespace Run.Invariant

variable {Holds : ∀ {α : Type}, Run α → Prop} (invariant : Run.Invariant @Holds)

include invariant

theorem underAll : Run.InvariantUnder (fun _ => True) @Holds where
  ofReading _ _ := trivial
  done := invariant.done
  raised origin _ cursor _ := invariant.raised origin _ cursor
  entered := invariant.entered
  map := invariant.map
  andThen := invariant.andThen
  orElse := invariant.orElse
  told := invariant.told

/-- If following names keeps an invariant, every parser keeps it. -/
theorem step {resolve : String → Cursor → Run Reply}
    (resolves : ∀ name cursor, Holds (resolve name cursor)) (parser : Parser) (cursor : Cursor) :
    Holds (parser.step resolve cursor) :=
  invariant.underAll.step resolves parser.suppliesOnly_true cursor

theorem resolve (grammar : Grammar) (depth : Nat) (name : String) (cursor : Cursor) :
    Holds (grammar.resolve depth name cursor) :=
  invariant.underAll.resolve (fun _ parser _ => parser.suppliesOnly_true) depth name cursor

theorem parse (grammar : Grammar) (parser : Parser) (cursor : Cursor) :
    Holds (grammar.parse parser cursor) :=
  invariant.step (invariant.resolve grammar _) parser cursor

end Run.Invariant

end CursorParsing
