import CursorParsing.Proofs.Invocations

/-!
# Where a failure comes from

Losing alternatives, ended loops and fallbacks leave mismatches behind, but a run that fails ends in the
last one that was raised. It was raised by a recogniser, by something that was supplied with the
grammar, or by a repetition that came out short; everybody else passes it on as it is.
-/

namespace CursorParsing

/-! ## Passing on -/

/-- A part of a run ended in a mismatch and the whole ended in the same one. After the part nothing
happened but that traced attempts told of the failure. -/
structure Run.IsPassedOn {α β : Type} (cause : Mismatch) (part : Run α) (earlier : List Event)
    (whole : Run β) : Prop where
  part_ending : part.ending = .error (.mismatch cause)
  whole_ending : whole.ending = .error (.mismatch cause)
  history : ∃ closings, whole.history = earlier ++ part.history ++ closings ∧
    ∀ event ∈ closings, ∃ tag, event = .failed tag cause

namespace Run

variable {α β γ : Type} {cause : Mismatch}

namespace IsPassedOn

theorem refl {run : Run α} (failed : run.ending = .error (.mismatch cause)) :
    run.IsPassedOn cause [] run :=
  ⟨failed, failed, [], by simp, List.forall_mem_nil _⟩

theorem trans {part : Run α} {middle : Run β} {whole : Run γ} {earlier later : List Event}
    (inner : part.IsPassedOn cause later middle) (outer : middle.IsPassedOn cause earlier whole) :
    part.IsPassedOn cause (earlier ++ later) whole := by
  rcases inner.history with ⟨innerClosings, middleHistory, innerFailed⟩
  rcases outer.history with ⟨outerClosings, wholeHistory, outerFailed⟩
  refine ⟨inner.part_ending, outer.whole_ending, innerClosings ++ outerClosings, ?_,
    List.forall_mem_append.mpr ⟨innerFailed, outerFailed⟩⟩
  rw [wholeHistory, middleHistory]
  simp only [List.append_assoc]

end IsPassedOn

theorem isPassedOn_map (transform : α → β) {run : Run α}
    (failed : run.ending = .error (.mismatch cause)) :
    run.IsPassedOn cause [] (run.map transform) :=
  ⟨failed, by simp [failed, Except.map], [], by simp, List.forall_mem_nil _⟩

theorem isPassedOn_after (event : Event) {run : Run α}
    (failed : run.ending = .error (.mismatch cause)) :
    run.IsPassedOn cause [event] (run.after event) :=
  ⟨failed, failed, [], by simp, List.forall_mem_nil _⟩

theorem isPassedOn_andThen {run : Run α} (next : α → Run β)
    (failed : run.ending = .error (.mismatch cause)) :
    run.IsPassedOn cause [] (run.andThen next) := by
  rw [andThen_of_error next failed]
  exact ⟨failed, rfl, [], by simp, List.forall_mem_nil _⟩

theorem next_isPassedOn_andThen {run : Run α} {answer : α} (next : α → Run β)
    (ended : run.ending = .ok answer) (failed : (next answer).ending = .error (.mismatch cause)) :
    (next answer).IsPassedOn cause run.history (run.andThen next) := by
  rw [andThen_of_ok next ended]
  exact ⟨failed, failed, [], by simp, List.forall_mem_nil _⟩

theorem alternative_isPassedOn_orElse {run : Run α} {first : Mismatch} (alternative : Unit → Run α)
    (ended : run.ending = .error (.mismatch first))
    (failed : (alternative ()).ending = .error (.mismatch cause)) :
    (alternative ()).IsPassedOn cause run.history (run.orElse alternative) := by
  rw [orElse_of_mismatch alternative ended]
  exact ⟨failed, failed, [], by simp, List.forall_mem_nil _⟩

theorem isPassedOn_toldAs (tag : String) (ahead : List Char) (cursor : Cursor) {run : Run Reply}
    (failed : run.ending = .error (.mismatch cause)) :
    run.IsPassedOn cause [.trying tag ahead] (run.toldAs tag ahead cursor) := by
  refine ⟨failed, failed, [.failed tag cause], ?_, List.forall_mem_singleton.mpr ⟨tag, rfl⟩⟩
  simp [toldAs, closingsOf, failed]

end Run

/-! ## Loops absorb -/

section Loops

variable {attempt : Cursor → Run Reply}

theorem isPassedOn_collectSome {cause : Mismatch} {cursor : Cursor}
    (failed : (collectSome attempt cursor).ending = .error (.mismatch cause)) :
    (attempt cursor).IsPassedOn cause [] (collectSome attempt cursor) := by
  have firstFailed := collectSome_eq_mismatch_iff.mp failed
  rw [collectSome_eq]
  exact Run.isPassedOn_andThen _ firstFailed

/-- A repetition fails by itself, when its loop has ended. -/
theorem collectExactly_eq_mismatch {cause : Mismatch} {count : Count} {cursor : Cursor}
    (failed : (collectExactly attempt count cursor).ending = .error (.mismatch cause)) :
    ∃ collection, (collectCounted attempt count.rounds cursor).ending = .ok collection ∧
      count.isMetBy collection.values.length = false ∧
      collection.cursor.refusal
          (.repetitionShort count.requested collection.values.length collection.values) =
        .mismatch cause := by
  rw [collectExactly_eq] at failed
  rcases Run.andThen_eq_error failed with loopFailed | ⟨collection, collected, short⟩
  · exact absurd loopFailed (collectCounted_neverMismatches _ cursor cause)
  · unfold Count.check at short
    split at short
    · cases short
    · rename_i notMet
      exact ⟨collection, collected, Bool.eq_false_iff.mpr notMet, Except.error.inj short⟩

end Loops

/-- Parsers that may answer although something that they called did not match. -/
def Parser.Recovers : Parser → Prop
  | .orElse .. | .zeroOrMore _ | .oneOrMore _ | .repeated .. => True
  | _ => False

/-! ## Who raises -/

/-- What is told at a cursor is the mismatch with the snippet of that place. -/
def Cursor.Tells (cursor : Cursor) (tell : List Char → Mismatch) : Prop :=
  cursor.refusal tell = .mismatch (tell cursor.snippet)

theorem Cursor.tells_of_refusal {cursor : Cursor} {tell : List Char → Mismatch} {cause : Mismatch}
    (refused : cursor.refusal tell = .mismatch cause) :
    cursor.Tells tell ∧ cause = tell cursor.snippet := by
  have told := refusal_eq_mismatch refused
  rw [told] at refused
  exact ⟨refused, told⟩

namespace Grammar

/-- An invocation raises a mismatch of its own: a recogniser of what is ahead of it, where it shows
the snippet of that place; a supplied predicate or parser as it likes; and a repetition where its
matches ended, too few of them. -/
inductive Raises (grammar : Grammar) : Invocation → Origin → Mismatch → (place : Cursor) → Prop
  | symbol {accepts : Value → Outcome Bool} {cursor : Cursor} {depth : Nat}
      (refused : ∀ symbol, cursor.source.symbol? cursor.position = some symbol →
        accepts symbol = .ok false)
      (told : cursor.Tells .predicateFailed) :
      Raises grammar ⟨.symbolThat accepts, cursor, depth⟩ .recogniser
        (.predicateFailed cursor.snippet) cursor
  | predicate {accepts : Value → Outcome Bool} {cursor : Cursor} {depth : Nat} {symbol : Value}
      {cause : Mismatch} (found : cursor.source.symbol? cursor.position = some symbol)
      (complained : accepts symbol = .error (.mismatch cause)) :
      Raises grammar ⟨.symbolThat accepts, cursor, depth⟩ .supplied cause cursor
  | literal {expected : Value} {literal : Source} {cursor : Cursor} {depth : Nat}
      (isSequence : Source.ofValue? expected = some literal)
      (differs : cursor.startsWith literal = false)
      (told : cursor.Tells (.expectedPrefix expected)) :
      Raises grammar ⟨.literal expected, cursor, depth⟩ .recogniser
        (.expectedPrefix expected cursor.snippet) cursor
  | endOfInput {cursor : Cursor} {depth : Nat} (symbolsLeft : cursor.isAtEnd = false)
      (told : cursor.Tells .expectedEndOfInput) :
      Raises grammar ⟨.endOfInput, cursor, depth⟩ .recogniser
        (.expectedEndOfInput cursor.snippet) cursor
  | supplied {cause : Mismatch} {cursor : Cursor} {depth : Nat} :
      Raises grammar ⟨.raise (.mismatch cause), cursor, depth⟩ .supplied cause cursor
  | repetition {inner : Parser} {count : Count} {cursor : Cursor} {depth : Nat}
      {collection : Collection}
      (collected : (collectCounted (inner.step (grammar.resolve depth)) count.rounds cursor).ending =
        .ok collection)
      (short : count.isMetBy collection.values.length = false)
      (told : collection.cursor.Tells
        (.repetitionShort count.requested collection.values.length collection.values)) :
      Raises grammar ⟨.repeated inner count, cursor, depth⟩ .repetition
        (.repetitionShort count.requested collection.values.length collection.values
          collection.cursor.snippet)
        collection.cursor

variable {grammar : Grammar} {whole : Invocation} {origin : Origin} {cause : Mismatch}
  {place : Cursor}

theorem Raises.reachesTo (raises : grammar.Raises whole origin cause place) :
    whole.cursor.ReachesTo place := by
  cases raises with
  | symbol | predicate | literal | endOfInput | supplied => exact .refl _
  | @repetition inner _ _ depth _ collected _ _ =>
      exact collectCounted_reachesTo (grammar.advances_step depth inner) _ _ collected

/-- Raising is the last thing that is done. -/
theorem Raises.history (raises : grammar.Raises whole origin cause place) :
    ∃ before, (grammar.invoke whole).history = before ++ [.raised origin (.mismatch cause) place] := by
  cases raises with
  | @symbol accepts _ _ refused told =>
      have reads : readSymbol accepts place =
          .raised .recogniser (.mismatch (.predicateFailed place.snippet)) place := by
        rw [← told, readSymbol_eq]
        split
        · rfl
        · rename_i symbol found
          rw [refused symbol found]
          rfl
      refine ⟨[.entered place], ?_⟩
      simp only [invoke, Parser.step, reads]
      rfl
  | @predicate accepts _ _ _ _ found complained =>
      have reads : readSymbol accepts place = .raised .supplied (.mismatch cause) place := by
        rw [readSymbol_eq, found]
        simp only [complained]
      refine ⟨[.entered place], ?_⟩
      simp only [invoke, Parser.step, reads]
      rfl
  | @literal expected literal _ _ isSequence differs told =>
      have reads : readLiteral expected place =
          .raised .recogniser (.mismatch (.expectedPrefix expected place.snippet)) place := by
        rw [← told, readLiteral_eq, isSequence]
        simp [differs]
      refine ⟨[.entered place], ?_⟩
      simp only [invoke, Parser.step, reads]
      rfl
  | endOfInput symbolsLeft told =>
      refine ⟨[.entered place], ?_⟩
      rw [← told]
      simp [invoke, Parser.step, readEnd, symbolsLeft]
  | supplied => exact ⟨[.entered _], rfl⟩
  | @repetition inner count cursor depth collection collected short told =>
      have checked : count.check collection = .raised .repetition
          (.mismatch (.repetitionShort count.requested collection.values.length collection.values
            collection.cursor.snippet)) collection.cursor := by
        rw [← told]
        simp [Count.check, short]
      refine ⟨.entered cursor ::
        (collectCounted (inner.step (grammar.resolve depth)) count.rounds cursor).history, ?_⟩
      simp only [invoke, Parser.step, collectExactly_eq, Run.history_after, Run.history_map,
        Run.andThen_of_ok _ collected, checked, Run.history_raised, List.cons_append]

section Recognisers

variable {cursor : Cursor} {depth : Nat}

theorem raises_symbolThat {accepts : Value → Outcome Bool}
    (failed : (readSymbol accepts cursor).ending = .error (.mismatch cause)) :
    ∃ origin place, grammar.Raises ⟨.symbolThat accepts, cursor, depth⟩ origin cause place := by
  rw [readSymbol_eq] at failed
  rcases found : cursor.source.symbol? cursor.position with _ | symbol
  · rw [found] at failed
    rcases Cursor.tells_of_refusal (Except.error.inj failed) with ⟨told, rfl⟩
    exact ⟨_, _, .symbol (by simp [found]) told⟩
  · rcases judged : accepts symbol with error | (_ | _) <;> simp only [found, judged] at failed
    · cases failed
      exact ⟨_, _, .predicate found judged⟩
    · rcases Cursor.tells_of_refusal (Except.error.inj failed) with ⟨told, rfl⟩
      exact ⟨_, _, .symbol (by simp [found, judged]) told⟩
    · cases failed

theorem raises_literal {expected : Value}
    (failed : (readLiteral expected cursor).ending = .error (.mismatch cause)) :
    ∃ origin place, grammar.Raises ⟨.literal expected, cursor, depth⟩ origin cause place := by
  rw [readLiteral_eq] at failed
  rcases isSequence : Source.ofValue? expected with _ | literal
  · rw [isSequence] at failed
    cases failed
  · rw [isSequence] at failed
    dsimp only at failed
    split at failed
    · cases failed
    · rename_i differs
      rcases Cursor.tells_of_refusal (Except.error.inj failed) with ⟨told, rfl⟩
      exact ⟨_, _, .literal isSequence (Bool.eq_false_iff.mpr differs) told⟩

theorem raises_endOfInput (failed : (readEnd cursor).ending = .error (.mismatch cause)) :
    ∃ origin place, grammar.Raises ⟨.endOfInput, cursor, depth⟩ origin cause place := by
  unfold readEnd at failed
  split at failed
  · cases failed
  · rename_i symbolsLeft
    rcases Cursor.tells_of_refusal (Except.error.inj failed) with ⟨told, rfl⟩
    exact ⟨_, _, .endOfInput (Bool.eq_false_iff.mpr symbolsLeft) told⟩

end Recognisers

/-! ## Who passes on -/

/-- What fails either raises the mismatch itself or passes on that of the last one it called. -/
theorem raises_or_passesOn (failed : (grammar.invoke whole).ending = .error (.mismatch cause)) :
    (∃ origin place, grammar.Raises whole origin cause place) ∨
      ∃ earlier part, grammar.Calls whole earlier part ∧
        (grammar.invoke part).IsPassedOn cause earlier (grammar.invoke whole) := by
  rcases whole with ⟨parser, cursor, depth⟩
  cases parser with
  | pure value => cases failed
  | raise error =>
      cases failed
      exact .inl ⟨_, _, .supplied⟩
  | symbolThat accepts => exact .inl (raises_symbolThat failed)
  | literal expected => exact .inl (raises_literal failed)
  | endOfInput => exact .inl (raises_endOfInput failed)
  | flatMap first next =>
      rw [invoke_flatMap] at failed ⊢
      rcases Run.andThen_eq_error failed with firstFailed | ⟨reply, matched, nextFailed⟩
      · exact .inr ⟨_, _, .first, Run.isPassedOn_andThen _ firstFailed⟩
      · have passedOn := Run.next_isPassedOn_andThen
          (fun reply : Reply => grammar.invoke ⟨next reply.value, reply.cursor, depth⟩) matched
          nextFailed
        exact .inr ⟨_, _, .next matched, passedOn⟩
  | orElse first second =>
      rw [invoke_orElse] at failed ⊢
      rcases Run.orElse_eq_mismatch failed with ⟨⟨_, firstFailed⟩, secondFailed⟩
      have passedOn := Run.alternative_isPassedOn_orElse
        (fun _ => grammar.invoke ⟨second, cursor, depth⟩) firstFailed secondFailed
      exact .inr ⟨_, _, .alternative firstFailed, passedOn⟩
  | zeroOrMore inner =>
      have loopFailed := Run.map_eq_error failed
      exact absurd loopFailed (collect_neverMismatches _ cursor cause)
  | oneOrMore inner =>
      have loopFailed := Run.map_eq_error failed
      have passedOn := (isPassedOn_collectSome loopFailed).trans
        (Run.isPassedOn_map Collection.toReply loopFailed)
      exact .inr ⟨_, _, .oneOrMore (.start cursor), passedOn⟩
  | repeated inner count =>
      rcases collectExactly_eq_mismatch (Run.map_eq_error failed) with
        ⟨collection, collected, short, refused⟩
      rcases Cursor.tells_of_refusal refused with ⟨told, rfl⟩
      exact .inl ⟨_, _, .repetition collected short told⟩
  | named name inner => exact .inr ⟨_, _, .named, .refl failed⟩
  | traced tag inner =>
      rcases shown : cursor.snippet? with fault | ahead
      · cases (congrArg Run.ending (traceAttempt_of_unshown shown)).symm.trans failed
      · rw [invoke_traced shown] at failed ⊢
        exact .inr ⟨_, _, .traced shown, Run.isPassedOn_toldAs tag ahead cursor failed⟩
  | reference name =>
      cases depth with
      | zero => cases failed
      | succ depth =>
          rcases found : grammar.find? name with _ | parser
          · simp [invoke, Parser.step, resolve, found] at failed
          · rw [invoke_reference found] at failed ⊢
            exact .inr ⟨_, _, .reference found, Run.isPassedOn_after _ failed⟩

/-- What recovers from nothing passes on every mismatch of what it calls. -/
theorem Calls.isPassedOn {earlier : List Event} {part : Invocation}
    (calls : grammar.Calls whole earlier part) (recoversNot : ¬whole.parser.Recovers)
    (failed : (grammar.invoke part).ending = .error (.mismatch cause)) :
    (grammar.invoke part).IsPassedOn cause earlier (grammar.invoke whole) := by
  cases calls with
  | first => exact Run.isPassedOn_andThen _ failed
  | @next first next cursor depth reply matched =>
      exact Run.next_isPassedOn_andThen
        (fun reply : Reply => grammar.invoke ⟨next reply.value, reply.cursor, depth⟩) matched failed
  | preferred | alternative | zeroOrMore | oneOrMore | repeated =>
      exact absurd trivial recoversNot
  | named => exact .refl failed
  | traced shown =>
      rw [invoke_traced shown]
      exact Run.isPassedOn_toldAs _ _ _ failed
  | reference found =>
      rw [invoke_reference found]
      exact Run.isPassedOn_after _ failed

/-- A failure leads down to the one who raised it. -/
theorem exists_raises (failed : (grammar.invoke whole).ending = .error (.mismatch cause)) :
    ∃ earlier source origin place, grammar.Contains whole earlier source ∧
      grammar.Raises source origin cause place ∧
      (grammar.invoke source).IsPassedOn cause earlier (grammar.invoke whole) := by
  induction whole using (Calls.wellFounded grammar).induction with
  | h whole called =>
      rcases raises_or_passesOn failed with ⟨origin, place, raises⟩ | ⟨earlier, part, calls, passedOn⟩
      · exact ⟨[], whole, origin, place, .itself whole, raises, .refl failed⟩
      · rcases called part ⟨earlier, calls⟩ passedOn.part_ending with
          ⟨later, source, origin, place, contains, raises, fromSource⟩
        exact ⟨earlier ++ later, source, origin, place, .inner calls contains, raises,
          fromSource.trans passedOn⟩

/-- A run that fails ends in the last mismatch that was raised in it, by an invocation in the same
source and not before the cursor of the whole; afterwards only traced attempts told of it. No
invocation changes a mismatch: one that fails has raised the mismatch itself or ends in that of the
last one it called, and one that recovers from nothing ends in any mismatch of what it calls. -/
theorem mismatch_provenance (grammar : Grammar) (parser : Parser) (cursor : Cursor) :
    (∀ cause, (grammar.parse parser cursor).ending = .error (.mismatch cause) →
        ∃ earlier source origin place before closings,
          grammar.Contains (grammar.outermost parser cursor) earlier source ∧
            grammar.Raises source origin cause place ∧
            place.source = cursor.source ∧ cursor.position ≤ place.position ∧
            (grammar.parse parser cursor).history =
              earlier ++ before ++ .raised origin (.mismatch cause) place :: closings ∧
            ∀ event ∈ closings, ∃ tag, event = .failed tag cause) ∧
      ∀ earlier whole, grammar.Contains (grammar.outermost parser cursor) earlier whole →
        (∀ cause, (grammar.invoke whole).ending = .error (.mismatch cause) →
            (∃ origin place, grammar.Raises whole origin cause place) ∨
              ∃ before part, grammar.Calls whole before part ∧
                (grammar.invoke part).IsPassedOn cause before (grammar.invoke whole)) ∧
          ∀ before part cause, grammar.Calls whole before part → ¬whole.parser.Recovers →
            (grammar.invoke part).ending = .error (.mismatch cause) →
              (grammar.invoke part).IsPassedOn cause before (grammar.invoke whole) := by
  constructor
  · intro cause failed
    have invoked : (grammar.invoke (grammar.outermost parser cursor)).ending =
        .error (.mismatch cause) := failed
    rcases exists_raises invoked with
      ⟨earlier, source, origin, place, contains, raises, passedOn⟩
    have reaches := contains.reachesTo.trans raises.reachesTo
    rcases raises.history with ⟨before, sourceHistory⟩
    rcases passedOn.history with ⟨closings, wholeHistory, told⟩
    refine ⟨earlier, source, origin, place, before, closings, contains, raises, reaches.source_eq,
      reaches.position_le, ?_, told⟩
    rw [invoke_outermost, sourceHistory] at wholeHistory
    rw [wholeHistory]
    simp only [List.append_assoc, List.singleton_append]
  · intro earlier whole _
    constructor
    · intro cause failed
      exact raises_or_passesOn failed
    · intro before part cause calls recoversNot failed
      exact calls.isPassedOn recoversNot failed

/-- A loop that ends and an alternative that is given up both leave a mismatch behind. -/
private def grade : Parser :=
  (Parser.zeroOrMore (.word ['a'])).keepRight (.orElse (.word ['b']) (.traced "grade" .endOfInput))

/-- The failure is that of the last attempt, one symbol further on than the run began. -/
theorem mismatch_provenance_grade :
    ∃ before origin place closings,
      (empty.parse grade (.start (.text #['a', 'x']))).history =
          before ++ .raised origin (.mismatch (.expectedEndOfInput ['x'])) place :: closings ∧
        place.source = .text #['a', 'x'] ∧
        ∀ event ∈ closings, ∃ tag, event = .failed tag (.expectedEndOfInput ['x']) := by
  have failed : (empty.parse grade (.start (.text #['a', 'x']))).ending =
      .error (.mismatch (.expectedEndOfInput ['x'])) := rfl
  have provenance := empty.mismatch_provenance grade (.start (.text #['a', 'x']))
  rcases provenance.1 _ failed with
    ⟨_, _, origin, place, _, closings, _, _, sameSource, _, history, told⟩
  exact ⟨_, origin, place, closings, history, sameSource, told⟩

end Grammar

end CursorParsing
