import CursorParsing.Proofs.Suffix

/-!
# A reading depends on what is left

A parser never looks behind the cursor it is run at. Run on the symbols that are left, as a source of
their own, it does the same, with every position counted from there.
-/

namespace CursorParsing

/-! ## A cursor seen in a longer source -/

namespace Source

@[simp] theorem size_slice (source : Source) (first last : Nat) :
    (source.slice first last).size = min last source.size - first := by
  cases source <;> simp [slice, size]

/-- All ends past the end of the source are the same end. -/
theorem slice_eq_of_size_le {source : Source} {last other : Nat} (first : Nat)
    (lastOutside : source.size ≤ last) (otherOutside : source.size ≤ other) :
    source.slice first last = source.slice first other := by
  cases source <;>
    simp only [slice, size, Source.text.injEq, Source.bytes.injEq, Source.buffer.injEq,
      Source.list.injEq, Source.tuple.injEq] at lastOutside otherOutside ⊢ <;>
    · rw [Array.extract_eq_extract_right]
      omega

/-- A part of what is left after some symbols is a part of the whole. -/
theorem slice_slice (source : Source) (skipped first last : Nat) :
    (source.slice skipped source.size).slice first last =
      source.slice (skipped + first) (skipped + last) := by
  cases source <;>
    simp only [slice, size, Array.extract_extract, Source.text.injEq, Source.bytes.injEq,
      Source.buffer.injEq, Source.list.injEq, Source.tuple.injEq] <;>
    · rw [Array.extract_eq_extract_right]
      omega

end Source

namespace Cursor

/-- A cursor in what is left from `base` on, as a cursor in the source of `base`. -/
def embed (base cursor : Cursor) : Cursor := ⟨base.source, base.position + cursor.position⟩

@[simp] theorem source_embed (base cursor : Cursor) :
    (base.embed cursor).source = base.source := rfl

@[simp] theorem position_embed (base cursor : Cursor) :
    (base.embed cursor).position = base.position + cursor.position := rfl

theorem embed_forward (base cursor : Cursor) (count : Nat) :
    base.embed (cursor.forward count) = (base.embed cursor).forward count := by
  simp [embed, forward, Nat.add_assoc]

theorem size_remaining (base : Cursor) : base.remaining.size = base.length := by
  simp [remaining, length]

section Embedded

variable {base cursor : Cursor} (inRemaining : cursor.source = base.remaining)

include inRemaining

theorem length_embed : (base.embed cursor).length = cursor.length := by
  have size := base.size_remaining
  simp only [length, source_embed, position_embed, inRemaining] at size ⊢
  omega

theorem isAtEnd_embed : (base.embed cursor).isAtEnd = cursor.isAtEnd := by
  have size : base.remaining.size = base.source.size - base.position := base.size_remaining
  have sameRoom : base.source.size ≤ base.position + cursor.position ↔
      base.remaining.size ≤ cursor.position := by
    rw [size]
    omega
  simp only [isAtEnd, source_embed, position_embed, inRemaining, sameRoom]

theorem symbol?_embed :
    (base.embed cursor).source.symbol? (base.embed cursor).position =
      cursor.source.symbol? cursor.position := by
  rw [Source.symbol?_eq_getElem?, Source.symbol?_eq_getElem?, inRemaining, symbols_remaining,
    List.getElem?_drop]
  rfl

theorem remaining_embed : (base.embed cursor).remaining = cursor.remaining := by
  have size := base.size_remaining
  simp only [remaining, source_embed, position_embed, inRemaining, length] at size ⊢
  rw [Source.slice_slice, size]
  exact Source.slice_eq_of_size_le _ (Nat.le_refl _) (by omega)

theorem sliceAhead_embed (count : Nat) :
    (base.embed cursor).sliceAhead count = cursor.sliceAhead count := by
  have notNegative (position : Nat) : ¬(position : Int) + count < 0 := by omega
  simp only [sliceAhead, notNegative, if_false, source_embed, position_embed, inRemaining,
    remaining, Source.slice_slice]
  congr 1
  omega

theorem snippet?_embed : (base.embed cursor).snippet? = cursor.snippet? := by
  unfold snippet? isShowable snippet
  rw [sliceAhead_embed inRemaining, length_embed inRemaining]

theorem refusal_embed (tell : List Char → Mismatch) :
    (base.embed cursor).refusal tell = cursor.refusal tell := by
  rw [refusal, snippet?_embed inRemaining, refusal]

/-- Past the end even the empty literal is no continuation, so the base must lie in its source. -/
theorem startsWith_embed (inside : base.position ≤ base.source.size) (literal : Source) :
    (base.embed cursor).startsWith literal = cursor.startsWith literal := by
  have size := base.size_remaining
  have sameRoom : base.position + cursor.position + literal.size ≤ base.source.size ↔
      cursor.position + literal.size ≤ base.remaining.size := by
    rw [size, length]
    omega
  simp only [startsWith, source_embed, position_embed, inRemaining, sameRoom]
  rw [remaining, Source.slice_slice, Nat.add_assoc]

end Embedded

end Cursor

/-! ## A run seen in a longer source -/

def Reply.embed (base : Cursor) (reply : Reply) : Reply := ⟨reply.value, base.embed reply.cursor⟩

def Collection.embed (base : Cursor) (collection : Collection) : Collection :=
  ⟨collection.values, base.embed collection.cursor⟩

/-- Only two kinds of events hold a cursor; the texts that are logged hold none. -/
def Event.embed (base : Cursor) : Event → Event
  | .entered cursor => .entered (base.embed cursor)
  | .raised origin error cursor => .raised origin error (base.embed cursor)
  | .trying tag ahead => .trying tag ahead
  | .matched tag value consumed => .matched tag value consumed
  | .failed tag cause => .failed tag cause

theorem logLines_embed (base : Cursor) (history : List Event) :
    logLines (history.map (Event.embed base)) = logLines history := by
  have sameLine : (Event.logLine? ∘ Event.embed base) = Event.logLine? := by
    funext event
    cases event <;> rfl
  rw [logLines, logLines, List.filterMap_map, sameLine]

namespace Run

variable {α β : Type} (base : Cursor)

/-- A run with its answer and its events placed in the source of `base`. -/
def embed (place : α → α) (run : Run α) : Run α :=
  ⟨run.ending.map place, run.history.map (Event.embed base)⟩

theorem embed_done (place : α → α) (answer : α) :
    (done answer).embed base place = done (place answer) := rfl

theorem embed_after_entered (place : α → α) (cursor : Cursor) (run : Run α) :
    (run.after (.entered cursor)).embed base place =
      (run.embed base place).after (.entered (base.embed cursor)) := rfl

theorem embed_map {place : α → α} {placeResult : β → β} {transform : α → β}
    (commutes : ∀ answer, placeResult (transform answer) = transform (place answer)) (run : Run α) :
    (run.map transform).embed base placeResult = (run.embed base place).map transform := by
  rcases ended : run.ending with error | answer <;> simp [embed, map, ended, Except.map, commutes]

theorem embed_toReply (run : Run Collection) :
    (run.map Collection.toReply).embed base (Reply.embed base) =
      (run.embed base (Collection.embed base)).map Collection.toReply := by
  apply embed_map
  intro collection
  rfl

theorem embed_cons (value : Value) (run : Run Collection) :
    (run.map (.cons value)).embed base (Collection.embed base) =
      (run.embed base (Collection.embed base)).map (.cons value) := by
  apply embed_map
  intro collection
  rfl

theorem embed_andThen {place : α → α} {placeNext : β → β} {run : Run α} {next next' : α → Run β}
    (nextEmbeds : ∀ answer, run.ending = .ok answer →
      next' (place answer) = (next answer).embed base placeNext) :
    (run.andThen next).embed base placeNext = (run.embed base place).andThen next' := by
  rcases ended : run.ending with error | answer
  · simp [embed, andThen, ended, Except.map]
  · simp [embed, andThen, ended, Except.map, nextEmbeds answer ended]

theorem embed_orElse {place : α → α} {run : Run α} {alternative alternative' : Unit → Run α}
    (alternativeEmbeds : alternative' () = (alternative ()).embed base place) :
    (run.orElse alternative).embed base place = (run.embed base place).orElse alternative' := by
  rcases ended : run.ending with (cause | fault) | answer <;>
    simp [embed, orElse, ended, Except.map, alternativeEmbeds]

theorem embed_round {run : Run Reply} {cursor : Cursor} {goOn goOn' : Reply → Run Collection}
    (goOnEmbeds : ∀ reply, run.ending = .ok reply →
      goOn' (reply.embed base) = (goOn reply).embed base (Collection.embed base)) :
    (run.round cursor goOn).embed base (Collection.embed base) =
      (run.embed base (Reply.embed base)).round (base.embed cursor) goOn' := by
  rcases ended : run.ending with (cause | fault) | reply
  · have embedded : (run.embed base (Reply.embed base)).ending = .error (.mismatch cause) := by
      simp [embed, ended, Except.map]
    rw [round_of_mismatch _ ended, round_of_mismatch _ embedded]
    rfl
  · have embedded : (run.embed base (Reply.embed base)).ending = .error (.fault fault) := by
      simp [embed, ended, Except.map]
    rw [round_of_fault _ ended, round_of_fault _ embedded]
    rfl
  · have embedded : (run.embed base (Reply.embed base)).ending = .ok (reply.embed base) := by
      simp [embed, ended, Except.map]
    rw [round_of_ok _ ended, round_of_ok _ embedded, goOnEmbeds reply ended]
    rcases laterEnded : (goOn reply).ending with error | later <;>
      simp [embed, laterEnded, Except.map, Collection.cons, Collection.embed, Reply.embed]

end Run

/-! ## One step -/

/-- What is done at a cursor in the source of `base` is what is done at the same place in what is left
from there. -/
def Agrees (base : Cursor) (there here : Cursor → Run Reply) : Prop :=
  ∀ cursor, cursor.source = base.remaining →
    there (base.embed cursor) = (here cursor).embed base (Reply.embed base)

section Recognisers

variable {base : Cursor}

theorem agrees_readSymbol (accepts : Value → Outcome Bool) :
    Agrees base (readSymbol accepts) (readSymbol accepts) := by
  intro cursor inRemaining
  have refused : refuseSymbol (base.embed cursor) =
      (refuseSymbol cursor).embed base (Reply.embed base) := by
    rw [refuseSymbol, Cursor.refusal_embed inRemaining]
    rfl
  rw [readSymbol_eq, readSymbol_eq, Cursor.symbol?_embed inRemaining]
  rcases cursor.source.symbol? cursor.position with _ | symbol
  · exact refused
  · rcases judged : accepts symbol with error | (_ | _) <;> simp only [judged]
    · rfl
    · exact refused
    · rw [Run.embed_done, Reply.embed, Cursor.embed_forward]

theorem agrees_readLiteral (inside : base.position ≤ base.source.size) (expected : Value) :
    Agrees base (readLiteral expected) (readLiteral expected) := by
  intro cursor inRemaining
  rw [readLiteral_eq, readLiteral_eq]
  rcases Source.ofValue? expected with _ | literal
  · rfl
  · simp only [Cursor.startsWith_embed inRemaining inside, Cursor.refusal_embed inRemaining]
    split
    · rw [Run.embed_done, Reply.embed, Cursor.embed_forward]
    · rfl

theorem agrees_readEnd : Agrees base readEnd readEnd := by
  intro cursor inRemaining
  simp only [readEnd, Cursor.isAtEnd_embed inRemaining, Cursor.refusal_embed inRemaining]
  split <;> rfl

end Recognisers

section Loops

variable {base : Cursor} {there here : Cursor → Run Reply}

theorem unlessStill_embed {goOn goOn' : Cursor → Run Collection} (cursor : Cursor) (reply : Reply)
    (goOnEmbeds : goOn' (base.embed reply.cursor) =
      (goOn reply.cursor).embed base (Collection.embed base)) :
    Run.unlessStill (base.embed cursor) goOn' (reply.embed base) =
      (Run.unlessStill cursor goOn reply).embed base (Collection.embed base) := by
  have still : (reply.embed base).cursor.position = (base.embed cursor).position ↔
      reply.cursor.position = cursor.position := Nat.add_left_cancel_iff
  simp only [Run.unlessStill, still]
  split
  · rfl
  · exact goOnEmbeds

variable (agrees : Agrees base there here) (advances : Advances here)

include agrees advances

theorem collect_embed (bound : Nat) (cursor : Cursor) (inRemaining : cursor.source = base.remaining) :
    collect there bound (base.embed cursor) =
      (collect here bound cursor).embed base (Collection.embed base) := by
  induction bound generalizing cursor with
  | zero => rfl
  | succ bound induction =>
      rw [collect_succ, collect_succ, agrees cursor inRemaining]
      symm
      apply Run.embed_round
      intro reply matched
      apply unlessStill_embed
      apply induction
      exact (advances cursor reply matched).source_eq.trans inRemaining

theorem collectUpTo_embed (rounds : Nat) (cursor : Cursor)
    (inRemaining : cursor.source = base.remaining) :
    collectUpTo there rounds (base.embed cursor) =
      (collectUpTo here rounds cursor).embed base (Collection.embed base) := by
  induction rounds generalizing cursor with
  | zero => rfl
  | succ rounds induction =>
      rw [collectUpTo_succ, collectUpTo_succ, agrees cursor inRemaining]
      symm
      apply Run.embed_round
      intro reply matched
      apply induction
      exact (advances cursor reply matched).source_eq.trans inRemaining

theorem collectAll_embed (cursor : Cursor) (inRemaining : cursor.source = base.remaining) :
    collectAll there (base.embed cursor) =
      (collectAll here cursor).embed base (Collection.embed base) := by
  rw [collectAll, Cursor.length_embed inRemaining]
  exact collect_embed agrees advances _ cursor inRemaining

theorem collectSome_embed (cursor : Cursor) (inRemaining : cursor.source = base.remaining) :
    collectSome there (base.embed cursor) =
      (collectSome here cursor).embed base (Collection.embed base) := by
  rw [collectSome_eq, collectSome_eq, agrees cursor inRemaining]
  symm
  apply Run.embed_andThen
  intro reply matched
  have onward : reply.cursor.source = base.remaining :=
    (advances cursor reply matched).source_eq.trans inRemaining
  rw [unlessStill_embed cursor reply (collectAll_embed agrees advances reply.cursor onward)]
  exact (Run.embed_cons base reply.value _).symm

theorem collectUntilMismatch_embed (cursor : Cursor)
    (inRemaining : cursor.source = base.remaining) :
    collectUntilMismatch there (base.embed cursor) =
      (collectUntilMismatch here cursor).embed base (Collection.embed base) := by
  rw [collectUntilMismatch, Cursor.length_embed inRemaining,
    collectUpTo_embed agrees advances _ cursor inRemaining]
  symm
  apply Run.embed_andThen
  intro collection _
  by_cases endless : collection.values.length > cursor.length <;>
    simp only [Collection.embed, endless, if_true, if_false] <;> rfl

theorem collectCounted_embed (rounds : Option Nat) (cursor : Cursor)
    (inRemaining : cursor.source = base.remaining) :
    collectCounted there rounds (base.embed cursor) =
      (collectCounted here rounds cursor).embed base (Collection.embed base) := by
  cases rounds with
  | none => exact collectUntilMismatch_embed agrees advances cursor inRemaining
  | some rounds => exact collectUpTo_embed agrees advances rounds cursor inRemaining

omit agrees advances in
theorem check_embed (count : Count) (collection : Collection)
    (inRemaining : collection.cursor.source = base.remaining) :
    count.check (collection.embed base) =
      (count.check collection).embed base (Collection.embed base) := by
  simp only [Count.check, Collection.embed, Cursor.refusal_embed inRemaining]
  split <;> rfl

theorem collectExactly_embed (count : Count) (cursor : Cursor)
    (inRemaining : cursor.source = base.remaining) :
    collectExactly there count (base.embed cursor) =
      (collectExactly here count cursor).embed base (Collection.embed base) := by
  rw [collectExactly_eq, collectExactly_eq,
    collectCounted_embed agrees advances count.rounds cursor inRemaining]
  symm
  apply Run.embed_andThen
  intro collection collected
  apply check_embed
  have reaches := collectCounted_reachesTo advances count.rounds cursor collected
  exact reaches.source_eq.trans inRemaining

end Loops

/-- A match is told with the distance from where it began, which is the same in both sources. -/
theorem toldAs_embed (base : Cursor) (tag : String) (ahead : List Char) (cursor : Cursor)
    (run : Run Reply) :
    (run.embed base (Reply.embed base)).toldAs tag ahead (base.embed cursor) =
      (run.toldAs tag ahead cursor).embed base (Reply.embed base) := by
  rcases ended : run.ending with (cause | fault) | reply
  · simp [Run.toldAs, closingsOf, Run.embed, ended, Except.map, Event.embed]
  · simp [Run.toldAs, closingsOf, Run.embed, ended, Except.map, Event.embed]
  · have sameDistance : (base.position + reply.cursor.position : Int) -
        (base.position + cursor.position) = reply.cursor.position - cursor.position := by omega
    simp [Run.toldAs, closingsOf, Run.embed, ended, Except.map, Event.embed, Reply.embed, sameDistance]

theorem agrees_traceAttempt {base : Cursor} {there here : Cursor → Run Reply} (tag : String)
    (agrees : Agrees base there here) :
    Agrees base (traceAttempt tag there) (traceAttempt tag here) := by
  intro cursor inRemaining
  have same := Cursor.snippet?_embed inRemaining
  rcases shown : cursor.snippet? with fault | ahead
  · rw [traceAttempt_of_unshown (same.trans shown), traceAttempt_of_unshown shown]
    rfl
  · rw [traceAttempt_of_shown (same.trans shown), traceAttempt_of_shown shown,
      agrees cursor inRemaining, toldAs_embed]

theorem Parser.agrees_step {base : Cursor} (inside : base.position ≤ base.source.size)
    {there here : String → Cursor → Run Reply} (agrees : ∀ name, Agrees base (there name) (here name))
    (advances : ∀ name, Advances (here name)) (parser : Parser) :
    Agrees base (parser.step there) (parser.step here) := by
  induction parser with
  | pure value =>
      intro cursor _
      rfl
  | raise error =>
      intro cursor _
      rfl
  | symbolThat accepts =>
      intro cursor inRemaining
      simp only [step, agrees_readSymbol accepts cursor inRemaining, Run.embed_after_entered]
  | literal expected =>
      intro cursor inRemaining
      simp only [step, agrees_readLiteral inside expected cursor inRemaining,
        Run.embed_after_entered]
  | endOfInput =>
      intro cursor inRemaining
      simp only [step, agrees_readEnd cursor inRemaining, Run.embed_after_entered]
  | flatMap first next firstAgrees nextAgrees =>
      intro cursor inRemaining
      simp only [step, firstAgrees cursor inRemaining]
      symm
      apply Run.embed_andThen
      intro reply matched
      apply nextAgrees
      have reaches := first.advances_step advances cursor reply matched
      exact reaches.source_eq.trans inRemaining
  | orElse first second firstAgrees secondAgrees =>
      intro cursor inRemaining
      simp only [step, firstAgrees cursor inRemaining]
      symm
      apply Run.embed_orElse
      exact secondAgrees cursor inRemaining
  | zeroOrMore inner innerAgrees =>
      intro cursor inRemaining
      have collected := collectAll_embed innerAgrees (inner.advances_step advances) cursor inRemaining
      simp only [step, collected]
      exact (Run.embed_toReply base _).symm
  | oneOrMore inner innerAgrees =>
      intro cursor inRemaining
      have collected := collectSome_embed innerAgrees (inner.advances_step advances) cursor inRemaining
      simp only [step, collected]
      exact (Run.embed_toReply base _).symm
  | repeated inner count innerAgrees =>
      intro cursor inRemaining
      have collected := collectExactly_embed innerAgrees (inner.advances_step advances) count cursor
        inRemaining
      simp only [step, collected, Run.embed_after_entered]
      congr 1
      exact (Run.embed_toReply base _).symm
  | named name inner innerAgrees => exact innerAgrees
  | traced tag inner innerAgrees => exact agrees_traceAttempt tag innerAgrees
  | reference name =>
      intro cursor inRemaining
      simp only [step, agrees name cursor inRemaining, Run.embed_after_entered]

/-! ## Whole runs -/

namespace Grammar

theorem agrees_resolve (grammar : Grammar) {base : Cursor}
    (inside : base.position ≤ base.source.size) (depth : Nat) (name : String) :
    Agrees base (grammar.resolve depth name) (grammar.resolve depth name) := by
  induction depth generalizing name with
  | zero =>
      intro cursor _
      rfl
  | succ depth induction =>
      intro cursor inRemaining
      unfold resolve
      split
      · rfl
      · exact Parser.agrees_step inside induction (grammar.advances_resolve depth) _ cursor
          inRemaining

theorem parse_eq_embed (grammar : Grammar) (parser : Parser) {cursor : Cursor}
    (inside : cursor.position ≤ cursor.source.size) :
    grammar.parse parser cursor =
      (grammar.parse parser (.start cursor.remaining)).embed cursor (Reply.embed cursor) := by
  have sameDepth : grammar.depthFrom (.start cursor.remaining) = grammar.depthFrom cursor := by
    have size := cursor.size_remaining
    simp only [depthFrom, Cursor.start, Cursor.length] at size ⊢
    rw [size, Nat.sub_zero]
  unfold parse
  rw [sameDepth]
  exact Parser.agrees_step inside (grammar.agrees_resolve inside _) (grammar.advances_resolve _)
    parser (.start cursor.remaining) rfl

theorem ending_parse_embed (grammar : Grammar) (parser : Parser) {cursor : Cursor}
    (inside : cursor.position ≤ cursor.source.size) :
    (grammar.parse parser cursor).ending =
      (grammar.parse parser (.start cursor.remaining)).ending.map (Reply.embed cursor) :=
  congrArg Run.ending (grammar.parse_eq_embed parser inside)

theorem logLines_parse_embed (grammar : Grammar) (parser : Parser) {cursor : Cursor}
    (inside : cursor.position ≤ cursor.source.size) :
    logLines (grammar.parse parser cursor).history =
      logLines (grammar.parse parser (.start cursor.remaining)).history := by
  rw [grammar.parse_eq_embed parser inside]
  exact logLines_embed cursor _

/-- What is left after a run at a place is left after the run on the rest, so nobody can tell the two
runs apart. -/
theorem run_eq_run_remaining (grammar : Grammar) (parser : Parser) {cursor : Cursor}
    (inside : cursor.position ≤ cursor.source.size) :
    grammar.run parser cursor = grammar.run parser (.start cursor.remaining) := by
  have sameLines := grammar.logLines_parse_embed parser inside
  have sameEnding := grammar.ending_parse_embed parser inside
  rcases ended : (grammar.parse parser (.start cursor.remaining)).ending with
    (cause | fault) | reply
  · rw [ended] at sameEnding
    simp only [run, sameLines, sameEnding, ended, Except.map]
  · rw [ended] at sameEnding
    simp only [run, sameLines, sameEnding, ended, Except.map]
  · have inRemaining := (grammar.advances_parse parser _ reply ended).source_eq
    rw [ended] at sameEnding
    simp only [run, sameLines, sameEnding, ended, Except.map, Reply.embed,
      Cursor.remaining_embed inRemaining]

/-- A run at a place of a source ends as the run on the rest of the source as a source of its own, and
is logged in the same lines. An answer is the same value, so many places further on as were left out
in front; an error is the same error. -/
theorem parse_eq_on_remaining (grammar : Grammar) (parser : Parser) (cursor : Cursor)
    (inside : cursor.position ≤ cursor.source.size) :
    (grammar.parse parser cursor).ending =
        (grammar.parse parser (.start cursor.remaining)).ending.map (fun reply =>
          ⟨reply.value, ⟨cursor.source, cursor.position + reply.cursor.position⟩⟩) ∧
      logLines (grammar.parse parser cursor).history =
        logLines (grammar.parse parser (.start cursor.remaining)).history := by
  constructor
  · exact grammar.ending_parse_embed parser inside
  · exact grammar.logLines_parse_embed parser inside

/-- The brackets that begin after a first symbol are the brackets of the text without it. -/
theorem parse_eq_on_remaining_nested :
    (Nesting.brackets.parse (.reference "nested") ⟨.text #['-', '(', 'x', ')'], 1⟩).ending =
      (Nesting.brackets.parse (.reference "nested") (.start (.text #['(', 'x', ')']))).ending.map
        fun reply => ⟨reply.value, ⟨.text #['-', '(', 'x', ')'], 1 + reply.cursor.position⟩⟩ := by
  have inside : (1 : Nat) ≤ (Source.text #['-', '(', 'x', ')']).size := by decide
  exact (Nesting.brackets.parse_eq_on_remaining (.reference "nested") ⟨_, 1⟩ inside).1

end Grammar

end CursorParsing
