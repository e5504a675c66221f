import CursorParsing.Proofs.Runs

/-!
# What the recognisers do

The recognisers guard every step that could go wrong: no symbol is asked for at the end of the input,
and the cursor is never moved past it. Without the steps that cannot be taken, each of them is a short
case distinction.
-/

namespace CursorParsing

namespace Source

theorem symbol?_eq_none_iff (source : Source) (index : Nat) :
    source.symbol? index = none ↔ source.size ≤ index := by
  rw [symbol?_eq_getElem?, ← length_symbols, List.getElem?_eq_none_iff]

theorem lt_size_of_symbol? {source : Source} {index : Nat} {symbol : Value}
    (found : source.symbol? index = some symbol) : index < source.size := by
  rcases Nat.lt_or_ge index source.size with inside | outside
  · exact inside
  · rw [(symbol?_eq_none_iff source index).mpr outside] at found
    cases found

end Source

namespace Cursor

/-- The cursor so many symbols further on, in the source or past its end. -/
def forward (count : Nat) (cursor : Cursor) : Cursor :=
  { cursor with position := cursor.position + count }

@[simp] theorem source_forward (count : Nat) (cursor : Cursor) :
    (cursor.forward count).source = cursor.source := rfl

@[simp] theorem position_forward (count : Nat) (cursor : Cursor) :
    (cursor.forward count).position = cursor.position + count := rfl

theorem forward_forward (first second : Nat) (cursor : Cursor) :
    (cursor.forward first).forward second = cursor.forward (first + second) := by
  simp [forward, Nat.add_assoc]

/-- The cursor so many symbols further on, but at the end of the source at most. -/
def onward (count : Nat) (cursor : Cursor) : Cursor :=
  { cursor with position := min (cursor.position + count) cursor.source.size }

theorem advance_eq_onward (count : Nat) (cursor : Cursor) :
    cursor.advance count = .ok (cursor.onward count) := by
  have notNegative : ¬(count : Int) < 0 := by omega
  simp only [advance, notNegative, if_false, Int.toNat_natCast]
  rfl

/-- As long as there are enough symbols, advancing is not held up by the end. -/
theorem advance_eq_forward {count : Nat} {cursor : Cursor}
    (enough : cursor.position + count ≤ cursor.source.size) :
    cursor.advance count = .ok (cursor.forward count) := by
  rw [advance_eq_onward, onward, Nat.min_eq_left enough]
  rfl

theorem le_size_of_startsWith {literal : Source} {cursor : Cursor}
    (holds : cursor.startsWith literal = true) :
    cursor.position + literal.size ≤ cursor.source.size := by
  simp only [startsWith, Bool.and_eq_true, decide_eq_true_eq] at holds
  exact holds.1

end Cursor

/-! ## Refusals

A refusal is a mismatch with the snippet of its place, unless an integer that it would show is too long. -/

namespace Cursor

variable {cursor : Cursor} {limit : Int} {tell : List Char → Mismatch}

/-- What can be written can be shown wherever one is in it. -/
theorem isShowable_of_isWritable (writable : cursor.source.isWritable = true) :
    cursor.isShowable limit = true := Source.isWritable_slice writable _ _

theorem snippet?_eq_error {fault : Fault} (failed : cursor.snippet? limit = .error fault) :
    cursor.isShowable limit = false ∧ fault = .integerTooLong := by
  unfold snippet? at failed
  split at failed <;> cases failed
  rename_i unshowable
  exact ⟨Bool.eq_false_iff.mpr unshowable, rfl⟩

theorem refusal_eq (cursor : Cursor) (tell : List Char → Mismatch) :
    cursor.refusal tell =
      if cursor.isShowable && (tell cursor.snippet).isWritable then .mismatch (tell cursor.snippet)
      else .fault .integerTooLong := by
  rw [refusal, snippet?]
  by_cases showable : cursor.isShowable = true
  · simp [showable, Mismatch.toError]
  · simp [showable]

theorem refusal_of_isShowable (showable : cursor.isShowable = true)
    (writable : (tell cursor.snippet).isWritable = true) :
    cursor.refusal tell = .mismatch (tell cursor.snippet) := by
  simp [refusal_eq, showable, writable]

theorem refusal_cases (cursor : Cursor) (tell : List Char → Mismatch) :
    cursor.refusal tell = .mismatch (tell cursor.snippet) ∨
      cursor.refusal tell = .fault .integerTooLong := by
  rw [refusal_eq]
  split
  · exact .inl rfl
  · exact .inr rfl

theorem refusal_eq_mismatch {cause : Mismatch} (refused : cursor.refusal tell = .mismatch cause) :
    cause = tell cursor.snippet := by
  rcases cursor.refusal_cases tell with told | fault
  · exact Error.mismatch.inj (refused.symm.trans told)
  · cases refused.symm.trans fault

end Cursor

/-! ## What each of them does -/

/-- The refusal of the symbol at a cursor, or of the lack of one. -/
def refuseSymbol (cursor : Cursor) : Run Reply :=
  .raised .recogniser (cursor.refusal .predicateFailed) cursor

theorem readSymbol_eq (accepts : Value → Outcome Bool) (cursor : Cursor) :
    readSymbol accepts cursor =
      match cursor.source.symbol? cursor.position with
      | none => refuseSymbol cursor
      | some symbol =>
        match accepts symbol with
        | .error error => .raised .supplied error cursor
        | .ok false => refuseSymbol cursor
        | .ok true => .done ⟨symbol, cursor.forward 1⟩ := by
  rcases found : cursor.source.symbol? cursor.position with _ | symbol
  · have atEnd : cursor.isAtEnd = true := by
      simpa [Cursor.isAtEnd] using (Source.symbol?_eq_none_iff _ _).mp found
    simp only [readSymbol, atEnd, if_true]
    rfl
  · have inside := Source.lt_size_of_symbol? found
    have notAtEnd : cursor.isAtEnd = false := by
      simpa [Cursor.isAtEnd] using inside
    have moved : cursor.advance 1 = .ok (cursor.forward 1) :=
      @Cursor.advance_eq_forward 1 cursor inside
    simp only [readSymbol, notAtEnd, Cursor.current, found, moved]
    rcases accepts symbol with error | (_ | _) <;> rfl

theorem readLiteral_eq (expected : Value) (cursor : Cursor) :
    readLiteral expected cursor =
      match Source.ofValue? expected with
      | none => .raised .recogniser .typeMismatch cursor
      | some literal =>
        if cursor.startsWith literal then .done ⟨expected, cursor.forward literal.size⟩
        else .raised .recogniser (cursor.refusal (.expectedPrefix expected)) cursor := by
  unfold readLiteral
  rcases Source.ofValue? expected with _ | literal
  · rfl
  · by_cases holds : cursor.startsWith literal = true
    · simp only [holds, if_true, Cursor.advance_eq_forward (Cursor.le_size_of_startsWith holds)]
    · simp only [holds, Bool.false_eq_true, if_false]

/-! ## What a match says -/

theorem readSymbol_eq_ok {accepts : Value → Outcome Bool} {cursor : Cursor} {reply : Reply}
    (matched : (readSymbol accepts cursor).ending = .ok reply) :
    ∃ symbol, cursor.source.symbol? cursor.position = some symbol ∧ accepts symbol = .ok true ∧
      reply = ⟨symbol, cursor.forward 1⟩ := by
  rw [readSymbol_eq] at matched
  split at matched
  · cases matched
  · rename_i symbol found
    split at matched <;> cases matched
    rename_i accepted
    exact ⟨symbol, found, accepted, rfl⟩

theorem readLiteral_eq_ok {expected : Value} {cursor : Cursor} {reply : Reply}
    (matched : (readLiteral expected cursor).ending = .ok reply) :
    ∃ literal, Source.ofValue? expected = some literal ∧ cursor.startsWith literal = true ∧
      reply = ⟨expected, cursor.forward literal.size⟩ := by
  rw [readLiteral_eq] at matched
  split at matched
  · cases matched
  · rename_i literal isSequence
    split at matched <;> cases matched
    rename_i holds
    exact ⟨literal, isSequence, holds, rfl⟩

theorem readEnd_eq_ok {cursor : Cursor} {reply : Reply}
    (matched : (readEnd cursor).ending = .ok reply) :
    cursor.isAtEnd = true ∧ reply = ⟨.absent, cursor⟩ := by
  unfold readEnd at matched
  split at matched <;> cases matched
  rename_i atEnd
  exact ⟨atEnd, rfl⟩

/-! ## Traced attempts -/

section Traced

variable {tag : String} {attempt : Cursor → Run Reply} {cursor : Cursor}

theorem traceAttempt_of_shown {ahead : List Char} (shown : cursor.snippet? = .ok ahead) :
    traceAttempt tag attempt cursor = (attempt cursor).toldAs tag ahead cursor := by
  rw [traceAttempt, shown]

theorem traceAttempt_of_unshown {fault : Fault} (unshown : cursor.snippet? = .error fault) :
    traceAttempt tag attempt cursor = .raised .tracing (.fault .integerTooLong) cursor := by
  rw [traceAttempt, unshown, (Cursor.snippet?_eq_error unshown).2]

/-- Where the input can be shown, tracing does not change how an attempt ends. -/
theorem ending_traceAttempt_of_shown {ahead : List Char} (shown : cursor.snippet? = .ok ahead) :
    (traceAttempt tag attempt cursor).ending = (attempt cursor).ending := by
  rw [traceAttempt_of_shown shown]
  rfl

theorem traceAttempt_eq_ok {reply : Reply}
    (matched : (traceAttempt tag attempt cursor).ending = .ok reply) :
    (attempt cursor).ending = .ok reply := by
  rcases shown : cursor.snippet? with fault | ahead
  · rw [traceAttempt_of_unshown shown] at matched
    cases matched
  · rwa [ending_traceAttempt_of_shown shown] at matched

end Traced

/-! ## What is told of them -/

/-- Nothing happens in a run but that errors are raised. -/
def Run.OnlyRaises {α : Type} (run : Run α) : Prop :=
  ∀ event ∈ run.history, ∃ origin error cursor, event = .raised origin error cursor

section OnlyRaises

variable {α : Type}

theorem Run.onlyRaises_done (answer : α) : (done answer).OnlyRaises := List.forall_mem_nil _

theorem Run.onlyRaises_raised (origin : Origin) (error : Error) (cursor : Cursor) :
    (raised origin error cursor : Run α).OnlyRaises :=
  List.forall_mem_singleton.mpr ⟨origin, error, cursor, rfl⟩

theorem onlyRaises_readSymbol (accepts : Value → Outcome Bool) (cursor : Cursor) :
    (readSymbol accepts cursor).OnlyRaises := by
  rw [readSymbol_eq]
  split
  · exact Run.onlyRaises_raised _ _ _
  · split
    · exact Run.onlyRaises_raised _ _ _
    · exact Run.onlyRaises_raised _ _ _
    · exact Run.onlyRaises_done _

theorem onlyRaises_readLiteral (expected : Value) (cursor : Cursor) :
    (readLiteral expected cursor).OnlyRaises := by
  rw [readLiteral_eq]
  split
  · exact Run.onlyRaises_raised _ _ _
  · split
    · exact Run.onlyRaises_done _
    · exact Run.onlyRaises_raised _ _ _

theorem onlyRaises_readEnd (cursor : Cursor) : (readEnd cursor).OnlyRaises := by
  unfold readEnd
  split
  · exact Run.onlyRaises_done _
  · exact Run.onlyRaises_raised _ _ _

theorem Count.onlyRaises_check (count : Count) (collection : Collection) :
    (count.check collection).OnlyRaises := by
  unfold check
  split
  · exact Run.onlyRaises_done _
  · exact Run.onlyRaises_raised _ _ _

end OnlyRaises

end CursorParsing
