import CursorParsing.Proofs.Suffix

/-!
# Runs within runs

Running a parser runs the parsers it is made of, some of them many times, at places and after events
that depend on what was read before. An invocation is one of these runs; its history is a part of the
history of the whole.
-/

namespace CursorParsing

/-! ## A part of a run -/

/-- A run that took place in the course of another, after some events. If the part ended in a fault,
it was the end of the whole as well. -/
def Run.HappensIn {α β : Type} (part : Run α) (earlier : List Event) (whole : Run β) : Prop :=
  ∃ later, whole.history = earlier ++ part.history ++ later ∧
    ∀ fault, part.ending = .error (.fault fault) →
      whole.ending = .error (.fault fault) ∧ later = []

namespace Run

variable {α β γ : Type}

theorem HappensIn.refl (run : Run α) : run.HappensIn [] run :=
  ⟨[], by simp, fun _ faulted => ⟨faulted, rfl⟩⟩

theorem HappensIn.trans {part : Run α} {middle : Run β} {whole : Run γ} {earlier later : List Event}
    (inner : part.HappensIn later middle) (outer : middle.HappensIn earlier whole) :
    part.HappensIn (earlier ++ later) whole := by
  rcases inner with ⟨afterPart, middleHistory, innerFault⟩
  rcases outer with ⟨afterMiddle, wholeHistory, outerFault⟩
  refine ⟨afterPart ++ afterMiddle, ?_, ?_⟩
  · rw [wholeHistory, middleHistory]
    simp only [List.append_assoc]
  · intro fault faulted
    rcases innerFault fault faulted with ⟨middleFaulted, rfl⟩
    rcases outerFault fault middleFaulted with ⟨wholeFaulted, rfl⟩
    exact ⟨wholeFaulted, rfl⟩

theorem happensIn_map (transform : α → β) (run : Run α) : run.HappensIn [] (run.map transform) := by
  refine ⟨[], by simp, ?_⟩
  intro fault faulted
  simp [faulted, Except.map]

theorem happensIn_after (event : Event) (run : Run α) : run.HappensIn [event] (run.after event) :=
  ⟨[], by simp, fun _ faulted => ⟨faulted, rfl⟩⟩

theorem happensIn_andThen (run : Run α) (next : α → Run β) :
    run.HappensIn [] (run.andThen next) := by
  rcases ended : run.ending with error | answer
  · rw [andThen_of_error next ended]
    refine ⟨[], by simp, ?_⟩
    intro fault faulted
    rw [ended] at faulted
    cases faulted
    exact ⟨rfl, rfl⟩
  · rw [andThen_of_ok next ended]
    refine ⟨(next answer).history, by simp, ?_⟩
    intro fault faulted
    exact absurd faulted (ending_ne_fault_of_ok ended fault)

theorem next_happensIn_andThen {run : Run α} (next : α → Run β) {answer : α}
    (ended : run.ending = .ok answer) :
    (next answer).HappensIn run.history (run.andThen next) := by
  rw [andThen_of_ok next ended]
  exact ⟨[], by simp, fun _ faulted => ⟨faulted, rfl⟩⟩

theorem happensIn_orElse (run : Run α) (alternative : Unit → Run α) :
    run.HappensIn [] (run.orElse alternative) := by
  rcases ended : run.ending with (cause | fault) | answer
  · rw [orElse_of_mismatch alternative ended]
    refine ⟨(alternative ()).history, by simp, ?_⟩
    intro fault faulted
    exact absurd faulted (ending_ne_fault_of_mismatch ended fault)
  · rw [orElse_of_fault alternative ended]
    exact .refl run
  · rw [orElse_of_ok alternative ended]
    exact .refl run

theorem alternative_happensIn_orElse {run : Run α} (alternative : Unit → Run α) {cause : Mismatch}
    (ended : run.ending = .error (.mismatch cause)) :
    (alternative ()).HappensIn run.history (run.orElse alternative) := by
  rw [orElse_of_mismatch alternative ended]
  exact ⟨[], by simp, fun _ faulted => ⟨faulted, rfl⟩⟩

theorem happensIn_round (run : Run Reply) (cursor : Cursor) (goOn : Reply → Run Collection) :
    run.HappensIn [] (run.round cursor goOn) :=
  ((happensIn_map some run).trans (happensIn_orElse _ _)).trans (happensIn_andThen _ _)

theorem goOn_happensIn_round {run : Run Reply} (cursor : Cursor) (goOn : Reply → Run Collection)
    {reply : Reply} (ended : run.ending = .ok reply) :
    (goOn reply).HappensIn run.history (run.round cursor goOn) := by
  rw [round_of_ok goOn ended]
  refine ⟨[], by simp, ?_⟩
  intro fault faulted
  simp [faulted, Except.map]

theorem happensIn_toldAs (tag : String) (ahead : List Char) (cursor : Cursor) (run : Run Reply) :
    run.HappensIn [.trying tag ahead] (run.toldAs tag ahead cursor) := by
  refine ⟨_, rfl, ?_⟩
  intro fault faulted
  simp [toldAs, closingsOf, faulted]

end Run

/-! ## Attempts of a loop -/

/-- A loop of attempts comes to the cursor of another attempt: all attempts before it matched, and
each of their matches called for one more. -/
inductive ComesTo (attempt : Cursor → Run Reply) (GoesOn : Reply → Cursor → Prop) :
    (completed : Nat) → Cursor → (earlier : List Event) → Cursor → Prop
  | start (cursor : Cursor) : ComesTo attempt GoesOn 0 cursor [] cursor
  | round {completed : Nat} {cursor place : Cursor} {reply : Reply} {earlier : List Event}
      (matched : (attempt cursor).ending = .ok reply) (goesOn : GoesOn reply cursor)
      (rest : ComesTo attempt GoesOn completed reply.cursor earlier place) :
      ComesTo attempt GoesOn (completed + 1) cursor ((attempt cursor).history ++ earlier) place

/-- A match that reads something calls for another attempt. -/
def Reply.Moves (reply : Reply) (cursor : Cursor) : Prop := reply.cursor.position ≠ cursor.position

theorem Run.unlessStill_of_moves {cursor : Cursor} {reply : Reply} (moves : reply.Moves cursor)
    (goOn : Cursor → Run Collection) : Run.unlessStill cursor goOn reply = goOn reply.cursor :=
  if_neg moves

theorem Run.unlessStill_congr {cursor : Cursor} {reply : Reply} {goOn other : Cursor → Run Collection}
    (same : reply.Moves cursor → goOn reply.cursor = other reply.cursor) :
    Run.unlessStill cursor goOn reply = Run.unlessStill cursor other reply := by
  by_cases still : reply.cursor.position = cursor.position
  · simp only [unlessStill, still, if_true]
  · rw [unlessStill_of_moves still, unlessStill_of_moves still, same still]

section Loops

variable {attempt : Cursor → Run Reply} {cursor place : Cursor} {completed : Nat}
  {earlier : List Event}

/-- Every attempt but the last reads a symbol. -/
theorem ComesTo.completed_le (advances : Advances attempt)
    (comes : ComesTo attempt Reply.Moves completed cursor earlier place) :
    completed ≤ cursor.length := by
  induction comes with
  | start cursor => exact Nat.zero_le _
  | round matched moves rest induction =>
      have reaches := advances _ _ matched
      have shorter := reaches.length_lt moves
      omega

theorem ComesTo.reachesTo {GoesOn : Reply → Cursor → Prop} (advances : Advances attempt)
    (comes : ComesTo attempt GoesOn completed cursor earlier place) : cursor.ReachesTo place := by
  induction comes with
  | start cursor => exact .refl cursor
  | round matched goesOn rest induction => exact (advances _ _ matched).trans induction

theorem ComesTo.happensIn_collect {bound : Nat}
    (comes : ComesTo attempt Reply.Moves completed cursor earlier place) (enough : completed < bound) :
    (attempt place).HappensIn earlier (collect attempt bound cursor) := by
  induction comes generalizing bound with
  | start cursor =>
      cases bound with
      | zero => exact absurd enough (Nat.not_lt_zero _)
      | succ bound =>
          rw [collect_succ]
          exact Run.happensIn_round _ _ _
  | @round completed cursor place reply earlier matched moves rest induction =>
      cases bound with
      | zero => exact absurd enough (Nat.not_lt_zero _)
      | succ bound =>
          have later := induction (Nat.lt_of_succ_lt_succ enough)
          have following := Run.goOn_happensIn_round cursor
            (Run.unlessStill cursor (collect attempt bound)) matched
          rw [Run.unlessStill_of_moves moves] at following
          rw [collect_succ]
          exact later.trans following

theorem ComesTo.happensIn_collectAll (advances : Advances attempt)
    (comes : ComesTo attempt Reply.Moves completed cursor earlier place) :
    (attempt place).HappensIn earlier (collectAll attempt cursor) :=
  comes.happensIn_collect (Nat.lt_succ_of_le (comes.completed_le advances))

theorem ComesTo.happensIn_collectSome (advances : Advances attempt)
    (comes : ComesTo attempt Reply.Moves completed cursor earlier place) :
    (attempt place).HappensIn earlier (collectSome attempt cursor) := by
  rw [collectSome_eq]
  cases comes with
  | start => exact Run.happensIn_andThen _ _
  | @round _ _ _ reply _ matched moves rest =>
      have later := rest.happensIn_collectAll advances
      have following := Run.next_happensIn_andThen (fun reply : Reply =>
        (Run.unlessStill cursor (collectAll attempt) reply).map (Collection.cons reply.value)) matched
      rw [Run.unlessStill_of_moves moves] at following
      exact (later.trans (Run.happensIn_map _ _)).trans following

theorem ComesTo.happensIn_collectUpTo {rounds : Nat}
    (comes : ComesTo attempt (fun _ _ => True) completed cursor earlier place)
    (wanted : completed < rounds) :
    (attempt place).HappensIn earlier (collectUpTo attempt rounds cursor) := by
  induction comes generalizing rounds with
  | start cursor =>
      cases rounds with
      | zero => exact absurd wanted (Nat.not_lt_zero _)
      | succ rounds =>
          rw [collectUpTo_succ]
          exact Run.happensIn_round _ _ _
  | @round completed cursor place reply earlier matched _ rest induction =>
      cases rounds with
      | zero => exact absurd wanted (Nat.not_lt_zero _)
      | succ rounds =>
          have later := induction (Nat.lt_of_succ_lt_succ wanted)
          have following := Run.goOn_happensIn_round cursor
            (fun reply => collectUpTo attempt rounds reply.cursor) matched
          rw [collectUpTo_succ]
          exact later.trans following

theorem ComesTo.happensIn_collectExactly {count : Count}
    (comes : ComesTo attempt (fun _ _ => True) completed cursor earlier place)
    (wanted : completed < count.rounds.getD (cursor.length + 1)) :
    (attempt place).HappensIn earlier (collectExactly attempt count cursor) := by
  have inLoop : (attempt place).HappensIn earlier
      (collectCounted attempt count.rounds cursor) := by
    generalize count.rounds = rounds at wanted
    cases rounds with
    | none => exact (comes.happensIn_collectUpTo wanted).trans (Run.happensIn_andThen _ _)
    | some rounds => exact comes.happensIn_collectUpTo wanted
  rw [collectExactly_eq]
  exact inLoop.trans (Run.happensIn_andThen _ _)

end Loops

/-! ## Invocations -/

/-- A parser that is run at a cursor, where references are followed at most `depth` deep. -/
structure Invocation where
  parser : Parser
  cursor : Cursor
  depth : Nat

namespace Grammar

def invoke (grammar : Grammar) (invocation : Invocation) : Run Reply :=
  invocation.parser.step (grammar.resolve invocation.depth) invocation.cursor

/-- The invocation of a parser on its own. -/
def outermost (grammar : Grammar) (parser : Parser) (cursor : Cursor) : Invocation :=
  ⟨parser, cursor, grammar.depthFrom cursor⟩

theorem invoke_outermost (grammar : Grammar) (parser : Parser) (cursor : Cursor) :
    grammar.invoke (grammar.outermost parser cursor) = grammar.parse parser cursor := rfl

section Equations

variable {grammar : Grammar} {cursor : Cursor} {depth : Nat}

theorem invoke_flatMap (first : Parser) (next : Value → Parser) :
    grammar.invoke ⟨.flatMap first next, cursor, depth⟩ =
      (grammar.invoke ⟨first, cursor, depth⟩).andThen fun reply =>
        grammar.invoke ⟨next reply.value, reply.cursor, depth⟩ := rfl

theorem invoke_orElse (first second : Parser) :
    grammar.invoke ⟨.orElse first second, cursor, depth⟩ =
      (grammar.invoke ⟨first, cursor, depth⟩).orElse fun _ =>
        grammar.invoke ⟨second, cursor, depth⟩ := rfl

theorem invoke_traced {tag : String} {inner : Parser} {ahead : List Char}
    (shown : cursor.snippet? = .ok ahead) :
    grammar.invoke ⟨.traced tag inner, cursor, depth⟩ =
      (grammar.invoke ⟨inner, cursor, depth⟩).toldAs tag ahead cursor :=
  traceAttempt_of_shown shown

theorem invoke_reference {name : String} {parser : Parser}
    (found : grammar.find? name = some parser) :
    grammar.invoke ⟨.reference name, cursor, depth + 1⟩ =
      (grammar.invoke ⟨parser, cursor, depth⟩).after (.entered cursor) := by
  simp only [invoke, Parser.step, resolve, found]

end Equations

/-- One invocation runs another in its course, after `earlier` has happened since it began. -/
inductive Calls (grammar : Grammar) :
    Invocation → (earlier : List Event) → Invocation → Prop
  | first {first : Parser} {next : Value → Parser} {cursor : Cursor} {depth : Nat} :
      Calls grammar ⟨.flatMap first next, cursor, depth⟩ [] ⟨first, cursor, depth⟩
  | next {first : Parser} {next : Value → Parser} {cursor : Cursor} {depth : Nat} {reply : Reply}
      (matched : (grammar.invoke ⟨first, cursor, depth⟩).ending = .ok reply) :
      Calls grammar ⟨.flatMap first next, cursor, depth⟩
        (grammar.invoke ⟨first, cursor, depth⟩).history ⟨next reply.value, reply.cursor, depth⟩
  | preferred {first second : Parser} {cursor : Cursor} {depth : Nat} :
      Calls grammar ⟨.orElse first second, cursor, depth⟩ [] ⟨first, cursor, depth⟩
  | alternative {first second : Parser} {cursor : Cursor} {depth : Nat} {cause : Mismatch}
      (failed : (grammar.invoke ⟨first, cursor, depth⟩).ending = .error (.mismatch cause)) :
      Calls grammar ⟨.orElse first second, cursor, depth⟩
        (grammar.invoke ⟨first, cursor, depth⟩).history ⟨second, cursor, depth⟩
  | zeroOrMore {inner : Parser} {cursor place : Cursor} {depth completed : Nat}
      {earlier : List Event}
      (comes : ComesTo (inner.step (grammar.resolve depth)) Reply.Moves completed cursor earlier
        place) :
      Calls grammar ⟨.zeroOrMore inner, cursor, depth⟩ earlier ⟨inner, place, depth⟩
  | oneOrMore {inner : Parser} {cursor place : Cursor} {depth completed : Nat}
      {earlier : List Event}
      (comes : ComesTo (inner.step (grammar.resolve depth)) Reply.Moves completed cursor earlier
        place) :
      Calls grammar ⟨.oneOrMore inner, cursor, depth⟩ earlier ⟨inner, place, depth⟩
  /-- An endless count is given up after more matches than there are symbols. -/
  | repeated {inner : Parser} {count : Count} {cursor place : Cursor} {depth completed : Nat}
      {earlier : List Event}
      (comes : ComesTo (inner.step (grammar.resolve depth)) (fun _ _ => True) completed cursor
        earlier place)
      (wanted : completed < count.rounds.getD (cursor.length + 1)) :
      Calls grammar ⟨.repeated inner count, cursor, depth⟩ (.entered cursor :: earlier)
        ⟨inner, place, depth⟩
  | named {name : String} {inner : Parser} {cursor : Cursor} {depth : Nat} :
      Calls grammar ⟨.named name inner, cursor, depth⟩ [] ⟨inner, cursor, depth⟩
  /-- A trace that cannot show the input makes no attempt. -/
  | traced {tag : String} {inner : Parser} {cursor : Cursor} {depth : Nat} {ahead : List Char}
      (shown : cursor.snippet? = .ok ahead) :
      Calls grammar ⟨.traced tag inner, cursor, depth⟩ [.trying tag ahead] ⟨inner, cursor, depth⟩
  | reference {name : String} {parser : Parser} {cursor : Cursor} {depth : Nat}
      (found : grammar.find? name = some parser) :
      Calls grammar ⟨.reference name, cursor, depth + 1⟩ [.entered cursor]
        ⟨parser, cursor, depth⟩

/-- An invocation contains itself and, at any depth, what it calls. -/
inductive Contains (grammar : Grammar) : Invocation → (earlier : List Event) → Invocation → Prop
  | itself (whole : Invocation) : Contains grammar whole [] whole
  | inner {whole middle part : Invocation} {earlier later : List Event}
      (calls : grammar.Calls whole earlier middle) (rest : Contains grammar middle later part) :
      Contains grammar whole (earlier ++ later) part

variable {grammar : Grammar} {whole part : Invocation} {earlier : List Event}

theorem Calls.happensIn (calls : grammar.Calls whole earlier part) :
    (grammar.invoke part).HappensIn earlier (grammar.invoke whole) := by
  cases calls with
  | first => exact Run.happensIn_andThen _ _
  | next matched => exact Run.next_happensIn_andThen _ matched
  | preferred => exact Run.happensIn_orElse _ _
  | alternative failed => exact Run.alternative_happensIn_orElse _ failed
  | zeroOrMore comes =>
      exact (comes.happensIn_collectAll (grammar.advances_step _ _)).trans (Run.happensIn_map _ _)
  | oneOrMore comes =>
      exact (comes.happensIn_collectSome (grammar.advances_step _ _)).trans (Run.happensIn_map _ _)
  | repeated comes wanted =>
      exact ((comes.happensIn_collectExactly wanted).trans (Run.happensIn_map _ _)).trans
        (Run.happensIn_after _ _)
  | named => exact .refl _
  | traced shown =>
      rw [invoke_traced shown]
      exact Run.happensIn_toldAs _ _ _ _
  | reference found =>
      rw [invoke_reference found]
      exact Run.happensIn_after _ _

theorem Contains.happensIn (contains : grammar.Contains whole earlier part) :
    (grammar.invoke part).HappensIn earlier (grammar.invoke whole) := by
  induction contains with
  | itself whole => exact .refl _
  | inner calls rest induction => exact induction.trans calls.happensIn

/-- What is called is run at a place where reading can lead. -/
theorem Calls.reachesTo (calls : grammar.Calls whole earlier part) :
    whole.cursor.ReachesTo part.cursor := by
  cases calls with
  | next matched => exact grammar.advances_step _ _ _ _ matched
  | zeroOrMore comes => exact comes.reachesTo (grammar.advances_step _ _)
  | oneOrMore comes => exact comes.reachesTo (grammar.advances_step _ _)
  | repeated comes wanted => exact comes.reachesTo (grammar.advances_step _ _)
  | first | preferred | alternative | named | traced | reference => exact .refl _

theorem Contains.reachesTo (contains : grammar.Contains whole earlier part) :
    whole.cursor.ReachesTo part.cursor := by
  induction contains with
  | itself whole => exact .refl _
  | inner calls rest induction => exact calls.reachesTo.trans induction

/-- What is called is a part of the term that calls it, or is reached by a reference that may be
followed less deep. So no invocation calls others without end. -/
theorem Calls.wellFounded (grammar : Grammar) :
    WellFounded fun part whole => ∃ earlier, grammar.Calls whole earlier part := by
  constructor
  rintro ⟨parser, cursor, depth⟩
  induction depth using Nat.strongRecOn generalizing parser cursor with
  | ind depth lessDeep =>
      induction parser generalizing cursor with
      | pure | raise | symbolThat | literal | endOfInput =>
          constructor
          rintro part ⟨earlier, calls⟩
          cases calls
      | flatMap first next firstEnds nextEnds =>
          constructor
          rintro part ⟨earlier, calls⟩
          cases calls with
          | first => exact firstEnds _
          | next => exact nextEnds _ _
      | orElse first second firstEnds secondEnds =>
          constructor
          rintro part ⟨earlier, calls⟩
          cases calls with
          | preferred => exact firstEnds _
          | alternative => exact secondEnds _
      | zeroOrMore inner innerEnds | oneOrMore inner innerEnds | repeated inner count innerEnds
      | named name inner innerEnds | traced tag inner innerEnds =>
          constructor
          rintro part ⟨earlier, calls⟩
          cases calls
          exact innerEnds _
      | reference name =>
          constructor
          rintro part ⟨earlier, calls⟩
          cases calls
          exact lessDeep _ (Nat.lt_succ_self _) _ _

end Grammar

/-! ## Every run leaves a trace -/

theorem Run.history_ne_nil_of_happensIn {α β : Type} {part : Run α} {whole : Run β}
    {earlier : List Event} (happens : part.HappensIn earlier whole) (traced : part.history ≠ []) :
    whole.history ≠ [] := by
  rcases happens with ⟨later, wholeHistory, _⟩
  rw [wholeHistory]
  simp [traced]

theorem Parser.history_step_ne_nil (resolve : String → Cursor → Run Reply) (parser : Parser)
    (cursor : Cursor) : (parser.step resolve cursor).history ≠ [] := by
  induction parser generalizing cursor with
  | pure | raise | symbolThat | literal | endOfInput | reference | repeated =>
      exact List.cons_ne_nil _ _
  | traced tag inner =>
      rcases shown : cursor.snippet? with fault | ahead
      · simp [step, traceAttempt_of_unshown shown, Run.raised]
      · simp [step, traceAttempt_of_shown shown, Run.toldAs]
  | flatMap first next firstTraced =>
      exact Run.history_ne_nil_of_happensIn (Run.happensIn_andThen _ _) (firstTraced cursor)
  | orElse first second firstTraced =>
      exact Run.history_ne_nil_of_happensIn (Run.happensIn_orElse _ _) (firstTraced cursor)
  | zeroOrMore inner innerTraced =>
      have start : ComesTo (inner.step resolve) Reply.Moves 0 cursor [] cursor := .start cursor
      have first := start.happensIn_collect (Nat.zero_lt_succ cursor.length)
      exact Run.history_ne_nil_of_happensIn (first.trans (Run.happensIn_map _ _)) (innerTraced cursor)
  | oneOrMore inner innerTraced =>
      exact Run.history_ne_nil_of_happensIn
        ((Run.happensIn_andThen _ _).trans (Run.happensIn_map _ _)) (innerTraced cursor)
  | named name inner innerTraced => exact innerTraced cursor

end CursorParsing
