import CursorParsing.Proofs.Invariants
import CursorParsing.Proofs.Invocations

/-!
# Faults

Recovery absorbs mismatches only. Wherever in a run a fault is raised, by a parser or by a function
that was supplied with the grammar, it is the end of the whole run.
-/

namespace CursorParsing

def Event.RaisesFault : Event → Prop
  | .raised _ (.fault _) _ => True
  | _ => False

/-- Either no fault was raised, or one was, last of all, and the run ended in it. -/
inductive Run.FaultsLast {α : Type} (run : Run α) : Prop
  | calm (noneRaised : ∀ event ∈ run.history, ¬event.RaisesFault)
      (noneEnded : ∀ fault, run.ending ≠ .error (.fault fault))
  | faulted {earlier : List Event} {origin : Origin} {fault : Fault} {place : Cursor}
      (noneRaised : ∀ event ∈ earlier, ¬event.RaisesFault)
      (history : run.history = earlier ++ [.raised origin (.fault fault) place])
      (ending : run.ending = .error (.fault fault))

namespace Run.FaultsLast

variable {α β : Type}

theorem congr {run : Run α} {other : Run β} (holds : run.FaultsLast)
    (sameHistory : other.history = run.history)
    (sameFault : ∀ fault, other.ending = .error (.fault fault) ↔
      run.ending = .error (.fault fault)) : other.FaultsLast := by
  cases holds with
  | calm noneRaised noneEnded =>
      refine .calm ?_ ?_
      · rw [sameHistory]
        exact noneRaised
      · intro fault faulted
        exact noneEnded fault ((sameFault fault).mp faulted)
  | faulted noneRaised history ending =>
      exact .faulted noneRaised (sameHistory.trans history) ((sameFault _).mpr ending)

/-- What happened before, without a fault, does not matter. -/
theorem prepend {run : Run α} (holds : run.FaultsLast) {earlier : List Event}
    (earlierCalm : ∀ event ∈ earlier, ¬event.RaisesFault) :
    (⟨run.ending, earlier ++ run.history⟩ : Run α).FaultsLast := by
  cases holds with
  | calm noneRaised noneEnded =>
      exact .calm (List.forall_mem_append.mpr ⟨earlierCalm, noneRaised⟩) noneEnded
  | @faulted before origin fault place noneRaised history ending =>
      have calmBefore := List.forall_mem_append.mpr ⟨earlierCalm, noneRaised⟩
      have wholeHistory : earlier ++ run.history =
          earlier ++ before ++ [.raised origin (.fault fault) place] := by
        rw [history, List.append_assoc]
      exact .faulted calmBefore wholeHistory ending

theorem append {run : Run α} (holds : run.FaultsLast)
    (noneEnded : ∀ fault, run.ending ≠ .error (.fault fault)) {later : List Event}
    (laterCalm : ∀ event ∈ later, ¬event.RaisesFault) :
    (⟨run.ending, run.history ++ later⟩ : Run α).FaultsLast := by
  cases holds with
  | calm noneRaised _ =>
      exact .calm (List.forall_mem_append.mpr ⟨noneRaised, laterCalm⟩) noneEnded
  | faulted _ _ ending => exact absurd ending (noneEnded _)

theorem calm_of_ending {run : Run α} (holds : run.FaultsLast)
    (noneEnded : ∀ fault, run.ending ≠ .error (.fault fault)) :
    ∀ event ∈ run.history, ¬event.RaisesFault := by
  cases holds with
  | calm noneRaised _ => exact noneRaised
  | faulted _ _ ending => exact absurd ending (noneEnded _)

theorem raised (origin : Origin) (error : Error) (cursor : Cursor) :
    (Run.raised origin error cursor : Run α).FaultsLast := by
  cases error with
  | mismatch cause =>
      exact .calm (List.forall_mem_singleton.mpr id) (ending_ne_fault_of_mismatch rfl)
  | fault fault => exact .faulted (List.forall_mem_nil _) rfl rfl

theorem map (transform : α → β) {run : Run α} (holds : run.FaultsLast) :
    (run.map transform).FaultsLast := by
  refine holds.congr (history_map transform run) ?_
  intro fault
  rcases ended : run.ending with error | answer <;> simp [ended, Except.map]

theorem andThen {run : Run α} {next : α → Run β} (holds : run.FaultsLast)
    (nextHolds : ∀ answer, (next answer).FaultsLast) : (run.andThen next).FaultsLast := by
  rcases ended : run.ending with error | answer
  · rw [andThen_of_error next ended]
    refine holds.congr rfl ?_
    intro fault
    simp [ended]
  · rw [andThen_of_ok next ended]
    exact (nextHolds answer).prepend (holds.calm_of_ending (ending_ne_fault_of_ok ended))

theorem orElse {run : Run α} {alternative : Unit → Run α} (holds : run.FaultsLast)
    (alternativeHolds : (alternative ()).FaultsLast) : (run.orElse alternative).FaultsLast := by
  rcases ended : run.ending with (cause | fault) | answer
  · rw [orElse_of_mismatch alternative ended]
    exact alternativeHolds.prepend (holds.calm_of_ending (ending_ne_fault_of_mismatch ended))
  · rw [orElse_of_fault alternative ended]
    exact holds
  · rw [orElse_of_ok alternative ended]
    exact holds

/-- An attempt that is told of is closed by an event of its own unless it ends in a fault. -/
theorem toldAs (tag : String) (ahead : List Char) (cursor : Cursor) {run : Run Reply}
    (holds : run.FaultsLast) : (run.toldAs tag ahead cursor).FaultsLast := by
  have opened : ∀ event ∈ [Event.trying tag ahead], ¬event.RaisesFault :=
    List.forall_mem_singleton.mpr id
  have attempted := holds.prepend opened
  rw [Run.toldAs, ← List.singleton_append]
  rcases ended : run.ending with (cause | fault) | reply <;> rw [ended] at attempted
  · exact attempted.append (ending_ne_fault_of_mismatch rfl) (List.forall_mem_singleton.mpr id)
  · rw [closingsOf, List.append_nil]
    exact attempted
  · exact attempted.append (ending_ne_fault_of_ok rfl) (List.forall_mem_singleton.mpr id)

theorem invariant : Run.Invariant @Run.FaultsLast where
  done answer := .calm (List.forall_mem_nil _) (ending_ne_fault_of_ok rfl)
  raised := raised
  entered cursor run holds := by
    have entered : ∀ event ∈ [Event.entered cursor], ¬event.RaisesFault :=
      List.forall_mem_singleton.mpr id
    exact holds.prepend entered
  map := map
  andThen := andThen
  orElse := orElse
  told := toldAs

/-- A run in which a fault was raised ends in it, and with it. -/
theorem ends_at {run : Run α} (holds : run.FaultsLast) {earlier later : List Event} {origin : Origin}
    {fault : Fault} {place : Cursor}
    (history : run.history = earlier ++ .raised origin (.fault fault) place :: later) :
    run.ending = .error (.fault fault) ∧ later = [] := by
  have raises : (Event.raised origin (.fault fault) place).RaisesFault := trivial
  cases holds with
  | calm noneRaised _ =>
      have member : .raised origin (.fault fault) place ∈ run.history := by simp [history]
      exact absurd raises (noneRaised _ member)
  | faulted noneRaised whole ending =>
      rw [history] at whole
      rcases List.eq_nil_or_concat later with rfl | ⟨middle, last, rfl⟩
      · have same := (List.append_inj' whole rfl).2
        cases same
        exact ⟨ending, rfl⟩
      · rw [List.concat_eq_append, ← List.cons_append, ← List.append_assoc] at whole
        have same := (List.append_inj' whole rfl).1
        have member : .raised origin (.fault fault) place ∈
            earlier ++ .raised origin (.fault fault) place :: middle := by simp
        rw [same] at member
        exact absurd raises (noneRaised _ member)

/-- A run that ends in a fault has raised it. -/
theorem raised_of_ending {run : Run α} (holds : run.FaultsLast) {fault : Fault}
    (ended : run.ending = .error (.fault fault)) :
    ∃ earlier origin place, run.history = earlier ++ [.raised origin (.fault fault) place] := by
  cases holds with
  | calm _ noneEnded => exact absurd ended (noneEnded fault)
  | faulted _ history ending =>
      rw [ending] at ended
      cases ended
      exact ⟨_, _, _, history⟩

end Run.FaultsLast

namespace Grammar

/-- Each invocation begins before the last event of the whole. -/
theorem Contains.length_lt {grammar : Grammar} {whole part : Invocation} {earlier : List Event}
    (contains : grammar.Contains whole earlier part) :
    earlier.length < (grammar.invoke whole).history.length := by
  rcases contains.happensIn with ⟨later, history, _⟩
  have told : (grammar.invoke part).history ≠ [] := Parser.history_step_ne_nil _ _ _
  have longer := List.length_pos_iff.mpr told
  rw [history, List.length_append, List.length_append]
  omega

/-- A fault in which any invocation at any depth ends is the end of the whole run, and so is a fault
that anyone raises: nothing happens after it, and every invocation of the run began before it. -/
theorem fault_ends_parse (grammar : Grammar) (parser : Parser) (cursor : Cursor) (fault : Fault) :
    (∀ earlier part, grammar.Contains (grammar.outermost parser cursor) earlier part →
        (grammar.invoke part).ending = .error (.fault fault) →
          (grammar.parse parser cursor).ending = .error (.fault fault) ∧
            (grammar.parse parser cursor).history = earlier ++ (grammar.invoke part).history ∧
            ∃ before origin place, (grammar.invoke part).history =
              before ++ [.raised origin (.fault fault) place]) ∧
      ∀ earlier origin place later,
        (grammar.parse parser cursor).history =
            earlier ++ .raised origin (.fault fault) place :: later →
          (grammar.parse parser cursor).ending = .error (.fault fault) ∧ later = [] ∧
            ∀ before other, grammar.Contains (grammar.outermost parser cursor) before other →
              before.length ≤ earlier.length := by
  constructor
  · intro earlier part contains faulted
    rcases contains.happensIn with ⟨later, history, ends⟩
    rcases ends fault faulted with ⟨ending, rfl⟩
    rw [List.append_nil] at history
    have partHolds : (grammar.invoke part).FaultsLast :=
      Run.FaultsLast.invariant.step (Run.FaultsLast.invariant.resolve grammar _) _ _
    exact ⟨ending, history, partHolds.raised_of_ending faulted⟩
  · intro earlier origin place later history
    have holds := Run.FaultsLast.invariant.parse grammar parser cursor
    rcases holds.ends_at history with ⟨ending, rfl⟩
    refine ⟨ending, rfl, ?_⟩
    intro before other contains
    have begins := contains.length_lt
    rw [invoke_outermost, history, List.length_append, List.length_singleton] at begins
    omega

/-- A definition that reads a symbol and raises a fault. -/
private def faulty : Grammar :=
  ⟨[("item", (Parser.word ['a']).keepRight (.raise (.fault .outOfRange)))]⟩

/-- The definition within a choice within a repetition within a fallback. -/
private def recovering : Parser :=
  Parser.fallback .absent (.zeroOrMore (.orElse (.reference "item") (.pure .absent)))

theorem fault_ends_parse_recovering :
    (faulty.parse recovering (.start (.text #['a', 'b']))).ending = .error (.fault .outOfRange) := by
  have matched : (faulty.invoke ⟨Parser.word ['a'], .start (.text #['a', 'b']), 3⟩).ending =
      .ok ⟨.text ['a'], ⟨.text #['a', 'b'], 1⟩⟩ := rfl
  have contains : faulty.Contains (faulty.outermost recovering (.start (.text #['a', 'b']))) _
      ⟨.raise (.fault .outOfRange), ⟨.text #['a', 'b'], 1⟩, 3⟩ :=
    .inner .preferred (.inner (.zeroOrMore (.start _)) (.inner .preferred
      (.inner (.reference rfl) (.inner (.next matched) (.itself _)))))
  have ends := (faulty.fault_ends_parse recovering (.start (.text #['a', 'b'])) .outOfRange).1
  exact (ends _ _ contains rfl).1

end Grammar

end CursorParsing
