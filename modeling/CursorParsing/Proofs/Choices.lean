import CursorParsing.Parser.Combinators
import CursorParsing.Proofs.Invocations

/-!
# Ordered choice

A choice tries its alternatives in their order, each of them once and all at the same place, until one
ends in anything but a mismatch. That one decides; if there is none, the last one does. It does not
matter how the choice is bracketed.
-/

namespace CursorParsing

/-! ## Bracketings -/

/-- A parser is a choice between a first alternative and the others, bracketed in one way or another. -/
inductive Parser.ChoosesFrom : Parser → (first : Parser) → (others : List Parser) → Prop
  | single (parser : Parser) : ChoosesFrom parser parser []
  | orElse {left right first second : Parser} {others more : List Parser}
      (early : ChoosesFrom left first others) (late : ChoosesFrom right second more) :
      ChoosesFrom (.orElse left right) first (others ++ second :: more)

theorem Parser.ChoosesFrom.foldl {parser first : Parser} {others : List Parser}
    (chooses : ChoosesFrom parser first others) (more : List Parser) :
    ChoosesFrom (more.foldl .orElse parser) first (others ++ more) := by
  induction more generalizing parser others with
  | nil =>
      rw [List.append_nil]
      exact chooses
  | cons next more induction =>
      have longer := induction (chooses.orElse (.single next))
      rw [List.append_assoc] at longer
      exact longer

theorem Parser.choosesFrom_choice (first : Parser) (others : List Parser) :
    ChoosesFrom (.choice first others) first others :=
  (ChoosesFrom.single first).foldl others

namespace Grammar

variable {grammar : Grammar} {cursor : Cursor}

/-! ## One alternative after the other -/

/-- Try the alternatives from left to right, each at the same place. -/
def tryInTurn (grammar : Grammar) (cursor : Cursor) : (first : Parser) → (others : List Parser) → Run Reply
  | first, [] => grammar.parse first cursor
  | first, second :: others =>
    (grammar.parse first cursor).orElse fun _ => grammar.tryInTurn cursor second others

theorem tryInTurn_append (first second : Parser) (others more : List Parser) :
    grammar.tryInTurn cursor first (others ++ second :: more) =
      (grammar.tryInTurn cursor first others).orElse fun _ =>
        grammar.tryInTurn cursor second more := by
  induction others generalizing first with
  | nil => rfl
  | cons next others induction =>
      rw [List.cons_append, tryInTurn, tryInTurn, Run.orElse_assoc, induction]

theorem parse_of_choosesFrom {whole first : Parser} {others : List Parser}
    (chooses : whole.ChoosesFrom first others) :
    grammar.parse whole cursor = grammar.tryInTurn cursor first others := by
  induction chooses with
  | single parser => rfl
  | @orElse left right first second others more _ _ leftTries rightTries =>
      calc grammar.parse (.orElse left right) cursor
          = (grammar.parse left cursor).orElse fun _ => grammar.parse right cursor := rfl
        _ = grammar.tryInTurn cursor first (others ++ second :: more) := by
            rw [leftTries, rightTries, tryInTurn_append]

/-! ## The alternative that decides -/

/-- Of alternatives in their order, one decides at a place: those before it do not match there, and it
does not end in a mismatch itself unless it is the last. -/
structure Decides (grammar : Grammar) (cursor : Cursor) (before : List Parser) (deciding : Parser)
    (after : List Parser) : Prop where
  before_mismatch : ∀ parser ∈ before, ∃ cause,
    (grammar.parse parser cursor).ending = .error (.mismatch cause)
  decides : after = [] ∨ (grammar.parse deciding cursor).NeverMismatches

theorem exists_decides (grammar : Grammar) (cursor : Cursor) (first : Parser) (others : List Parser) :
    ∃ before deciding after, first :: others = before ++ deciding :: after ∧
      grammar.Decides cursor before deciding after := by
  induction others generalizing first with
  | nil => exact ⟨[], first, [], rfl, List.forall_mem_nil _, .inl rfl⟩
  | cons second others induction =>
      by_cases never : (grammar.parse first cursor).NeverMismatches
      · exact ⟨[], first, second :: others, rfl, List.forall_mem_nil _, .inr never⟩
      · have mismatched : ∃ cause, (grammar.parse first cursor).ending = .error (.mismatch cause) := by
          simpa [Run.NeverMismatches] using never
        rcases induction second with ⟨before, deciding, after, split, decides⟩
        refine ⟨first :: before, deciding, after, congrArg (first :: ·) split, ?_, decides.decides⟩
        exact List.forall_mem_cons.mpr ⟨mismatched, decides.before_mismatch⟩

theorem Decides.tryInTurn_eq {first deciding : Parser} {others before after : List Parser}
    (decides : grammar.Decides cursor before deciding after)
    (split : first :: others = before ++ deciding :: after) :
    grammar.tryInTurn cursor first others =
      ⟨(grammar.parse deciding cursor).ending,
        (before ++ [deciding]).flatMap fun parser => (grammar.parse parser cursor).history⟩ := by
  induction before generalizing first others with
  | nil =>
      cases split
      have alone : grammar.tryInTurn cursor deciding after = grammar.parse deciding cursor := by
        cases after with
        | nil => rfl
        | cons second after =>
            have never := decides.decides.resolve_left (List.cons_ne_nil _ _)
            rcases ended : (grammar.parse deciding cursor).ending with (cause | fault) | reply
            · exact absurd ended (never cause)
            · exact Run.orElse_of_fault _ ended
            · exact Run.orElse_of_ok _ ended
      rw [alone, List.nil_append, List.flatMap_singleton]
  | cons parser before induction =>
      rcases List.forall_mem_cons.mp decides.before_mismatch with ⟨⟨cause, mismatched⟩, laterBefore⟩
      have later : grammar.Decides cursor before deciding after := ⟨laterBefore, decides.decides⟩
      rcases List.cons.inj split with ⟨rfl, remaining⟩
      cases others with
      | nil => exact absurd remaining.symm (by simp)
      | cons second others =>
          rw [tryInTurn, Run.orElse_of_mismatch _ mismatched, induction later remaining,
            List.cons_append, List.flatMap_cons]

/-- Of the alternatives of a choice there is one that decides. However the choice is bracketed, it ends
as that one does at the same place, and all that happens is that those before it are run, each of them
once and from there, and then the one that decides; those after it are not run, since no run is without
a trace. -/
theorem choice_decided (grammar : Grammar) (cursor : Cursor) (first : Parser) (others : List Parser) :
    Parser.choice? (first :: others) = .ok (.choice first others) ∧
      (Parser.choice first others).ChoosesFrom first others ∧
      (∃ before deciding after, first :: others = before ++ deciding :: after ∧
        grammar.Decides cursor before deciding after) ∧
      (∀ before deciding after, first :: others = before ++ deciding :: after →
        grammar.Decides cursor before deciding after →
          ∀ whole : Parser, whole.ChoosesFrom first others →
            (grammar.parse whole cursor).ending = (grammar.parse deciding cursor).ending ∧
              (grammar.parse whole cursor).history =
                (before ++ [deciding]).flatMap fun parser => (grammar.parse parser cursor).history) ∧
      ∀ parser : Parser, (grammar.parse parser cursor).history ≠ [] := by
  refine ⟨rfl, Parser.choosesFrom_choice first others, grammar.exists_decides cursor first others, ?_,
    fun parser => parser.history_step_ne_nil _ cursor⟩
  intro before deciding after split decides whole chooses
  rw [parse_of_choosesFrom chooses, decides.tryInTurn_eq split]
  exact ⟨rfl, rfl⟩

private def anA : Parser := .traced "a" (.word ['a'])

private def anAB : Parser := .traced "ab" (.word ['a', 'b'])

private def aB : Parser := .traced "b" (.word ['b'])

/-- Bracketed to the right or to the left, a choice between `ab`, `a` and `b` fails to read the first,
reads the second, and never tries the third. -/
theorem choice_decided_second :
    ∀ whole ∈ [Parser.orElse anAB (.orElse anA aB), .orElse (.orElse anAB anA) aB],
      (empty.parse whole (.start (.text #['a', 'c']))).ending =
          .ok ⟨.text ['a'], ⟨.text #['a', 'c'], 1⟩⟩ ∧
        logLines (empty.parse whole (.start (.text #['a', 'c']))).history =
          logLines (empty.parse anAB (.start (.text #['a', 'c']))).history ++
            logLines (empty.parse anA (.start (.text #['a', 'c']))).history := by
  have decides : empty.Decides (.start (.text #['a', 'c'])) [anAB] anA [aB] :=
    ⟨List.forall_mem_singleton.mpr ⟨_, rfl⟩, .inr nofun⟩
  intro whole member
  have chooses : whole.ChoosesFrom anAB [anA, aB] := by
    rcases List.mem_cons.mp member with rfl | member
    · exact (Parser.ChoosesFrom.single anAB).orElse ((Parser.ChoosesFrom.single anA).orElse (.single aB))
    · rw [List.mem_singleton.mp member]
      exact Parser.choosesFrom_choice anAB [anA, aB]
  rcases (empty.choice_decided _ anAB [anA, aB]).2.2.2.1 _ _ _ rfl decides whole chooses with
    ⟨ending, history⟩
  refine ⟨ending, ?_⟩
  rw [history]
  simp [logLines]

end Grammar

end CursorParsing
