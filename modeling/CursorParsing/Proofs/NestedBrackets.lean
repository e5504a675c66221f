import CursorParsing.Nesting
import CursorParsing.Proofs.Taking

/-!
# Nested brackets

An `x` in brackets is read where as many are closed behind it as were opened in front of it, and nowhere
else. Whatever was read within, a bracket that is not closed makes nothing of it.
-/

namespace CursorParsing

namespace Grammar

variable {grammar : Grammar} {parser first : Parser} {left middle : List Char} {value : Value}

/-- What the first parser takes is given back if the next one refuses the rest. -/
theorem Takes.flatMap_refuses {next : Value → Parser} (takes : grammar.Takes first left value middle)
    (refuses : grammar.Refuses (next value) middle) : grammar.Refuses (.flatMap first next) left := by
  intro cursor here
  rcases takes cursor here with ⟨between, matched, there⟩
  rcases refuses between there with ⟨cause, failed⟩
  refine ⟨cause, ?_⟩
  rw [ending_parse_flatMap, Run.andThen_of_ok _ matched]
  exact failed

theorem Refuses.run (refuses : grammar.Refuses parser left) {cursor : Cursor}
    (here : cursor.HasLeft left) :
    ∃ cause, (grammar.run parser cursor).1 = .error (.mismatch cause) := by
  rcases refuses cursor here with ⟨cause, failed⟩
  exact ⟨cause, by simp [Grammar.run, failed]⟩

end Grammar

namespace Nesting

open CursorParsing.Parser

/-! ## Brackets around an `x` -/

/-- An `x` with so many brackets opened in front of it and as many closed behind it. -/
def bracketed (depth : Nat) : List Char := List.replicate depth '(' ++ 'x' :: List.replicate depth ')'

theorem bracketed_zero_append (rest : List Char) : bracketed 0 ++ rest = 'x' :: rest := rfl

theorem bracketed_succ_append (depth : Nat) (rest : List Char) :
    bracketed (depth + 1) ++ rest = '(' :: (bracketed depth ++ ')' :: rest) := by
  rw [bracketed, List.replicate_succ (a := '('), List.replicate_succ' (a := ')')]
  simp [bracketed]

theorem length_bracketed (depth : Nat) : (bracketed depth).length = depth + (depth + 1) := by
  simp [bracketed]

/-- The brackets in front tell how many there are behind, and so what comes after them. -/
theorem bracketed_append_inj {depth other : Nat} {rest after : List Char}
    (same : bracketed depth ++ rest = bracketed other ++ after) : depth = other ∧ rest = after := by
  induction depth generalizing other rest after with
  | zero =>
      cases other with
      | zero => exact ⟨rfl, List.append_cancel_left same⟩
      | succ other =>
          rw [bracketed_zero_append, bracketed_succ_append] at same
          cases (List.cons.inj same).1
  | succ depth induction =>
      cases other with
      | zero =>
          rw [bracketed_zero_append, bracketed_succ_append] at same
          cases (List.cons.inj same).1
      | succ other =>
          rw [bracketed_succ_append, bracketed_succ_append] at same
          rcases induction (List.cons.inj same).2 with ⟨rfl, sameRest⟩
          exact ⟨rfl, (List.cons.inj sameRest).2⟩

/-! ## One pair of brackets -/

section Pair

variable {left rest : List Char} {value : Value}

theorem takes_x (rest : List Char) :
    brackets.Takes (.reference "nested") ('x' :: rest) (.text ['x']) rest := by
  have noBracket := brackets.refuses_character (by decide : '(' ≠ 'x') rest
  have letter := brackets.takes_character 'x' rest
  exact (noBracket.flatMap.flatMap.orElse_takes letter).reference rfl

theorem takes_brackets (inner : brackets.Takes (.reference "nested") left value (')' :: rest)) :
    brackets.Takes (.reference "nested") ('(' :: left) value rest := by
  have opening := brackets.takes_character '(' left
  have closing := brackets.takes_character ')' rest
  exact ((opening.keepRight inner).keepLeft closing).orElse.reference rfl

/-- If the first way fails behind an opening bracket, the second way is no help: it wants an `x`. -/
theorem refuses_brackets
    (inner : brackets.Refuses
      (((word ['(']).keepRight (.reference "nested")).keepLeft (word [')'])) ('(' :: left)) :
    brackets.Refuses (.reference "nested") ('(' :: left) := by
  have noLetter := brackets.refuses_character (by decide : 'x' ≠ '(') left
  exact (inner.orElse noLetter).reference rfl

theorem refuses_unread (inner : brackets.Refuses (.reference "nested") left) :
    brackets.Refuses (.reference "nested") ('(' :: left) := by
  have opening := brackets.takes_character '(' left
  exact refuses_brackets (opening.flatMap_refuses inner).flatMap

theorem refuses_unclosed (inner : brackets.Takes (.reference "nested") left value rest)
    (noBracket : ¬[')'] <+: rest) : brackets.Refuses (.reference "nested") ('(' :: left) := by
  have opening := brackets.takes_character '(' left
  have unclosed : brackets.Refuses (word [')']) rest :=
    Grammar.refuses_word (List.cons_ne_nil _ _) noBracket
  exact refuses_brackets ((opening.keepRight inner).flatMap_refuses unclosed.flatMap)

theorem refuses_neither (noBracket : ¬['('] <+: left) (noLetter : ¬['x'] <+: left) :
    brackets.Refuses (.reference "nested") left := by
  have unopened : brackets.Refuses (word ['(']) left :=
    Grammar.refuses_word (List.cons_ne_nil _ _) noBracket
  have letterless : brackets.Refuses (word ['x']) left :=
    Grammar.refuses_word (List.cons_ne_nil _ _) noLetter
  exact (unopened.flatMap.flatMap.orElse letterless).reference rfl

end Pair

/-! ## Any number of brackets -/

theorem takes_bracketed (depth : Nat) (rest : List Char) :
    brackets.Takes (.reference "nested") (bracketed depth ++ rest) (.text ['x']) rest := by
  induction depth generalizing rest with
  | zero => exact takes_x rest
  | succ depth induction =>
      rw [bracketed_succ_append]
      exact takes_brackets (induction (')' :: rest))

/-- By induction over the text: behind an opening bracket the rest of the text is read or refused first. -/
theorem bracketed_or_refuses (left : List Char) :
    (∃ depth rest, left = bracketed depth ++ rest) ∨
      brackets.Refuses (.reference "nested") left := by
  induction left with
  | nil => exact .inr (refuses_neither (by simp) (by simp))
  | cons character left induction =>
      by_cases opens : character = '('
      · subst opens
        rcases induction with ⟨depth, rest, rfl⟩ | refuses
        · by_cases closes : [')'] <+: rest
          · rcases closes with ⟨rest, rfl⟩
            exact .inl ⟨depth + 1, rest, (bracketed_succ_append depth rest).symm⟩
          · exact .inr (refuses_unclosed (takes_bracketed depth rest) closes)
        · exact .inr (refuses_unread refuses)
      · by_cases letter : character = 'x'
        · subst letter
          exact .inl ⟨0, left, rfl⟩
        · refine .inr (refuses_neither ?_ ?_)
          · simpa using Ne.symm opens
          · simpa using Ne.symm letter

/-- The grammar of brackets reads a text exactly if it begins with an `x` in any number of brackets, and
leaves what comes after the last of them. There is only one such beginning, and every other text is a
mismatch. -/
theorem run_nested_iff (text : List Char) :
    (∀ answer, (brackets.run (.reference "nested") (.start (.text text.toArray))).1 = .ok answer ↔
        ∃ depth rest, text = bracketed depth ++ rest ∧ answer = ⟨.text ['x'], .text rest⟩) ∧
      (∀ depth other rest after, text = bracketed depth ++ rest → text = bracketed other ++ after →
        depth = other ∧ rest = after) ∧
      ((∀ depth rest, text ≠ bracketed depth ++ rest) →
        ∃ cause, (brackets.run (.reference "nested") (.start (.text text.toArray))).1 =
          .error (.mismatch cause)) := by
  have here : (Cursor.start (.text text.toArray)).HasLeft text := Cursor.hasLeft_text _ 0
  refine ⟨?reads, fun depth other rest after first second => ?unique, ?refuses⟩
  case reads =>
    intro answer
    constructor
    · intro ended
      rcases bracketed_or_refuses text with ⟨depth, rest, rfl⟩ | refuses
      · have taken := (takes_bracketed depth rest).run here
        exact ⟨depth, rest, rfl, Except.ok.inj (ended.symm.trans taken)⟩
      · rcases refuses.run here with ⟨cause, failed⟩
        cases ended.symm.trans failed
    · intro given
      rcases given with ⟨depth, rest, rfl, rfl⟩
      exact (takes_bracketed depth rest).run here
  case unique => exact bracketed_append_inj (first.symm.trans second)
  case refuses =>
    intro other
    rcases bracketed_or_refuses text with ⟨depth, rest, split⟩ | refuses
    · cases other depth rest split
    · exact refuses.run here

/-- Two brackets are closed and a third one is left; with one of them missing nothing is read at all. -/
theorem run_nested_iff_unbalanced :
    (brackets.run (.reference "nested") (.start (.text "((x)))".toList.toArray))).1 =
        .ok ⟨.text ['x'], .text [')']⟩ ∧
      ∃ cause, (brackets.run (.reference "nested") (.start (.text "((x)".toList.toArray))).1 =
        .error (.mismatch cause) := by
  constructor
  · exact ((run_nested_iff _).1 _).mpr ⟨2, [')'], rfl, rfl⟩
  · apply (run_nested_iff _).2.2
    intro depth rest same
    have short : (bracketed depth ++ rest).length = 4 := congrArg List.length same.symm
    rw [List.length_append, length_bracketed] at short
    match depth with
    | 0 | 1 => cases same
    | depth + 2 => omega

end Nesting

end CursorParsing
