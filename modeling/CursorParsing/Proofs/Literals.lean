import CursorParsing.Proofs.Suffix
import Mathlib.Data.List.Forall2

/-!
# Literals

A literal is read exactly where the symbols that are left begin with its own. There is one exception: past
the end of a source not even the empty literal is read, although nothing is missing there.
-/

namespace CursorParsing

/-! ## Equal sequences -/

namespace Value

theorem equal_ofChar (left right : Char) : (ofChar left).equal (ofChar right) = (left == right) := by
  simp [ofChar, equal]

theorem equal_ofOctet (left right : UInt8) : (ofOctet left).equal (ofOctet right) = (left == right) := by
  rw [Bool.eq_iff_iff]
  simp only [ofOctet, equal, beq_iff_eq, Int.ofNat_inj, UInt8.toNat_inj]

theorem equalItems_iff (left right : List Value) :
    equalItems left right = true ↔
      List.Forall₂ (fun item other => item.equal other = true) left right := by
  induction left generalizing right with
  | nil => cases right <;> simp [equalItems]
  | cons item left induction =>
      cases right with
      | nil => simp [equalItems]
      | cons other right => simp [equalItems, induction]

end Value

namespace Source

theorem ofValue?_toValue (source : Source) : ofValue? source.toValue = some source := by
  cases source <;> rfl

/-- A literal can be shown if all its symbols can be written. -/
theorem isWritable_shownLiteral (literal : Source) :
    literal.toValue.shownLiteral.isWritable = literal.isWritable := by
  cases literal with
  | text characters => exact (isWritable_text characters).symm
  | bytes octets => exact (isWritable_bytes octets).symm
  | buffer octets => exact (isWritable_buffer octets).symm
  | list items => exact Value.isWritable_list items.toList
  | tuple items => exact Value.isWritable_list items.toList

/-- Sequences of one kind; the two kinds of octets count as one. -/
def SameKind : Source → Source → Prop
  | .text _, .text _ => True
  | .bytes _, .bytes _ | .bytes _, .buffer _ | .buffer _, .bytes _ | .buffer _, .buffer _ => True
  | .list _, .list _ => True
  | .tuple _, .tuple _ => True
  | _, _ => False

theorem sameKind_slice (source other : Source) (first last : Nat) :
    (source.slice first last).SameKind other ↔ source.SameKind other := by
  cases source <;> cases other <;> rfl

/-- Symbols that are made one by one of what a sequence holds are equal if that is the same. -/
theorem forall₂_equal_map_iff {Item : Type} [BEq Item] [LawfulBEq Item] {symbol : Item → Value}
    (decides : ∀ item other, (symbol item).equal (symbol other) = (item == other))
    (left right : List Item) :
    List.Forall₂ (fun item other => item.equal other = true) (left.map symbol) (right.map symbol) ↔
      left = right := by
  simp only [List.forall₂_map_left_iff, List.forall₂_map_right_iff, decides, beq_iff_eq,
    List.forall₂_eq_eq_eq]

/-- Sequences are equal if they are of one kind and equal symbol by symbol. -/
theorem equal_toValue_iff (left right : Source) :
    left.toValue.equal right.toValue = true ↔
      left.SameKind right ∧
        List.Forall₂ (fun symbol other => symbol.equal other = true) left.symbols right.symbols := by
  cases left <;> cases right <;>
    simp [SameKind, toValue, symbols, Value.equal, Value.numericEqual, Value.exactNumber?,
      Value.equalItems_iff, forall₂_equal_map_iff Value.equal_ofChar,
      forall₂_equal_map_iff Value.equal_ofOctet]

/-- The literal is of the same kind, and the first symbols are equal to its symbols one by one. -/
def IsInFront (literal source : Source) : Prop :=
  source.SameKind literal ∧
    List.Forall₂ (fun symbol expected => symbol.equal expected = true)
      (source.symbols.take literal.size) literal.symbols

end Source

/-! ## Continuations -/

namespace Cursor

variable {cursor : Cursor} {literal : Source}

theorem startsWith_iff_isInFront :
    cursor.startsWith literal = true ↔
      literal.IsInFront cursor.remaining ∧ cursor.position + literal.size ≤ cursor.source.size := by
  rw [startsWith, Bool.and_eq_true, decide_eq_true_eq, and_comm, Source.equal_toValue_iff,
    Source.sameKind_slice, Source.symbols_slice, Nat.add_sub_cancel_left, Source.IsInFront, remaining,
    Source.sameKind_slice, ← remaining, symbols_remaining]

/-- A literal that is in front ends in the source, if it has any symbol. -/
theorem add_size_le_iff (inFront : literal.IsInFront cursor.remaining) :
    cursor.position + literal.size ≤ cursor.source.size ↔
      (literal.size = 0 → cursor.position ≤ cursor.source.size) := by
  have long := inFront.2.length_eq
  rw [symbols_remaining, List.length_take, List.length_drop, Source.length_symbols,
    Source.length_symbols] at long
  omega

theorem symbols_remaining_forward (count : Nat) :
    (cursor.forward count).remaining.symbols = cursor.remaining.symbols.drop count := by
  rw [symbols_remaining, symbols_remaining, source_forward, position_forward, List.drop_drop]

end Cursor

namespace Grammar

theorem ending_parse_literal (grammar : Grammar) (literal : Source) (cursor : Cursor) :
    (grammar.parse (.literal literal.toValue) cursor).ending =
      if cursor.startsWith literal then .ok ⟨literal.toValue, cursor.forward literal.size⟩
      else .error (cursor.refusal (.expectedPrefix literal.toValue)) := by
  change (readLiteral literal.toValue cursor).ending = _
  rw [readLiteral_eq, Source.ofValue?_toValue]
  by_cases holds : cursor.startsWith literal = true <;> simp [holds]

theorem refusal_literal (literal : Source) (cursor : Cursor) :
    cursor.refusal (.expectedPrefix literal.toValue) =
      if literal.isWritable && cursor.isShowable then
        .mismatch (.expectedPrefix literal.toValue cursor.snippet)
      else .fault .integerTooLong := by
  rw [Cursor.refusal_eq, Mismatch.isWritable, Source.isWritable_shownLiteral, Bool.and_comm]

/-- A literal is read exactly where it is in front of what is left, and its symbols are dropped; only the
empty literal is not read past the end of the source. If it is not read, that is told by the mismatch that
shows the literal and what is left, and by no other error; but if either cannot be written, for an integer of
too many digits, then that is a fault. -/
theorem literal_matches_exactly (grammar : Grammar) (literal : Source) (cursor : Cursor) :
    (∀ reply, (grammar.parse (.literal literal.toValue) cursor).ending = .ok reply ↔
        literal.IsInFront cursor.remaining ∧
          (literal.size = 0 → cursor.position ≤ cursor.source.size) ∧
          reply = ⟨literal.toValue, cursor.forward literal.size⟩) ∧
      (cursor.forward literal.size).remaining.symbols = cursor.remaining.symbols.drop literal.size ∧
      ∀ error, (grammar.parse (.literal literal.toValue) cursor).ending = .error error →
        error =
          if literal.isWritable && cursor.isShowable then
            .mismatch (.expectedPrefix literal.toValue cursor.snippet)
          else .fault .integerTooLong := by
  rw [ending_parse_literal]
  refine ⟨fun reply => ?_, Cursor.symbols_remaining_forward _, fun error failed => ?_⟩
  · by_cases holds : cursor.startsWith literal = true
    · rcases Cursor.startsWith_iff_isInFront.mp holds with ⟨inFront, ends⟩
      have inside := (Cursor.add_size_le_iff inFront).mp ends
      rw [if_pos holds, Except.ok.injEq, eq_comm]
      exact ⟨fun same => ⟨inFront, inside, same⟩, fun given => given.2.2⟩
    · rw [if_neg holds]
      refine iff_of_false nofun fun given => holds ?_
      rcases given with ⟨inFront, inside, _⟩
      exact Cursor.startsWith_iff_isInFront.mpr ⟨inFront, (Cursor.add_size_le_iff inFront).mpr inside⟩
  · split at failed <;> cases failed
    exact refusal_literal literal cursor

private def twoLetters : Source := .text #['a', 'b']

/-- Past the end the empty literal is in front of what is left, but is not read. -/
theorem literal_matches_exactly_past_end :
    (Source.text #[]).IsInFront (⟨twoLetters, 3⟩ : Cursor).remaining ∧
      (empty.parse (.literal (.text [])) ⟨twoLetters, 3⟩).ending =
        .error (.mismatch (.expectedPrefix (.text []) [])) :=
  ⟨⟨trivial, .nil⟩, rfl⟩

end Grammar

end CursorParsing
