import CursorParsing.Proofs.Suffix

/-!
# Advancing

Advancing drops symbols, as many as are asked for or as there are. In the source the position moves on by
the number of them. A cursor past the end has none to drop, but any count, even none, takes it back to the
end.
-/

namespace CursorParsing.Cursor

/-! ## One count -/

section OneCount

variable (count : Nat) (cursor : Cursor)

theorem symbols_remaining_onward :
    (cursor.onward count).remaining.symbols = cursor.remaining.symbols.drop count := by
  rw [symbols_remaining, symbols_remaining, List.drop_drop]
  rcases Nat.le_total (cursor.position + count) cursor.source.size with enough | beyond
  · rw [onward, Nat.min_eq_left enough]
  · have short : cursor.source.symbols.length ≤ cursor.position + count := by
      rwa [Source.length_symbols]
    rw [onward, Nat.min_eq_right beyond, ← Source.length_symbols, List.drop_length,
      List.drop_eq_nil_of_le short]

theorem length_onward : (cursor.onward count).length = cursor.length - count := by
  simp only [length, onward]
  omega

theorem position_onward_le : (cursor.onward count).position ≤ cursor.source.size :=
  Nat.min_le_right _ _

/-- What is dropped is what was asked for, or all that there is. -/
theorem length_sub_length_onward :
    cursor.length - (cursor.onward count).length = min count cursor.length := by
  rw [length_onward]
  omega

variable {cursor}

/-- Where there is an end to stop at, advancing leads on. -/
theorem reachesTo_onward (inside : cursor.position ≤ cursor.source.size) :
    cursor.ReachesTo (cursor.onward count) where
  source_eq := rfl
  position_le := Nat.le_min.mpr ⟨Nat.le_add_right _ _, inside⟩
  position_le_max := Nat.le_trans (position_onward_le count cursor) (Nat.le_max_right _ _)

theorem onward_of_past_end (past : cursor.source.size ≤ cursor.position) :
    cursor.onward count = ⟨cursor.source, cursor.source.size⟩ := by
  rw [onward, Nat.min_eq_right (Nat.le_add_right_of_le past)]

theorem onward_zero_eq_self_iff :
    cursor.onward 0 = cursor ↔ cursor.position ≤ cursor.source.size := by
  constructor
  · intro same
    rw [← same]
    exact position_onward_le 0 cursor
  · intro inside
    rw [onward, Nat.add_zero, Nat.min_eq_left inside]

end OneCount

/-! ## One count after the other -/

/-- Advance by each of some counts. -/
def advanceAll : List Nat → Cursor → Except Fault Cursor
  | [], cursor => .ok cursor
  | count :: counts, cursor => do (← cursor.advance count).advanceAll counts

theorem advanceAll_cons (count : Nat) (counts : List Nat) (cursor : Cursor) :
    cursor.advanceAll (count :: counts) = (cursor.onward count).advanceAll counts := by
  rw [advanceAll, advance_eq_onward]
  rfl

theorem advanceAll_append {earlier later : List Nat} {cursor middle : Cursor}
    (led : cursor.advanceAll earlier = .ok middle) :
    cursor.advanceAll (earlier ++ later) = middle.advanceAll later := by
  induction earlier generalizing cursor with
  | nil =>
      cases led
      rfl
  | cons count earlier induction =>
      rw [advanceAll_cons] at led
      rw [List.cons_append, advanceAll_cons]
      exact induction led

/-- From a place in the source, or from its end, all the counts lead on. -/
theorem exists_advanceAll_of_inside {cursor : Cursor}
    (inside : cursor.position ≤ cursor.source.size) (counts : List Nat) :
    ∃ stop, cursor.advanceAll counts = .ok stop ∧ cursor.ReachesTo stop ∧
      stop.position ≤ cursor.source.size := by
  induction counts generalizing cursor with
  | nil => exact ⟨cursor, rfl, .refl cursor, inside⟩
  | cons count counts induction =>
      rcases induction (position_onward_le count cursor) with ⟨stop, led, reaches, within⟩
      rw [advanceAll_cons]
      exact ⟨stop, led, (reachesTo_onward count inside).trans reaches, within⟩

/-- Only a first count can find the cursor past the end. -/
theorem exists_advanceAll (cursor : Cursor) (counts : List Nat) :
    ∃ stop, cursor.advanceAll counts = .ok stop ∧ stop.source = cursor.source ∧
      (cursor.position ≤ cursor.source.size → cursor.position ≤ stop.position) ∧
      (stop.position ≤ stop.source.size ∨ counts = [] ∧ stop = cursor) := by
  cases counts with
  | nil => exact ⟨cursor, rfl, rfl, fun _ => Nat.le_refl _, .inr ⟨rfl, rfl⟩⟩
  | cons count counts =>
      rcases exists_advanceAll_of_inside (position_onward_le count cursor) counts with
        ⟨stop, led, reaches, within⟩
      rw [advanceAll_cons]
      refine ⟨stop, led, reaches.source_eq, ?_, .inl ?_⟩
      · intro inside
        exact ((reachesTo_onward count inside).trans reaches).position_le
      · rwa [reaches.source_eq]

/-- A run of counts goes through, and each of them drops as many symbols as it asks for, or as there are.
The position moves on by just so many, and not at all for a count of none, unless the count is the first
and finds the cursor past the end: then it takes the cursor back to the end. -/
theorem advancing_drops (cursor : Cursor) (earlier : List Nat) (count : Nat) (later : List Nat) :
    ∃ before after stop,
      (cursor.advanceAll earlier = .ok before ∧ before.advance count = .ok after ∧
        after.advanceAll later = .ok stop ∧
        cursor.advanceAll (earlier ++ count :: later) = .ok stop) ∧
      (stop.source = cursor.source ∧
        after.remaining.symbols = before.remaining.symbols.drop count ∧
        before.length - after.length = min count before.length) ∧
      (cursor.position ≤ cursor.source.size → cursor.position ≤ before.position) ∧
      ((earlier = [] → cursor.position ≤ cursor.source.size) →
        before.position ≤ after.position ∧
          after.position - before.position = min count before.length ∧
          (count = 0 → after = before)) ∧
      (earlier = [] → cursor.source.size < cursor.position →
        after.position = cursor.source.size ∧ after.position < before.position) ∧
      after.position ≤ stop.position := by
  rcases cursor.exists_advanceAll earlier with ⟨before, led, sameSource, forward, within⟩
  rcases exists_advanceAll_of_inside (position_onward_le count before) later with
    ⟨stop, ledOn, reaches, _⟩
  have moved := before.advance_eq_onward count
  have whole : cursor.advanceAll (earlier ++ count :: later) = .ok stop := by
    rw [advanceAll_append led, advanceAll_cons, ledOn]
  have dropped := length_sub_length_onward count before
  refine ⟨before, before.onward count, stop, ⟨led, moved, ledOn, whole⟩,
    ⟨reaches.source_eq.trans sameSource, symbols_remaining_onward count before, dropped⟩, forward,
    ?inside, ?pastEnd, reaches.position_le⟩
  case inside =>
    intro startsInside
    have inside : before.position ≤ before.source.size := by
      rcases within with inside | ⟨isFirst, rfl⟩
      · exact inside
      · exact startsInside isFirst
    have leads := reachesTo_onward count inside
    refine ⟨leads.position_le, leads.distance_eq.trans dropped, ?_⟩
    intro isZero
    rw [isZero]
    exact onward_zero_eq_self_iff.mpr inside
  case pastEnd =>
    intro isFirst past
    subst isFirst
    cases led
    rw [onward_of_past_end count (Nat.le_of_lt past)]
    exact ⟨rfl, past⟩

private def twoSymbols : Source := .text #['a', 'b']

/-- Past the end a count of none takes the cursor backwards, and drops nothing. -/
theorem advancing_drops_past_end :
    (⟨twoSymbols, 3⟩ : Cursor).advance 0 = .ok ⟨twoSymbols, 2⟩ ∧
      (⟨twoSymbols, 3⟩ : Cursor).length = 0 ∧ (⟨twoSymbols, 2⟩ : Cursor).length = 0 :=
  ⟨rfl, rfl, rfl⟩

end CursorParsing.Cursor
