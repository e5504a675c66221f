import CursorParsing.Proofs.Advancing
import CursorParsing.Proofs.Locality

/-!
# Looking ahead

Where a cursor leads and what is seen from it are told by the symbols that are left. Advancing drops the
first of them, looking ahead shows what advancing would drop or come to, and past the end nothing is left
to be dropped or shown.
-/

namespace CursorParsing

/-! ## Parts of a source -/

namespace Source

/-- One sequence after another of the same kind. -/
def append? : Source → Source → Option Source
  | .text left, .text right => some (.text (left ++ right))
  | .bytes left, .bytes right => some (.bytes (left ++ right))
  | .buffer left, .buffer right => some (.buffer (left ++ right))
  | .list left, .list right => some (.list (left ++ right))
  | .tuple left, .tuple right => some (.tuple (left ++ right))
  | _, _ => none

theorem symbols_append? {left right whole : Source} (joined : left.append? right = some whole) :
    whole.symbols = left.symbols ++ right.symbols := by
  cases left <;> cases right <;> cases joined <;> simp [symbols]

/-- Two parts make one if the second begins where the first ends. -/
theorem append?_slice (source : Source) {first middle last : Nat} (notBefore : first ≤ middle)
    (notBehind : middle ≤ last) :
    (source.slice first middle).append? (source.slice middle last) =
      some (source.slice first last) := by
  cases source <;>
    simp only [slice, append?, Array.extract_append_extract, Nat.min_eq_left notBefore,
      Nat.max_eq_right notBehind]

/-- A part that does not begin before its end is empty, wherever it begins. -/
theorem slice_eq_of_last_le (source : Source) {first other last : Nat} (ends : last ≤ first)
    (otherEnds : last ≤ other) : source.slice first last = source.slice other last := by
  cases source <;>
    simp only [slice, Array.extract_empty_of_stop_le_start ends,
      Array.extract_empty_of_stop_le_start otherEnds]

end Source

namespace Cursor

/-! ## Advancing twice -/

theorem onward_onward (first second : Nat) (cursor : Cursor) :
    (cursor.onward first).onward second = cursor.onward (first + second) := by
  have samePlace : min (min (cursor.position + first) cursor.source.size + second)
      cursor.source.size = min (cursor.position + (first + second)) cursor.source.size := by omega
  simp only [onward, samePlace]

/-! ## What is ahead -/

section Ahead

variable (count : Nat) (cursor : Cursor)

theorem sliceAhead_natCast :
    cursor.sliceAhead count = cursor.source.slice cursor.position (cursor.position + count) := by
  have notNegative : ¬(cursor.position : Int) + count < 0 := by omega
  have asNumber : ((cursor.position : Int) + count).toNat = cursor.position + count := by omega
  simp only [sliceAhead, notNegative, if_false, asNumber]

theorem remaining_onward :
    (cursor.onward count).remaining =
      cursor.source.slice (cursor.position + count) cursor.source.size := by
  rcases Nat.le_total (cursor.position + count) cursor.source.size with enough | beyond
  · rw [onward, Nat.min_eq_left enough]
    rfl
  · rw [onward, Nat.min_eq_right beyond]
    exact cursor.source.slice_eq_of_last_le (Nat.le_refl _) beyond

/-- No symbol is lost, doubled or out of order between what is ahead and what comes after it. -/
theorem append?_sliceAhead :
    (cursor.sliceAhead count).append? (cursor.onward count).remaining = some cursor.remaining := by
  -- Past the end of the source the parts would not meet, so all of them are taken to end further on.
  let last := max (cursor.position + count) cursor.source.size
  have toLast (first : Nat) :
      cursor.source.slice first cursor.source.size = cursor.source.slice first last :=
    Source.slice_eq_of_size_le first (Nat.le_refl _) (Nat.le_max_right _ _)
  rw [sliceAhead_natCast, remaining_onward, remaining, toLast, toLast]
  exact cursor.source.append?_slice (Nat.le_add_right _ _) (Nat.le_max_left _ _)

theorem peek_natCast : cursor.peek count = .ok cursor.remaining.symbols[count]? := by
  have ahead : cursor.source.symbol? (cursor.position + count) =
      cursor.remaining.symbols[count]? := by
    rw [symbols_remaining, List.getElem?_drop, Source.symbol?_eq_getElem?]
  rcases Nat.lt_or_ge (cursor.position + count) cursor.source.size with inside | outside
  · have notAtEnd : ¬(cursor.position : Int) + count ≥ cursor.source.size := by omega
    have notNegative : ¬(cursor.position : Int) + count < 0 := by omega
    have asNumber : ((cursor.position : Int) + count).toNat = cursor.position + count := by omega
    rcases found : cursor.source.symbol? (cursor.position + count) with _ | symbol
    · have isOutside := (Source.symbol?_eq_none_iff _ _).mp found
      omega
    · simp only [peek, notAtEnd, notNegative, if_false, asNumber, found, ← ahead]
  · have atEnd : (cursor.position : Int) + count ≥ cursor.source.size := by omega
    rw [← ahead, (Source.symbol?_eq_none_iff _ _).mpr outside]
    simp only [peek, atEnd, if_true]

end Ahead

/-! ## What is here -/

section Here

variable (cursor : Cursor)

theorem length_symbols_remaining : cursor.remaining.symbols.length = cursor.length := by
  rw [Source.length_symbols, size_remaining]

theorem isAtEnd_iff : cursor.isAtEnd = true ↔ cursor.remaining.symbols = [] := by
  rw [← List.length_eq_zero_iff, length_symbols_remaining, isAtEnd, decide_eq_true_eq, length,
    Nat.sub_eq_zero_iff_le]

theorem current_of_head? {symbol : Value} (next : cursor.remaining.symbols.head? = some symbol) :
    cursor.current = .ok symbol := by
  rw [← symbol?_eq_head?] at next
  simp only [current, next]

theorem current_of_nil (noneLeft : cursor.remaining.symbols = []) :
    cursor.current = .error (.pastTheEnd cursor.position) := by
  have noSymbol : cursor.source.symbol? cursor.position = none := by
    rw [symbol?_eq_head?, noneLeft, List.head?_nil]
  simp only [current, noSymbol]

end Here

/-- From any cursor, advancing twice is advancing at once by both counts; what is ahead, with what is left
behind it, is what is left; there are as many symbols fewer as are dropped, and none at the end only. The
symbol that is seen some way ahead is the one that advancing comes to: it is told by its place in what is
left, and beyond that place there is none. -/
theorem looking_ahead (cursor : Cursor) (count more : Nat) :
    ∃ after, cursor.advance count = .ok after ∧
      after.advance more = cursor.advance ↑(count + more) ∧
      ((cursor.sliceAhead count).append? after.remaining = some cursor.remaining ∧
        (cursor.sliceAhead count).symbols ++ after.remaining.symbols = cursor.remaining.symbols) ∧
      ((after.length : Int) = max ((cursor.length : Int) - count) 0 ∧
        cursor.length = cursor.remaining.size) ∧
      (cursor.isAtEnd = true ↔ cursor.remaining.symbols = []) ∧
      (count < cursor.length →
        ∃ symbol, cursor.remaining.symbols[count]? = some symbol ∧
          cursor.peek count = .ok (some symbol) ∧ after.current = .ok symbol) ∧
      (cursor.length ≤ count →
        cursor.peek count = .ok none ∧
          after.current = .error (.pastTheEnd cursor.source.size)) := by
  have dropped := cursor.symbols_remaining_onward count
  have joined := cursor.append?_sliceAhead count
  refine ⟨cursor.onward count, cursor.advance_eq_onward count, ?twice,
    ⟨joined, (Source.symbols_append? joined).symm⟩, ⟨?length, cursor.size_remaining.symm⟩,
    cursor.isAtEnd_iff, ?within, ?beyond⟩
  case twice =>
    rw [advance_eq_onward, advance_eq_onward, onward_onward]
  case length =>
    rw [length_onward]
    omega
  case within =>
    intro within
    rw [← length_symbols_remaining] at within
    have found := List.getElem?_eq_getElem within
    refine ⟨_, found, (cursor.peek_natCast count).trans (congrArg _ found), ?_⟩
    apply current_of_head?
    rw [dropped, List.head?_drop, found]
  case beyond =>
    intro beyond
    have noneThere : cursor.remaining.symbols.length ≤ count := by
      rwa [length_symbols_remaining]
    have noneLeft : (cursor.onward count).remaining.symbols = [] := by
      rw [dropped, List.drop_eq_nil_of_le noneThere]
    have atSize : (cursor.onward count).position = cursor.source.size := by
      simp only [length] at beyond
      simp only [onward]
      omega
    refine ⟨(cursor.peek_natCast count).trans (congrArg _ (List.getElem?_eq_none noneThere)), ?_⟩
    rw [current_of_nil _ noneLeft, atSize]

end Cursor

end CursorParsing
