import CursorParsing.Nesting
import CursorParsing.Proofs.Numerals
import CursorParsing.Proofs.TextReading

/-!
# Nested lists

A number, or a list of numbers and lists, however deep and wide, is read again as it is written.
-/

namespace CursorParsing.Nesting

open CursorParsing.Parser

/-! ## Trees and how they are written -/

inductive Tree where
  | number (value : Nat)
  | list (items : List Tree)

namespace Tree

mutual
def toValue : Tree → Value
  | .number value => .int value
  | .list items => .list (toValues items)

def toValues : List Tree → List Value
  | [] => []
  | item :: rest => item.toValue :: toValues rest
end

mutual
/-- Numbers in decimal, lists in brackets with a comma between neighbours. -/
def write : Tree → List Char
  | .number value => Number.digits value
  | .list items => '[' :: [','].intercalate (writeAll items) ++ [']']

def writeAll : List Tree → List (List Char)
  | [] => []
  | item :: rest => item.write :: writeAll rest
end

theorem intercalate_writeAll_cons (item next : Tree) (items : List Tree) (rest : List Char) :
    [','].intercalate (writeAll (item :: next :: items)) ++ rest =
      item.write ++ ',' :: ([','].intercalate (writeAll (next :: items)) ++ rest) := by
  simp [writeAll, List.intercalate_cons_cons]

theorem length_lt_of_write (tree : Tree) (rest : List Char) :
    rest.length < (tree.write ++ rest).length := by
  have written : tree.write ≠ [] := by
    cases tree with
    | number value => exact Number.digits_ne_nil value
    | list items => exact List.cons_ne_nil _ _
  have positive := List.length_pos_iff.mpr written
  rw [List.length_append]
  omega

end Tree

/-! ## Numbers -/

section Numbers

variable (grammar : Grammar) {left rest : List Char}

theorem reads_digits :
    Reads grammar (.oneOrMore (oneCharOf digitCharacters))
      (fun digits : List Char => .list (digits.map .ofChar))
      (Form.oneThat fun character => character ∈ digitCharacters).atLeastOnce :=
  (Reads.oneCharOf grammar digitCharacters).oneOrMore (Form.consumes_oneThat _)

/-- The digits of a number go on as long as there are any. -/
theorem takes_number (value : Nat) (noDigit : ∀ character ∈ rest.head?, character ∉ digitCharacters) :
    grammar.Takes number (Number.digits value ++ rest) (.int value) rest := by
  have isDigit (character : Char) (member : character ∈ Number.digits value) :
      decide (character ∈ digitCharacters) = true :=
    decide_eq_true ((mem_digitCharacters_iff character).mpr (Number.isDigit_of_mem_digits member))
  have ends (character : Char) (starts : character ∈ rest.head?) :
      decide (character ∈ digitCharacters) = false := decide_eq_false (noDigit character starts)
  have run := Form.many_oneThat_iff.mpr ⟨rfl, isDigit, ends⟩
  apply ((reads_digits grammar).takes ⟨run, Number.digits_ne_nil value⟩).map
  rw [Value.joinSymbols_characters]
  exact Value.toInteger_digits value

theorem refuses_number (noDigit : ∀ character ∈ left.head?, character ∉ digitCharacters) :
    grammar.Refuses number left := by
  apply ((reads_digits grammar).refuses _).flatMap
  rintro digits rest ⟨formed, notEmpty⟩
  rcases Form.many_oneThat_iff.mp formed with ⟨rfl, isDigit, _⟩
  cases digits with
  | nil => exact notEmpty rfl
  | cons character digits =>
      exact noDigit character rfl (of_decide_eq_true (isDigit character List.mem_cons_self))

end Numbers

/-! ## Items and elements -/

theorem not_mem_digitCharacters_of_head? {character : Char} (noDigit : character ∉ digitCharacters)
    (rest : List Char) : ∀ starts ∈ (character :: rest).head?, starts ∉ digitCharacters := by
  intro starts same
  cases same
  exact noDigit

section Items

variable {left rest : List Char} {value : Value} {values : List Value}

theorem refuses_item (rest : List Char) : lists.Refuses (.reference "item") (']' :: rest) := by
  have noNumber : lists.Refuses number (']' :: rest) :=
    refuses_number lists (not_mem_digitCharacters_of_head? (by decide) rest)
  have noList := lists.refuses_character (by decide : '[' ≠ ']') rest
  exact (noNumber.orElse noList.flatMap.flatMap).reference rfl

theorem refuses_element (rest : List Char) : lists.Refuses (.reference "element") (']' :: rest) :=
  (refuses_item rest).flatMap.reference rfl

theorem takes_element (takes : lists.Takes (.reference "item") left value (',' :: rest)) :
    lists.Takes (.reference "element") left value rest := by
  have comma := lists.takes_character ',' rest
  exact (takes.keepLeft comma.asBool).reference rfl

/-- No comma follows the last element. -/
theorem takes_last_element (takes : lists.Takes (.reference "item") left value (']' :: rest)) :
    lists.Takes (.reference "element") left value (']' :: rest) := by
  have noComma := lists.refuses_character (by decide : ',' ≠ ']') rest
  exact (takes.keepLeft noComma.asBool).reference rfl

theorem takes_list (runs : lists.TakesRuns (.reference "element") left values (']' :: rest)) :
    lists.Takes (.reference "item") ('[' :: left) (.list values) rest := by
  have noNumber : lists.Refuses number ('[' :: left) :=
    refuses_number lists (not_mem_digitCharacters_of_head? (by decide) left)
  have opening := lists.takes_character '[' left
  have elements := runs.zeroOrMore (refuses_element rest)
  have closing := lists.takes_character ']' rest
  exact (noNumber.orElse_takes ((opening.keepRight elements).keepLeft closing)).reference rfl

end Items

/-! ## Trees are read as they are written -/

namespace Tree

mutual
theorem takes_write : (tree : Tree) → (rest : List Char) →
    (∀ character ∈ rest.head?, character ∉ digitCharacters) →
      lists.Takes (.reference "item") (tree.write ++ rest) tree.toValue rest
  | .number value, _, noDigit => (takes_number lists value noDigit).orElse.reference rfl
  | .list items, rest, _ => by
      have runs := takesRuns_write items rest
      have written : (list items).write ++ rest =
          '[' :: ([','].intercalate (writeAll items) ++ ']' :: rest) := by
        simp [write]
      rw [written]
      exact takes_list runs

/-- Neither a comma nor the closing bracket is a digit, so every number ends where it should. -/
theorem takesRuns_write : (items : List Tree) → (rest : List Char) →
    lists.TakesRuns (.reference "element") ([','].intercalate (writeAll items) ++ ']' :: rest)
      (toValues items) (']' :: rest)
  | [], rest => .none _
  | [item], rest => by
      rw [writeAll, writeAll, List.intercalate_singleton]
      refine .next ⟨takes_last_element (takes_write item _ ?_), ?_⟩ (.none _)
      · exact not_mem_digitCharacters_of_head? (by decide) rest
      · exact item.length_lt_of_write _
  | item :: next :: items, rest => by
      have more := takesRuns_write (next :: items) rest
      rw [intercalate_writeAll_cons]
      refine .next ⟨takes_element (takes_write item _ ?_), ?_⟩ more
      · exact not_mem_digitCharacters_of_head? (by decide) _
      · exact Nat.lt_of_succ_lt (item.length_lt_of_write (',' :: _))
end

/-- However deep and wide a tree is, the grammar of lists reads it as it is written and leaves what comes
after it, as long as that does not begin with another digit. -/
theorem run_item_write (tree : Tree) (tail : List Char)
    (noDigit : ∀ character ∈ tail.head?, character ∉ digitCharacters) :
    (lists.run (.reference "item") (.start (.text (tree.write ++ tail).toArray))).1 =
      .ok ⟨tree.toValue, .text tail⟩ :=
  (takes_write tree tail noDigit).run (Cursor.hasLeft_text _ 0)

private def mixedTree : Tree := list [number 1, list [], list [number 20, list [number 3]]]

/-- The comma that follows the whole list is left. -/
theorem run_item_write_nested :
    (lists.run (.reference "item") (.start (.text "[1,[],[20,[3]]],4".toList.toArray))).1 =
      .ok ⟨.list [.int 1, .list [], .list [.int 20, .list [.int 3]]], .text [',', '4']⟩ := by
  have written : mixedTree.write ++ [',', '4'] = "[1,[],[20,[3]]],4".toList := by decide
  rw [← written]
  exact run_item_write mixedTree [',', '4'] (not_mem_digitCharacters_of_head? (by decide) ['4'])

end Tree

end CursorParsing.Nesting
