import Mathlib.Computability.Language

/-!
# The longest text in front

Of the texts of a language that are in front of a sequence, the longest. In the simplest case the language
is that of all runs of items of one kind: then the longest goes up to the first item of another kind.
-/

namespace CursorParsing

variable {Item : Type} {language : Language Item} {text other rest left : List Item}

/-- Of the texts of a language that are in front, the longest. -/
structure IsLongest (language : Language Item) (text left : List Item) : Prop where
  member : text ∈ language
  inFront : text <+: left
  longest : ∀ other ∈ language, other <+: left → other.length ≤ text.length

theorem IsLongest.unique (isLongest : IsLongest language text left)
    (otherIsLongest : IsLongest language other left) : text = other := by
  have notLonger := otherIsLongest.longest text isLongest.member isLongest.inFront
  have notShorter := isLongest.longest other otherIsLongest.member otherIsLongest.inFront
  have inOther := List.prefix_of_prefix_length_le isLongest.inFront otherIsLongest.inFront notLonger
  exact inOther.eq_of_length (Nat.le_antisymm notLonger notShorter)

/-- A text is the longest if it cannot be continued with what comes after it. -/
theorem isLongest_append_iff :
    IsLongest language text (text ++ rest) ↔
      text ∈ language ∧ ∀ more, more <+: rest → text ++ more ∈ language → more = [] := by
  constructor
  · intro isLongest
    refine ⟨isLongest.member, fun more inFront longer => ?_⟩
    have bound := isLongest.longest _ longer ((List.prefix_append_right_inj text).mpr inFront)
    rw [List.length_append] at bound
    exact List.length_eq_zero_iff.mp (by omega)
  · intro given
    rcases given with ⟨member, stops⟩
    refine ⟨member, List.prefix_append text rest, fun other otherMember inFront => ?_⟩
    rcases Nat.le_total other.length text.length with shorter | longer
    · exact shorter
    · rcases List.prefix_of_prefix_length_le (List.prefix_append text rest) inFront longer with
        ⟨more, rfl⟩
      rw [stops more ((List.prefix_append_right_inj text).mp inFront) otherMember, List.append_nil]

/-! ## Runs of one kind -/

section Runs

variable {kind : Item → Prop}

/-- Items that are all of one kind, or none at all. -/
def runsOf (kind : Item → Prop) : Language Item := {run | ∀ item ∈ run, kind item}

/-- A run is the longest if what comes after it does not go on with its kind. -/
theorem isLongest_runsOf_iff :
    IsLongest (runsOf kind) text (text ++ rest) ↔
      (∀ item ∈ text, kind item) ∧ ∀ item ∈ rest.head?, ¬kind item := by
  rw [isLongest_append_iff]
  refine and_congr_right fun (same : ∀ item ∈ text, kind item) => ⟨fun stops => ?_, fun halts => ?_⟩
  · intro item next isOfKind
    rcases List.head?_eq_some_iff.mp next with ⟨more, rfl⟩
    have longer : text ++ [item] ∈ runsOf kind :=
      List.forall_mem_append.mpr ⟨same, List.forall_mem_singleton.mpr isOfKind⟩
    cases stops [item] ⟨more, rfl⟩ longer
  · intro more inFront longer
    rcases inFront with ⟨after, rfl⟩
    cases more with
    | nil => rfl
    | cons item more => exact absurd (longer item (by simp)) (halts item rfl)

theorem isLongest_runsOf_takeWhile (accepts : Item → Bool) (items : List Item) :
    IsLongest (runsOf (accepts · = true)) (items.takeWhile accepts) items := by
  have accepted := List.all_eq_true.mp (List.all_takeWhile (p := accepts) (l := items))
  have halts : ∀ item ∈ (items.dropWhile accepts).head?, ¬accepts item = true := by
    intro item next
    have refused := List.head?_dropWhile_not accepts items
    rw [Option.mem_def.mp next] at refused
    simpa using refused
  simpa only [List.takeWhile_append_dropWhile] using isLongest_runsOf_iff.mpr ⟨accepted, halts⟩

/-- Texts of one item or more, all of one kind. -/
def rowsOf (kind : Item → Prop) : Language Item := {text | text ≠ [] ∧ ∀ item ∈ text, kind item}

theorem isLongest_rowsOf_iff :
    IsLongest (rowsOf kind) text left ↔ text ≠ [] ∧ IsLongest (runsOf kind) text left := by
  constructor
  · intro isLongest
    refine ⟨isLongest.member.1, isLongest.member.2, isLongest.inFront, fun other same inFront => ?_⟩
    by_cases empty : other = []
    · rw [empty]
      exact Nat.zero_le _
    · exact isLongest.longest other ⟨empty, same⟩ inFront
  · intro given
    exact ⟨⟨given.1, given.2.member⟩, given.2.inFront, fun other row => given.2.longest other row.2⟩

end Runs

end CursorParsing
