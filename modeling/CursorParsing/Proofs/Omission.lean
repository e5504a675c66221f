import CursorParsing.Proofs.Recognisers

/-!
# Runs without some of their events

Whoever does not care for some events may leave them out of the parts of a run or out of the whole: it
comes to the same.
-/

namespace CursorParsing

namespace Event

/-- What is told of traced attempts. -/
def isTrace : Event → Bool
  | .trying .. | .matched .. | .failed .. => true
  | .entered _ | .raised .. => false

def isEntry : Event → Bool
  | .entered _ => true
  | .trying .. | .matched .. | .failed .. | .raised .. => false

end Event

namespace Run

variable {α β : Type} {hidden : Event → Bool}

def without (hidden : Event → Bool) (run : Run α) : Run α :=
  ⟨run.ending, run.history.filter fun event => !hidden event⟩

@[simp] theorem ending_without (run : Run α) : (run.without hidden).ending = run.ending := rfl

/-- Nothing is left out if only errors are raised and these are shown. -/
theorem without_of_onlyRaises {run : Run α} (onlyRaises : run.OnlyRaises)
    (shown : ∀ origin error cursor, hidden (.raised origin error cursor) = false) :
    run.without hidden = run := by
  have all : ∀ event ∈ run.history, (!hidden event) = true := by
    intro event member
    rcases onlyRaises event member with ⟨origin, error, cursor, rfl⟩
    rw [shown]
    rfl
  rw [without, List.filter_eq_self.mpr all]

theorem without_after_of_shown {event : Event} (shown : hidden event = false) (run : Run α) :
    (run.after event).without hidden = (run.without hidden).after event := by
  simp [without, after, shown]

theorem without_map (transform : α → β) (run : Run α) :
    (run.map transform).without hidden = (run.without hidden).map transform := rfl

theorem without_andThen (run : Run α) (next : α → Run β) :
    (run.andThen next).without hidden =
      (run.without hidden).andThen fun answer => (next answer).without hidden := by
  rcases ended : run.ending with error | answer <;> simp [without, andThen, ended]

theorem without_orElse (run : Run α) (alternative : Unit → Run α) :
    (run.orElse alternative).without hidden =
      (run.without hidden).orElse fun _ => (alternative ()).without hidden := by
  rcases ended : run.ending with (cause | fault) | answer <;> simp [without, orElse, ended]

end Run

end CursorParsing
