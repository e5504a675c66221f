import CursorParsing.Proofs.Invocations
import CursorParsing.Proofs.Omission

/-!
# Congruences of runs

A relation between runs that is kept where runs are put together is kept by every loop, as long as the
attempts are related wherever the loop can come to. One such relation is that two runs show the same,
unless something happens in the first that breaks it off.
-/

namespace CursorParsing

/-- A relation between runs that answer alike, kept by every way of making a run of others. -/
structure Run.Congruence (Alike : ∀ {α : Type}, Run α → Run α → Prop) : Prop where
  refl : ∀ {α : Type} {run : Run α}, run.OnlyRaises → Alike run run
  map : ∀ {α β : Type} (transform : α → β) {run other : Run α}, Alike run other →
    Alike (run.map transform) (other.map transform)
  andThen : ∀ {α β : Type} {run other : Run α} {next otherNext : α → Run β}, Alike run other →
    (∀ answer, run.ending = .ok answer → Alike (next answer) (otherNext answer)) →
    Alike (run.andThen next) (other.andThen otherNext)
  orElse : ∀ {α : Type} {run other : Run α} {alternative otherAlternative : Unit → Run α},
    Alike run other → Alike (alternative ()) (otherAlternative ()) →
    Alike (run.orElse alternative) (other.orElse otherAlternative)

/-- Two ways of reading are related wherever reading from a cursor can lead. -/
def AlikeFrom (Alike : Run Reply → Run Reply → Prop) (cursor : Cursor)
    (attempt other : Cursor → Run Reply) : Prop :=
  ∀ stop, cursor.ReachesTo stop → Alike (attempt stop) (other stop)

theorem AlikeFrom.onward {Alike : Run Reply → Run Reply → Prop} {cursor stop : Cursor}
    {attempt other : Cursor → Run Reply} (alike : AlikeFrom Alike cursor attempt other)
    (reaches : cursor.ReachesTo stop) : AlikeFrom Alike stop attempt other :=
  fun further onward => alike further (reaches.trans onward)

namespace Run.Congruence

variable {Alike : ∀ {α : Type}, Run α → Run α → Prop} (congruence : Run.Congruence @Alike)

include congruence

theorem round {run other : Run Reply} {cursor : Cursor} {goOn otherGoOn : Reply → Run Collection}
    (alike : Alike run other)
    (goOnAlike : ∀ reply, run.ending = .ok reply → Alike (goOn reply) (otherGoOn reply)) :
    Alike (run.round cursor goOn) (other.round cursor otherGoOn) := by
  apply congruence.andThen
  · exact congruence.orElse (congruence.map some alike) (congruence.refl (onlyRaises_done _))
  · intro outcome ended
    cases outcome with
    | none => exact congruence.refl (onlyRaises_done _)
    | some reply =>
        have matched : run.ending = .ok reply := by
          rcases first : run.ending with (cause | fault) | answer <;>
            simp [Run.orElse, Run.map, first, Except.map] at ended
          rw [ended]
        exact congruence.map _ (goOnAlike reply matched)

theorem unlessStill {cursor : Cursor} {goOn otherGoOn : Cursor → Run Collection} (reply : Reply)
    (goOnAlike : Alike (goOn reply.cursor) (otherGoOn reply.cursor)) :
    Alike (Run.unlessStill cursor goOn reply) (Run.unlessStill cursor otherGoOn reply) := by
  unfold Run.unlessStill
  split
  · exact congruence.refl (onlyRaises_done _)
  · exact goOnAlike

section Loops

variable {attempt other : Cursor → Run Reply} (advances : Advances attempt)

include advances

theorem collect (bound : Nat) (cursor : Cursor) (alike : AlikeFrom Alike cursor attempt other) :
    Alike (collect attempt bound cursor) (collect other bound cursor) := by
  induction bound generalizing cursor with
  | zero => exact congruence.refl (onlyRaises_done _)
  | succ bound induction =>
      rw [collect_succ, collect_succ]
      apply congruence.round (alike cursor (.refl cursor))
      intro reply matched
      apply congruence.unlessStill
      exact induction reply.cursor (alike.onward (advances cursor reply matched))

theorem collectSome (cursor : Cursor) (alike : AlikeFrom Alike cursor attempt other) :
    Alike (collectSome attempt cursor) (collectSome other cursor) := by
  rw [collectSome_eq, collectSome_eq]
  apply congruence.andThen (alike cursor (.refl cursor))
  intro reply matched
  apply congruence.map
  apply congruence.unlessStill
  exact congruence.collect advances _ _ (alike.onward (advances cursor reply matched))

theorem collectUpTo (rounds : Nat) (cursor : Cursor) (alike : AlikeFrom Alike cursor attempt other) :
    Alike (collectUpTo attempt rounds cursor) (collectUpTo other rounds cursor) := by
  induction rounds generalizing cursor with
  | zero => exact congruence.refl (onlyRaises_done _)
  | succ rounds induction =>
      rw [collectUpTo_succ, collectUpTo_succ]
      apply congruence.round (alike cursor (.refl cursor))
      intro reply matched
      exact induction reply.cursor (alike.onward (advances cursor reply matched))

theorem collectExactly (count : Count) (cursor : Cursor)
    (alike : AlikeFrom Alike cursor attempt other) :
    Alike (collectExactly attempt count cursor) (collectExactly other count cursor) := by
  rw [collectExactly_eq, collectExactly_eq]
  apply congruence.andThen
  · cases count.rounds with
    | none =>
        apply congruence.andThen (congruence.collectUpTo advances _ cursor alike)
        intro collection _
        split
        · exact congruence.refl (onlyRaises_raised _ _ _)
        · exact congruence.refl (onlyRaises_done _)
    | some rounds => exact congruence.collectUpTo advances rounds cursor alike
  · intro collection _
    exact congruence.refl (count.onlyRaises_check collection)

end Loops

end Run.Congruence

/-! ## Runs that are broken off -/

/-- Something happens in a run that breaks it off. -/
def Run.BreaksOff {α : Type} (Breaks : Event → Prop) (run : Run α) : Prop :=
  ∃ event ∈ run.history, Breaks event

/-- Another run is the same as this one but for what is hidden, unless this one breaks off. -/
def Run.ShownAs {α : Type} (Breaks : Event → Prop) (hidden : Event → Bool) (run other : Run α) :
    Prop :=
  run.BreaksOff Breaks ∨ other = run.without hidden

namespace Run

variable {α β : Type} {Breaks : Event → Prop} {hidden : Event → Bool}

theorem HappensIn.breaksOff {part : Run α} {whole : Run β} {earlier : List Event}
    (happens : part.HappensIn earlier whole) (breaksOff : part.BreaksOff Breaks) :
    whole.BreaksOff Breaks := by
  rcases happens with ⟨later, history, _⟩
  rcases breaksOff with ⟨event, member, breaks⟩
  refine ⟨event, ?_, breaks⟩
  rw [history]
  exact List.mem_append_left _ (List.mem_append_right _ member)

namespace ShownAs

theorem map (transform : α → β) {run other : Run α} (shown : run.ShownAs Breaks hidden other) :
    (run.map transform).ShownAs Breaks hidden (other.map transform) := by
  rcases shown with breaksOff | rfl
  · exact .inl breaksOff
  · exact .inr (without_map transform run).symm

theorem after {event : Event} (eventShown : hidden event = false) {run other : Run α}
    (shown : run.ShownAs Breaks hidden other) :
    (run.after event).ShownAs Breaks hidden (other.after event) := by
  rcases shown with breaksOff | rfl
  · exact .inl ((happensIn_after event run).breaksOff breaksOff)
  · exact .inr (without_after_of_shown eventShown run).symm

theorem andThen {run other : Run α} {next otherNext : α → Run β}
    (shown : run.ShownAs Breaks hidden other)
    (nextShown : ∀ answer, run.ending = .ok answer →
      (next answer).ShownAs Breaks hidden (otherNext answer)) :
    (run.andThen next).ShownAs Breaks hidden (other.andThen otherNext) := by
  rcases shown with breaksOff | rfl
  · exact .inl ((happensIn_andThen run next).breaksOff breaksOff)
  · rcases ended : (run.without hidden).ending with error | answer
    · right
      rw [without_andThen, andThen_of_error _ ended, andThen_of_error _ ended]
    · have happens : (next answer).HappensIn run.history (run.andThen next) :=
        next_happensIn_andThen next ended
      rcases nextShown answer ended with breaksOff | same
      · exact .inl (happens.breaksOff breaksOff)
      · right
        rw [without_andThen, andThen_of_ok _ ended, andThen_of_ok _ ended, same]

theorem orElse {run other : Run α} {alternative otherAlternative : Unit → Run α}
    (shown : run.ShownAs Breaks hidden other)
    (alternativeShown : (alternative ()).ShownAs Breaks hidden (otherAlternative ())) :
    (run.orElse alternative).ShownAs Breaks hidden (other.orElse otherAlternative) := by
  rcases shown with breaksOff | rfl
  · exact .inl ((happensIn_orElse run alternative).breaksOff breaksOff)
  · rcases ended : (run.without hidden).ending with (cause | fault) | answer
    · have happens : (alternative ()).HappensIn run.history (run.orElse alternative) :=
        alternative_happensIn_orElse alternative ended
      rcases alternativeShown with breaksOff | same
      · exact .inl (happens.breaksOff breaksOff)
      · right
        rw [without_orElse, orElse_of_mismatch _ ended, orElse_of_mismatch _ ended, same]
    · right
      rw [without_orElse, orElse_of_fault _ ended, orElse_of_fault _ ended]
    · right
      rw [without_orElse, orElse_of_ok _ ended, orElse_of_ok _ ended]

theorem congruence (raisedShown : ∀ origin error cursor, hidden (.raised origin error cursor) = false) :
    Run.Congruence (ShownAs Breaks hidden) where
  refl onlyRaises := .inr (without_of_onlyRaises onlyRaises raisedShown).symm
  map := map
  andThen := andThen
  orElse := orElse

end ShownAs

end Run

end CursorParsing
