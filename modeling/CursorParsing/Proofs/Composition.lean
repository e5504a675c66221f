import CursorParsing.Proofs.Depth

/-!
# Parsers and their parts

How a parser ends is made of how its parts end when they are parsed on their own, at whatever places the
whole comes to. No part can tell that it is one.
-/

namespace CursorParsing

/-! ## Runs that end alike -/

namespace Run

variable {α β : Type}

def EndsAs (run other : Run α) : Prop := run.ending = other.ending

namespace EndsAs

theorem map (transform : α → β) {run other : Run α} (same : run.EndsAs other) :
    (run.map transform).EndsAs (other.map transform) := by
  rw [EndsAs, ending_map, ending_map, same]

theorem andThen {run other : Run α} {next otherNext : α → Run β} (same : run.EndsAs other)
    (nextSame : ∀ answer, run.ending = .ok answer → (next answer).EndsAs (otherNext answer)) :
    (run.andThen next).EndsAs (other.andThen otherNext) := by
  unfold EndsAs at same nextSame ⊢
  rcases ended : other.ending with error | answer
  · rw [andThen_of_error next (same.trans ended), andThen_of_error otherNext ended]
  · rw [andThen_of_ok next (same.trans ended), andThen_of_ok otherNext ended]
    exact nextSame answer (same.trans ended)

theorem orElse {run other : Run α} {alternative otherAlternative : Unit → Run α}
    (same : run.EndsAs other)
    (alternativeSame : (alternative ()).EndsAs (otherAlternative ())) :
    (run.orElse alternative).EndsAs (other.orElse otherAlternative) := by
  unfold EndsAs at same alternativeSame ⊢
  rcases ended : other.ending with (cause | fault) | answer
  · rw [orElse_of_mismatch alternative (same.trans ended),
      orElse_of_mismatch otherAlternative ended]
    exact alternativeSame
  · rw [orElse_of_fault alternative (same.trans ended), orElse_of_fault otherAlternative ended]
    exact same
  · rw [orElse_of_ok alternative (same.trans ended), orElse_of_ok otherAlternative ended]
    exact same

theorem congruence : Run.Congruence @EndsAs := ⟨fun _ => rfl, map, andThen, orElse⟩

end EndsAs

end Run

/-! ## Parsers -/

namespace Grammar

variable (grammar : Grammar)

/-- In the course of a run a parser ends as it does on its own. -/
theorem step_endsAlike (parser : Parser) (cursor : Cursor) :
    AlikeFrom Run.EndsAs cursor (parser.step (grammar.resolve (grammar.depthFrom cursor)))
      (grammar.parse parser) :=
  fun _ reaches => ending_step parser reaches

theorem ending_parse_flatMap (first : Parser) (next : Value → Parser) (cursor : Cursor) :
    (grammar.parse (.flatMap first next) cursor).ending =
      ((grammar.parse first cursor).andThen fun reply =>
        grammar.parse (next reply.value) reply.cursor).ending := by
  apply Run.EndsAs.congruence.andThen rfl
  intro reply matched
  exact grammar.step_endsAlike _ cursor reply.cursor
    (grammar.advances_parse first cursor reply matched)

theorem parse_orElse (first second : Parser) (cursor : Cursor) :
    grammar.parse (.orElse first second) cursor =
      (grammar.parse first cursor).orElse fun _ => grammar.parse second cursor := rfl

theorem ending_parse_zeroOrMore (inner : Parser) (cursor : Cursor) :
    (grammar.parse (.zeroOrMore inner) cursor).ending =
      ((collectAll (grammar.parse inner) cursor).map Collection.toReply).ending := by
  have collected := Run.EndsAs.congruence.collect (grammar.advances_step _ inner)
    (cursor.length + 1) cursor (grammar.step_endsAlike inner cursor)
  exact collected.map Collection.toReply

theorem ending_parse_repeated (inner : Parser) (count : Count) (cursor : Cursor) :
    (grammar.parse (.repeated inner count) cursor).ending =
      ((collectExactly (grammar.parse inner) count cursor).map Collection.toReply).ending := by
  have collected := Run.EndsAs.congruence.collectExactly (grammar.advances_step _ inner) count
    cursor (grammar.step_endsAlike inner cursor)
  exact collected.map Collection.toReply

theorem ending_parse_reference {name : String} {parser : Parser}
    (found : grammar.find? name = some parser) (cursor : Cursor) :
    (grammar.parse (.reference name) cursor).ending = (grammar.parse parser cursor).ending := by
  have oneDeeper := ending_invoke (.reference name) (Nat.le_succ (grammar.depthFrom cursor))
  rw [← oneDeeper]
  change ((grammar.resolve (grammar.depthFrom cursor + 1) name cursor).after _).ending = _
  rw [resolve_of_find? found]
  rfl

end Grammar

end CursorParsing
