import CursorParsing.Proofs.Congruences
import CursorParsing.Proofs.Faults
import CursorParsing.Proofs.Guardedness
import Mathlib.Order.Interval.Finset.Nat
import Mathlib.Order.Monotone.Basic

/-!
# How deep references are followed

A reference that would be followed too deep is given up, and that ends the whole run. A run that gives
nothing up is the same however much deeper references may be followed. There are only so many definitions
and places, so a run that gives up at the depth that parsing allows gives up at every depth: nobody can
see how deep that was.
-/

namespace CursorParsing

/-! ## Runs that give up -/

def Event.GivesUp : Event → Prop
  | .raised .reference (.fault .endlessRecursion) _ => True
  | _ => False

/-- A reference was not followed because that would have led too deep. -/
def Run.GaveUp {α : Type} (run : Run α) : Prop := run.BreaksOff Event.GivesUp

/-- Another run is the same as this one, unless this one gave up. -/
def Run.SettledAs {α : Type} (run deeper : Run α) : Prop :=
  run.ShownAs Event.GivesUp (fun _ => false) deeper

namespace Run

variable {α : Type}

theorem gaveUp_raised (cursor : Cursor) :
    (raised .reference (.fault .endlessRecursion) cursor : Run α).GaveUp :=
  ⟨_, List.mem_singleton_self _, trivial⟩

namespace SettledAs

theorem iff_gaveUp_or_eq {run deeper : Run α} : run.SettledAs deeper ↔ run.GaveUp ∨ deeper = run := by
  have nothingHidden : run.without (fun _ => false) = run := by simp [without]
  rw [SettledAs, ShownAs, nothingHidden]
  rfl

theorem refl (run : Run α) : run.SettledAs run := iff_gaveUp_or_eq.mpr (.inr rfl)

theorem gaveUp_or_eq {run deeper : Run α} (settled : run.SettledAs deeper) :
    run.GaveUp ∨ deeper = run := iff_gaveUp_or_eq.mp settled

theorem trans {run deeper deepest : Run α} (first : run.SettledAs deeper)
    (second : deeper.SettledAs deepest) : run.SettledAs deepest := by
  rcases first.gaveUp_or_eq with gaveUp | rfl
  · exact .inl gaveUp
  · exact second

theorem toldAs (tag : String) (ahead : List Char) (cursor : Cursor) {run deeper : Run Reply}
    (settled : run.SettledAs deeper) :
    (run.toldAs tag ahead cursor).SettledAs (deeper.toldAs tag ahead cursor) := by
  rcases settled.gaveUp_or_eq with gaveUp | rfl
  · exact .inl ((happensIn_toldAs tag ahead cursor run).breaksOff gaveUp)
  · exact .refl _

theorem traceAttempt (tag : String) {attempt deeper : Cursor → Run Reply} {cursor : Cursor}
    (settled : (attempt cursor).SettledAs (deeper cursor)) :
    (traceAttempt tag attempt cursor).SettledAs (traceAttempt tag deeper cursor) := by
  rcases shown : cursor.snippet? with fault | ahead
  · rw [traceAttempt_of_unshown shown, traceAttempt_of_unshown shown]
    exact .refl _
  · rw [traceAttempt_of_shown shown, traceAttempt_of_shown shown]
    exact settled.toldAs tag ahead cursor

theorem congruence : Run.Congruence @SettledAs := ShownAs.congruence fun _ _ _ => rfl

end SettledAs

end Run

/-! ## One step -/

/-- What one way of reading settles at a place that can be reached, another settles in the same way. -/
def SettledFrom (cursor : Cursor) (attempt deeper : Cursor → Run Reply) : Prop :=
  AlikeFrom Run.SettledAs cursor attempt deeper

/-- What is settled wherever a name is followed is settled for every parser. -/
theorem Parser.step_settledFrom {resolve deeper : String → Cursor → Run Reply} {cursor : Cursor}
    (advances : ∀ name, Advances (resolve name))
    (settled : ∀ name, SettledFrom cursor (resolve name) (deeper name)) (parser : Parser) :
    SettledFrom cursor (parser.step resolve) (parser.step deeper) := by
  have congruence := Run.SettledAs.congruence
  induction parser with
  | pure | raise | symbolThat | literal | endOfInput =>
      intro stop _
      exact .refl _
  | flatMap first next firstSettled nextSettled =>
      intro stop reaches
      apply (firstSettled stop reaches).andThen
      intro reply matched
      have onward := first.advances_step advances stop reply matched
      exact nextSettled reply.value reply.cursor (reaches.trans onward)
  | orElse first second firstSettled secondSettled =>
      intro stop reaches
      exact (firstSettled stop reaches).orElse (secondSettled stop reaches)
  | zeroOrMore inner innerSettled =>
      intro stop reaches
      have collected := congruence.collect (inner.advances_step advances) (stop.length + 1) stop
        (innerSettled.onward reaches)
      exact collected.map _
  | oneOrMore inner innerSettled =>
      intro stop reaches
      have collected := congruence.collectSome (inner.advances_step advances) stop
        (innerSettled.onward reaches)
      exact collected.map _
  | repeated inner count innerSettled =>
      intro stop reaches
      have collected := congruence.collectExactly (inner.advances_step advances) count stop
        (innerSettled.onward reaches)
      exact (collected.map _).after rfl
  | named name inner innerSettled => exact innerSettled
  | traced tag inner innerSettled =>
      intro stop reaches
      exact (innerSettled stop reaches).traceAttempt tag
  | reference name =>
      intro stop reaches
      exact (settled name stop reaches).after rfl

/-! ## Following references -/

namespace Grammar

variable {grammar : Grammar} {name : String} {parser : Parser} {cursor : Cursor} {depth : Nat}

theorem resolve_of_find? (found : grammar.find? name = some parser) :
    grammar.resolve (depth + 1) name cursor = parser.step (grammar.resolve depth) cursor := by
  simp only [resolve, found]

theorem resolve_of_missing (missing : grammar.find? name = none) :
    grammar.resolve (depth + 1) name cursor =
      .raised .reference (.fault (.unknownName name)) cursor := by
  simp only [resolve, missing]

theorem resolve_settledAs_succ (grammar : Grammar) (depth : Nat) (name : String) (cursor : Cursor) :
    (grammar.resolve depth name cursor).SettledAs (grammar.resolve (depth + 1) name cursor) := by
  induction depth generalizing name cursor with
  | zero => exact .inl (Run.gaveUp_raised cursor)
  | succ depth induction =>
      rcases found : grammar.find? name with _ | parser
      · rw [resolve_of_missing found, resolve_of_missing found]
        exact .refl _
      · rw [resolve_of_find? found, resolve_of_find? found]
        have settled (other : String) :
            SettledFrom cursor (grammar.resolve depth other) (grammar.resolve (depth + 1) other) :=
          fun stop _ => induction other stop
        exact parser.step_settledFrom (grammar.advances_resolve depth) settled cursor (.refl cursor)

theorem resolve_settledAs {deeper : Nat} (noDeeper : depth ≤ deeper) (name : String)
    (cursor : Cursor) :
    (grammar.resolve depth name cursor).SettledAs (grammar.resolve deeper name cursor) := by
  induction deeper, noDeeper using Nat.le_induction with
  | base => exact .refl _
  | succ deeper _ induction =>
      exact induction.trans (grammar.resolve_settledAs_succ deeper name cursor)

/-! ## Enough depth -/

/-- The definitions, each at every place that can be reached from a cursor. -/
def meetings (grammar : Grammar) (cursor : Cursor) : Finset (String × Nat) :=
  (grammar.definitions.map Prod.fst).toFinset ×ˢ
    Finset.Icc cursor.position (max cursor.position cursor.source.size)

theorem card_meetings_le (grammar : Grammar) (cursor : Cursor) :
    (grammar.meetings cursor).card ≤ grammar.definitions.length * (cursor.length + 1) := by
  have names : (grammar.definitions.map Prod.fst).toFinset.card ≤ grammar.definitions.length := by
    simpa using List.toFinset_card_le (grammar.definitions.map Prod.fst)
  have places : (Finset.Icc cursor.position (max cursor.position cursor.source.size)).card =
      cursor.length + 1 := by
    rw [Nat.card_Icc, Cursor.length]
    omega
  rw [meetings, Finset.card_product, places]
  exact Nat.mul_le_mul_right _ names

open Classical in
/-- The definitions and places at which nothing is given up if the references in the definition may be
followed to a depth. -/
noncomputable def settledMeetings (grammar : Grammar) (cursor : Cursor) (depth : Nat) :
    Finset (String × Nat) :=
  (grammar.meetings cursor).filter fun meeting =>
    ¬(grammar.resolve (depth + 1) meeting.1 ⟨cursor.source, meeting.2⟩).GaveUp

section Enough

variable {deeper : Nat} {stop : Cursor}

theorem mem_settledMeetings {meeting : String × Nat} :
    meeting ∈ grammar.settledMeetings cursor depth ↔
      meeting ∈ grammar.meetings cursor ∧
        ¬(grammar.resolve (depth + 1) meeting.1 ⟨cursor.source, meeting.2⟩).GaveUp := by
  simp only [settledMeetings, Finset.mem_filter]

theorem mem_settledMeetings_of_find? (found : grammar.find? name = some parser)
    (reaches : cursor.ReachesTo stop) :
    (name, stop.position) ∈ grammar.settledMeetings cursor depth ↔
      ¬(grammar.resolve (depth + 1) name stop).GaveUp := by
  have place := Finset.mem_Icc.mpr ⟨reaches.position_le, reaches.position_le_max⟩
  have meets : (name, stop.position) ∈ grammar.meetings cursor :=
    Finset.mem_product.mpr ⟨mem_names_of_find? found, place⟩
  rw [mem_settledMeetings, ← reaches.source_eq]
  exact and_iff_right meets

theorem settledMeetings_mono (grammar : Grammar) (cursor : Cursor) :
    Monotone (grammar.settledMeetings cursor) := by
  intro depth deeper noDeeper meeting member
  rw [mem_settledMeetings] at member ⊢
  refine ⟨member.1, ?_⟩
  have settled : (grammar.resolve (depth + 1) meeting.1 ⟨cursor.source, meeting.2⟩).SettledAs
      (grammar.resolve (deeper + 1) meeting.1 ⟨cursor.source, meeting.2⟩) :=
    resolve_settledAs (Nat.succ_le_succ noDeeper) _ _
  rcases settled.gaveUp_or_eq with gaveUp | same
  · exact absurd gaveUp member.2
  · rw [same]
    exact member.2

/-- Where a greater depth settles nothing more, following a name does the same at both depths, or gives
up at both. -/
theorem settledFrom_of_card_eq (noDeeper : depth ≤ deeper)
    (sameCard : (grammar.settledMeetings cursor deeper).card =
      (grammar.settledMeetings cursor depth).card) (name : String) :
    SettledFrom cursor (grammar.resolve (deeper + 1) name) (grammar.resolve (depth + 1) name) := by
  have same : grammar.settledMeetings cursor depth = grammar.settledMeetings cursor deeper :=
    Finset.eq_of_subset_of_card_le (grammar.settledMeetings_mono cursor noDeeper) sameCard.le
  intro stop reaches
  rcases found : grammar.find? name with _ | parser
  · rw [resolve_of_missing found, resolve_of_missing found]
    exact .refl _
  · by_cases gaveUp : (grammar.resolve (deeper + 1) name stop).GaveUp
    · exact .inl gaveUp
    · rw [← mem_settledMeetings_of_find? found reaches, ← same,
        mem_settledMeetings_of_find? found reaches] at gaveUp
      rcases (resolve_settledAs (Nat.succ_le_succ noDeeper) name stop).gaveUp_or_eq with
        gaveUpEarly | equal
      · exact absurd gaveUpEarly gaveUp
      · exact Run.SettledAs.iff_gaveUp_or_eq.mpr (.inr equal.symm)

/-- A depth that settles nothing more is the last that ever did. -/
theorem card_settledMeetings_succ
    (sameCard : (grammar.settledMeetings cursor depth).card =
      (grammar.settledMeetings cursor (depth + 1)).card) :
    (grammar.settledMeetings cursor (depth + 1)).card =
      (grammar.settledMeetings cursor (depth + 2)).card := by
  have settled := settledFrom_of_card_eq (Nat.le_succ depth) sameCard.symm
  apply Nat.le_antisymm
  · exact Finset.card_le_card (grammar.settledMeetings_mono cursor (Nat.le_succ _))
  · apply Finset.card_le_card
    intro meeting member
    rw [mem_settledMeetings] at member ⊢
    refine ⟨member.1, ?_⟩
    rcases found : grammar.find? meeting.1 with _ | parser
    · rw [resolve_of_missing found] at member ⊢
      exact member.2
    · rw [resolve_of_find? found] at member ⊢
      have place := Finset.mem_Icc.mp (Finset.mem_product.mp member.1).2
      have reaches : cursor.ReachesTo ⟨cursor.source, meeting.2⟩ := ⟨rfl, place.1, place.2⟩
      have settledThere := parser.step_settledFrom (grammar.advances_resolve _) settled _ reaches
      rcases settledThere.gaveUp_or_eq with gaveUp | same
      · exact absurd gaveUp member.2
      · rw [same]
        exact member.2

/-- At the depth that parsing allows, everything is settled that is settled at any depth. -/
theorem settledFrom_depthFrom (enough : grammar.depthFrom cursor ≤ depth) (name : String) :
    SettledFrom cursor (grammar.resolve depth name)
      (grammar.resolve (grammar.depthFrom cursor) name) := by
  rcases depth with _ | depth
  · exact absurd enough (Nat.not_succ_le_zero _)
  · have noDeeper := Nat.le_of_succ_le_succ enough
    have mono : Monotone fun depth => (grammar.settledMeetings cursor depth).card :=
      fun _ _ noDeeper => Finset.card_le_card (grammar.settledMeetings_mono cursor noDeeper)
    have bounded (depth : Nat) : (grammar.settledMeetings cursor depth).card ≤
        grammar.definitions.length * (cursor.length + 1) := by
      have included : grammar.settledMeetings cursor depth ⊆ grammar.meetings cursor :=
        fun _ member => (mem_settledMeetings.mp member).1
      exact (Finset.card_le_card included).trans (grammar.card_meetings_le cursor)
    apply settledFrom_of_card_eq noDeeper
    exact Nat.stabilises_of_monotone mono bounded (fun _ => card_settledMeetings_succ) noDeeper

theorem ending_of_gaveUp (invocation : Invocation) (gaveUp : (grammar.invoke invocation).GaveUp) :
    (grammar.invoke invocation).ending = .error (.fault .endlessRecursion) := by
  have holds : (grammar.invoke invocation).FaultsLast :=
    Run.FaultsLast.invariant.step (Run.FaultsLast.invariant.resolve grammar _) _ _
  rcases gaveUp with ⟨event, member, givesUp⟩
  rcases List.append_of_mem member with ⟨earlier, later, history⟩
  unfold Event.GivesUp at givesUp
  split at givesUp
  · exact (holds.ends_at history).1
  · exact givesUp.elim

/-- However much deeper references may be followed than parsing allows, a parser ends as it does when
parsing. -/
theorem ending_invoke (parser : Parser) (enough : grammar.depthFrom cursor ≤ depth) :
    (grammar.invoke ⟨parser, cursor, depth⟩).ending = (grammar.parse parser cursor).ending := by
  have here := Cursor.ReachesTo.refl cursor
  have settledDeeper := parser.step_settledFrom (grammar.advances_resolve depth)
    (settledFrom_depthFrom enough) cursor here
  have settled := parser.step_settledFrom (grammar.advances_resolve (grammar.depthFrom cursor))
    (fun name stop _ => resolve_settledAs enough name stop) cursor here
  rcases settledDeeper.gaveUp_or_eq with gaveUp | same
  · rcases settled.gaveUp_or_eq with gaveUpAtBound | same
    · have ended := ending_of_gaveUp ⟨parser, cursor, depth⟩ gaveUp
      have endedAtBound := ending_of_gaveUp (grammar.outermost parser cursor) gaveUpAtBound
      exact ended.trans endedAtBound.symm
    · exact congrArg Run.ending same
  · exact congrArg Run.ending same.symm

/-- Whatever a parser gives at some depth, it gives when parsing. -/
theorem Gives.exists_parse {value : Value} (gives : grammar.Gives parser value) :
    ∃ cursor reply, (grammar.parse parser cursor).ending = .ok reply ∧ reply.value = value := by
  rcases gives with ⟨cursor, depth, reply, matched, rfl⟩
  have settled := parser.step_settledFrom (grammar.advances_resolve depth)
    (fun name stop _ => resolve_settledAs (Nat.le_max_left depth (grammar.depthFrom cursor)) name stop)
    cursor (.refl cursor)
  refine ⟨cursor, reply, ?_, rfl⟩
  rw [← ending_invoke parser (Nat.le_max_right depth (grammar.depthFrom cursor))]
  rcases settled.gaveUp_or_eq with gaveUp | same
  · have ended := ending_of_gaveUp ⟨parser, cursor, depth⟩ gaveUp
    cases ended.symm.trans matched
  · exact (congrArg Run.ending same).trans matched

/-- What a parser does in the course of a run it does on its own. -/
theorem ending_step (parser : Parser) (reaches : cursor.ReachesTo stop) :
    (parser.step (grammar.resolve (grammar.depthFrom cursor)) stop).ending =
      (grammar.parse parser stop).ending := by
  have noLonger := Nat.mul_le_mul_left grammar.definitions.length
    (Nat.succ_le_succ reaches.length_le)
  exact ending_invoke parser (Nat.succ_le_succ noLonger)

end Enough

end Grammar

end CursorParsing
