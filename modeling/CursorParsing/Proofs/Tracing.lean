import CursorParsing.Proofs.Invariants
import CursorParsing.Proofs.Invocations

/-!
# Traces are nested

Traced attempts are told of like brackets: the beginning of each is closed once, by the telling of how
it ended, and whatever else was attempted in its course is closed before. Only a fault leaves attempts
open, those that it ends.
-/

namespace CursorParsing

/-! ## Open attempts -/

/-- What an event makes of the tags of the open attempts, the innermost first. Only the innermost can be
closed. -/
def Event.track (unclosed : List String) : Event → Option (List String)
  | .trying tag _ => some (tag :: unclosed)
  | .matched tag _ _ | .failed tag _ =>
    match unclosed with
    | [] => none
    | innermost :: outer => if tag = innermost then some outer else none
  | .entered _ | .raised .. => some unclosed

/-- The attempts that are open after some events; none if an event closes what it must not. -/
def stillOpen (unclosed : List String) (history : List Event) : Option (List String) :=
  history.foldlM Event.track unclosed

/-- Every attempt is closed in its turn, and nothing else. -/
def WellNested (history : List Event) : Prop := stillOpen [] history = some []

instance (history : List Event) : Decidable (WellNested history) :=
  inferInstanceAs (Decidable (_ = _))

example : WellNested [.trying "a" [], .trying "b" [], .failed "b" (.stated ""), .matched "a" .absent 0] :=
  rfl

example : ¬WellNested [.trying "a" [], .trying "b" [], .failed "a" (.stated "")] := by decide

theorem stillOpen_cons (unclosed : List String) (event : Event) (rest : List Event) :
    stillOpen unclosed (event :: rest) =
      (event.track unclosed).bind fun after => stillOpen after rest := by
  simp only [stillOpen, List.foldlM_cons, Option.bind_eq_bind]

theorem stillOpen_append {unclosed middle : List String} {earlier : List Event}
    (opened : stillOpen unclosed earlier = some middle) (later : List Event) :
    stillOpen unclosed (earlier ++ later) = stillOpen middle later := by
  simp only [stillOpen] at opened ⊢
  rw [List.foldlM_append, opened]
  rfl

theorem Event.track_append {event : Event} {unclosed after : List String} (outer : List String)
    (tracked : event.track unclosed = some after) :
    event.track (unclosed ++ outer) = some (after ++ outer) := by
  cases event with
  | entered | raised =>
      cases tracked
      rfl
  | trying tag ahead =>
      cases tracked
      rfl
  | matched tag | failed tag =>
      cases unclosed with
      | nil => cases tracked
      | cons innermost rest =>
          simp only [track, List.cons_append] at tracked ⊢
          split at tracked <;> cases tracked
          rename_i same
          rw [if_pos same]

/-- Attempts that were open before do not matter as long as nothing closes them. -/
theorem stillOpen_outer {unclosed after : List String} {history : List Event} (outer : List String)
    (opened : stillOpen unclosed history = some after) :
    stillOpen (unclosed ++ outer) history = some (after ++ outer) := by
  induction history generalizing unclosed with
  | nil =>
      cases opened
      rfl
  | cons event rest induction =>
      rw [stillOpen_cons] at opened ⊢
      rcases Option.bind_eq_some_iff.mp opened with ⟨middle, tracked, restOpened⟩
      rw [Event.track_append outer tracked]
      exact induction restOpened

theorem WellNested.append {earlier : List Event} (nested : WellNested earlier) (later : List Event) :
    stillOpen [] (earlier ++ later) = stillOpen [] later := stillOpen_append nested later

/-- What is still open can be closed, the innermost first. -/
theorem exists_wellNested_append {unclosed : List String} {history : List Event}
    (opened : stillOpen [] history = some unclosed) :
    ∃ closings, WellNested (history ++ closings) := by
  refine ⟨unclosed.map fun tag => .failed tag (.stated ""), ?_⟩
  rw [WellNested, stillOpen_append opened]
  clear opened
  induction unclosed with
  | nil => rfl
  | cons innermost outer induction =>
      have closed (cause : Mismatch) :
          (Event.failed innermost cause).track (innermost :: outer) = some outer := if_pos rfl
      rw [List.map_cons, stillOpen_cons, closed]
      exact induction

/-! ## Runs close what they open -/

/-- The events of a run track, and unless it ends in a fault nothing is open at its end. -/
structure Run.Nests {α : Type} (run : Run α) : Prop where
  tracked : ∃ unclosed, stillOpen [] run.history = some unclosed
  wellNested : (∀ fault, run.ending ≠ .error (.fault fault)) → WellNested run.history

namespace Run.Nests

variable {α β : Type}

theorem of_wellNested {run : Run α} (nested : WellNested run.history) : run.Nests :=
  ⟨⟨[], nested⟩, fun _ => nested⟩

theorem congr {run : Run α} {other : Run β} (nests : run.Nests)
    (sameHistory : other.history = run.history)
    (sameFault : ∀ fault, run.ending = .error (.fault fault) →
      other.ending = .error (.fault fault)) : other.Nests := by
  constructor
  · rw [sameHistory]
    exact nests.tracked
  · intro noFault
    rw [sameHistory]
    exact nests.wellNested fun fault faulted => noFault fault (sameFault fault faulted)

theorem prepend {run : Run α} (nests : run.Nests) {earlier : List Event}
    (nested : WellNested earlier) : (⟨run.ending, earlier ++ run.history⟩ : Run α).Nests := by
  constructor
  · rw [nested.append]
    exact nests.tracked
  · intro noFault
    rw [WellNested, nested.append]
    exact nests.wellNested noFault

theorem map (transform : α → β) {run : Run α} (nests : run.Nests) : (run.map transform).Nests := by
  refine nests.congr (history_map transform run) ?_
  intro fault faulted
  simp [faulted, Except.map]

theorem andThen {run : Run α} {next : α → Run β} (nests : run.Nests)
    (nextNests : ∀ answer, (next answer).Nests) : (run.andThen next).Nests := by
  rcases ended : run.ending with error | answer
  · rw [andThen_of_error next ended]
    refine nests.congr rfl ?_
    intro fault faulted
    rw [ended] at faulted
    cases faulted
    rfl
  · rw [andThen_of_ok next ended]
    exact (nextNests answer).prepend (nests.wellNested (ending_ne_fault_of_ok ended))

theorem orElse {run : Run α} {alternative : Unit → Run α} (nests : run.Nests)
    (alternativeNests : (alternative ()).Nests) : (run.orElse alternative).Nests := by
  rcases ended : run.ending with (cause | fault) | answer
  · rw [orElse_of_mismatch alternative ended]
    exact alternativeNests.prepend (nests.wellNested (ending_ne_fault_of_mismatch ended))
  · rw [orElse_of_fault alternative ended]
    exact nests
  · rw [orElse_of_ok alternative ended]
    exact nests

end Run.Nests

/-! ## One attempt -/

theorem Event.track_of_mem_closingsOf {tag : String} {cursor : Cursor} {ending : Outcome Reply}
    {closing : Event} (closes : closing ∈ closingsOf tag cursor ending) :
    closing.track [tag] = some [] := by
  rcases ending with (cause | fault) | reply
  · rw [List.mem_singleton.mp closes]
    exact if_pos rfl
  · cases closes
  · rw [List.mem_singleton.mp closes]
    exact if_pos rfl

theorem Run.Nests.toldAs (tag : String) (ahead : List Char) (cursor : Cursor) {run : Run Reply}
    (nests : run.Nests) : (run.toldAs tag ahead cursor).Nests := by
  have opened (unclosed : List String) (history : List Event)
      (inner : stillOpen [] history = some unclosed) :
      stillOpen [] (.trying tag ahead :: history) = some (unclosed ++ [tag]) :=
    stillOpen_outer [tag] inner
  have closed {closing : Event} (told : closingsOf tag cursor run.ending = [closing])
      (nested : WellNested run.history) : WellNested (run.toldAs tag ahead cursor).history := by
    have closes : closing.track [tag] = some [] := by
      apply Event.track_of_mem_closingsOf
      rw [told]
      exact List.mem_singleton_self closing
    rw [WellNested, Run.toldAs, told, stillOpen_append (opened [] _ nested), List.nil_append,
      stillOpen_cons, closes]
    rfl
  rcases ended : run.ending with (cause | fault) | reply
  · apply of_wellNested
    apply closed (by rw [ended]; rfl)
    exact nests.wellNested (ending_ne_fault_of_mismatch ended)
  · rcases nests.tracked with ⟨unclosed, tracked⟩
    constructor
    · rw [Run.toldAs, ended, closingsOf, List.append_nil]
      exact ⟨_, opened unclosed _ tracked⟩
    · intro noFault
      exact absurd ended (noFault fault)
  · apply of_wellNested
    apply closed (by rw [ended]; rfl)
    exact nests.wellNested (ending_ne_fault_of_ok ended)

theorem Run.Nests.invariant : Run.Invariant @Run.Nests where
  done answer := .of_wellNested rfl
  raised origin error cursor := .of_wellNested rfl
  entered cursor run nests := by
    have entered : WellNested [.entered cursor] := rfl
    exact nests.prepend entered
  map := map
  andThen := andThen
  orElse := orElse
  told tag ahead cursor _ nests := nests.toldAs tag ahead cursor

/-! ## Closed once -/

/-- An attempt that is open when some events begin is closed in their course, after `middle`. -/
structure ClosedAt (middle : List Event) (closing : Event) (later : List Event) : Prop where
  inside : WellNested middle
  closes : closing.track [] = none
  split : ∃ rest, later = middle ++ closing :: rest

/-- The attempt is closed by this event, and only once. -/
def ClosedBy (closing : Event) (later : List Event) : Prop :=
  ∃ middle, ClosedAt middle closing later ∧
    ∀ otherMiddle other, ClosedAt otherMiddle other later → otherMiddle = middle ∧ other = closing

def NeverClosed (later : List Event) : Prop := ∀ middle closing, ¬ClosedAt middle closing later

/-- Events that track close nothing that was open before. -/
theorem neverClosed_of_stillOpen {later : List Event} {unclosed : List String}
    (tracked : stillOpen [] later = some unclosed) : NeverClosed later := by
  rintro middle closing ⟨inside, closes, rest, rfl⟩
  rw [inside.append, stillOpen_cons, closes] at tracked
  cases tracked

/-- Of two places where an attempt is closed neither is before the other. -/
theorem ClosedAt.not_shorter {middle gap later : List Event} {closing : Event}
    (closed : ClosedAt middle closing later) : ¬WellNested (middle ++ closing :: gap) :=
  fun nested => neverClosed_of_stillOpen nested middle closing
    ⟨closed.inside, closed.closes, gap, rfl⟩

theorem ClosedAt.unique {middle otherMiddle later : List Event} {closing other : Event}
    (closed : ClosedAt middle closing later) (otherClosed : ClosedAt otherMiddle other later) :
    otherMiddle = middle ∧ other = closing := by
  rcases closed.split with ⟨rest, split⟩
  rcases otherClosed.split with ⟨otherRest, otherSplit⟩
  rw [split] at otherSplit
  rcases List.append_eq_append_iff.mp otherSplit with ⟨gap, longer, rests⟩ | ⟨gap, longer, rests⟩
  · rcases List.cons_eq_append_iff.mp rests with ⟨rfl, same⟩ | ⟨shorter, rfl, _⟩
    · exact ⟨by simp [longer], (List.cons.inj same).1⟩
    · exact absurd (longer ▸ otherClosed.inside) closed.not_shorter
  · rcases List.cons_eq_append_iff.mp rests with ⟨rfl, same⟩ | ⟨shorter, rfl, _⟩
    · exact ⟨by simp [longer], (List.cons.inj same).1.symm⟩
    · exact absurd (longer ▸ closed.inside) otherClosed.not_shorter

theorem ClosedAt.closedBy {middle later : List Event} {closing : Event}
    (closed : ClosedAt middle closing later) : ClosedBy closing later :=
  ⟨middle, closed, fun _ _ otherClosed => closed.unique otherClosed⟩

/-! ## Where an attempt begins -/

/-- After `earlier` a history tells that an attempt begins. -/
def Begins (tag : String) (ahead : List Char) (earlier history : List Event) : Prop :=
  ∃ later, history = earlier ++ .trying tag ahead :: later

section Histories

variable {α β : Type} {tag : String} {ahead : List Char} {earlier : List Event}

theorem not_begins_nil : ¬Begins tag ahead earlier [] := by
  rintro ⟨later, history⟩
  simp at history

theorem not_begins_of_ne {event : Event} (other : event ≠ .trying tag ahead) :
    ¬Begins tag ahead earlier [event] := by
  rintro ⟨later, history⟩
  rcases List.cons_eq_append_iff.mp history with ⟨_, same⟩ | ⟨_, _, same⟩
  · exact other (List.cons.inj same).1.symm
  · simp at same

theorem not_begins_entered (cursor : Cursor) : ¬Begins tag ahead earlier [.entered cursor] := by
  apply not_begins_of_ne
  intro same
  cases same

theorem not_begins_of_onlyRaises {run : Run α} (onlyRaises : run.OnlyRaises) :
    ¬Begins tag ahead earlier run.history := by
  rintro ⟨later, history⟩
  rcases onlyRaises (.trying tag ahead) (by simp [history]) with ⟨_, _, _, same⟩
  cases same

theorem begins_append {first second : List Event} (begins : Begins tag ahead earlier (first ++ second)) :
    Begins tag ahead earlier first ∨
      ∃ between, earlier = first ++ between ∧ Begins tag ahead between second := by
  rcases begins with ⟨later, history⟩
  rcases List.append_eq_append_iff.mp history with ⟨between, longer, inSecond⟩ | ⟨rest, inFirst, same⟩
  · exact .inr ⟨between, longer, later, inSecond⟩
  · rcases List.cons_eq_append_iff.mp same with ⟨rfl, inSecond⟩ | ⟨rest, rfl, _⟩
    · exact .inr ⟨[], by simpa using inFirst.symm, later, inSecond⟩
    · exact .inl ⟨rest, inFirst⟩

theorem begins_after_entered {run : Run α} {cursor : Cursor}
    (begins : Begins tag ahead earlier (run.after (.entered cursor)).history) :
    ∃ between, earlier = .entered cursor :: between ∧ Begins tag ahead between run.history := by
  have inParts : Begins tag ahead earlier ([.entered cursor] ++ run.history) := begins
  rcases begins_append inParts with here | later
  · exact absurd here (not_begins_entered cursor)
  · exact later

namespace Run

theorem begins_andThen {run : Run α} {next : α → Run β}
    (begins : Begins tag ahead earlier (run.andThen next).history) :
    Begins tag ahead earlier run.history ∨
      ∃ answer between, run.ending = .ok answer ∧ earlier = run.history ++ between ∧
        Begins tag ahead between (next answer).history := by
  rcases ended : run.ending with error | answer
  · rw [andThen_of_error next ended] at begins
    exact .inl begins
  · rw [andThen_of_ok next ended] at begins
    rcases begins_append begins with inRun | ⟨between, longer, inNext⟩
    · exact .inl inRun
    · exact .inr ⟨answer, between, rfl, longer, inNext⟩

theorem begins_orElse {run : Run α} {alternative : Unit → Run α}
    (begins : Begins tag ahead earlier (run.orElse alternative).history) :
    Begins tag ahead earlier run.history ∨
      ∃ cause between, run.ending = .error (.mismatch cause) ∧ earlier = run.history ++ between ∧
        Begins tag ahead between (alternative ()).history := by
  rcases ended : run.ending with (cause | fault) | answer
  · rw [orElse_of_mismatch alternative ended] at begins
    rcases begins_append begins with inRun | ⟨between, longer, inAlternative⟩
    · exact .inl inRun
    · exact .inr ⟨cause, between, rfl, longer, inAlternative⟩
  · rw [orElse_of_fault alternative ended] at begins
    exact .inl begins
  · rw [orElse_of_ok alternative ended] at begins
    exact .inl begins

theorem begins_round {run : Run Reply} {cursor : Cursor} {goOn : Reply → Run Collection}
    (begins : Begins tag ahead earlier (run.round cursor goOn).history) :
    Begins tag ahead earlier run.history ∨
      ∃ reply between, run.ending = .ok reply ∧ earlier = run.history ++ between ∧
        Begins tag ahead between (goOn reply).history := by
  rcases ended : run.ending with (cause | fault) | reply
  · rw [round_of_mismatch goOn ended] at begins
    exact .inl begins
  · rw [round_of_fault goOn ended] at begins
    exact .inl begins
  · rw [round_of_ok goOn ended] at begins
    rcases begins_append begins with inRun | ⟨between, longer, inNext⟩
    · exact .inl inRun
    · exact .inr ⟨reply, between, rfl, longer, inNext⟩

end Run

end Histories

section Loops

variable {attempt : Cursor → Run Reply} {tag : String} {ahead : List Char} {earlier : List Event}

/-- An attempt of a loop in whose course another attempt begins. -/
def BeginsInLoop (attempt : Cursor → Run Reply) (GoesOn : Reply → Cursor → Prop) (tag : String)
    (ahead : List Char) (cursor : Cursor) (completed : Nat) (earlier : List Event) : Prop :=
  ∃ before between place, ComesTo attempt GoesOn completed cursor before place ∧
    earlier = before ++ between ∧ Begins tag ahead between (attempt place).history

theorem BeginsInLoop.start {GoesOn : Reply → Cursor → Prop} {cursor : Cursor}
    (begins : Begins tag ahead earlier (attempt cursor).history) :
    BeginsInLoop attempt GoesOn tag ahead cursor 0 earlier :=
  ⟨[], earlier, cursor, .start cursor, rfl, begins⟩

theorem BeginsInLoop.round {GoesOn : Reply → Cursor → Prop} {cursor : Cursor} {reply : Reply}
    {completed : Nat} {between : List Event} (matched : (attempt cursor).ending = .ok reply)
    (goesOn : GoesOn reply cursor)
    (later : BeginsInLoop attempt GoesOn tag ahead reply.cursor completed between) :
    BeginsInLoop attempt GoesOn tag ahead cursor (completed + 1)
      ((attempt cursor).history ++ between) := by
  rcases later with ⟨before, rest, place, comes, rfl, begins⟩
  exact ⟨_, rest, place, .round matched goesOn comes, (List.append_assoc _ _ _).symm, begins⟩

theorem begins_unlessStill {cursor : Cursor} {reply : Reply} {goOn : Cursor → Run Collection}
    (begins : Begins tag ahead earlier (Run.unlessStill cursor goOn reply).history) :
    reply.Moves cursor ∧ Begins tag ahead earlier (goOn reply.cursor).history := by
  unfold Run.unlessStill at begins
  split at begins
  · exact absurd begins not_begins_nil
  · rename_i moves
    exact ⟨moves, begins⟩

theorem begins_collect {bound : Nat} {cursor : Cursor}
    (begins : Begins tag ahead earlier (collect attempt bound cursor).history) :
    ∃ completed, BeginsInLoop attempt Reply.Moves tag ahead cursor completed earlier := by
  induction bound generalizing cursor earlier with
  | zero => exact absurd begins not_begins_nil
  | succ bound induction =>
      rw [collect_succ] at begins
      rcases Run.begins_round begins with inFirst | ⟨reply, between, matched, rfl, inRest⟩
      · exact ⟨0, .start inFirst⟩
      · rcases begins_unlessStill inRest with ⟨moves, onward⟩
        rcases induction onward with ⟨completed, later⟩
        exact ⟨completed + 1, .round matched moves later⟩

theorem begins_collectSome {cursor : Cursor}
    (begins : Begins tag ahead earlier (collectSome attempt cursor).history) :
    ∃ completed, BeginsInLoop attempt Reply.Moves tag ahead cursor completed earlier := by
  rw [collectSome_eq] at begins
  rcases Run.begins_andThen begins with inFirst | ⟨reply, between, matched, rfl, inRest⟩
  · exact ⟨0, .start inFirst⟩
  · rcases begins_unlessStill inRest with ⟨moves, onward⟩
    rcases begins_collect onward with ⟨completed, later⟩
    exact ⟨completed + 1, .round matched moves later⟩

theorem begins_collectUpTo {rounds : Nat} {cursor : Cursor}
    (begins : Begins tag ahead earlier (collectUpTo attempt rounds cursor).history) :
    ∃ completed, completed < rounds ∧
      BeginsInLoop attempt (fun _ _ => True) tag ahead cursor completed earlier := by
  induction rounds generalizing cursor earlier with
  | zero => exact absurd begins not_begins_nil
  | succ rounds induction =>
      rw [collectUpTo_succ] at begins
      rcases Run.begins_round begins with inFirst | ⟨reply, between, matched, rfl, inRest⟩
      · exact ⟨0, Nat.succ_pos rounds, .start inFirst⟩
      · rcases induction inRest with ⟨completed, wanted, later⟩
        exact ⟨completed + 1, Nat.succ_lt_succ wanted, .round matched trivial later⟩

theorem begins_collectExactly {count : Count} {cursor : Cursor}
    (begins : Begins tag ahead earlier (collectExactly attempt count cursor).history) :
    ∃ completed, completed < count.rounds.getD (cursor.length + 1) ∧
      BeginsInLoop attempt (fun _ _ => True) tag ahead cursor completed earlier := by
  rw [collectExactly_eq] at begins
  rcases Run.begins_andThen begins with inLoop | ⟨collection, between, _, rfl, inCheck⟩
  · generalize count.rounds = rounds at inLoop
    cases rounds with
    | some rounds => exact begins_collectUpTo inLoop
    | none =>
        rcases Run.begins_andThen inLoop with inRounds | ⟨collection, between, _, rfl, atEnd⟩
        · exact begins_collectUpTo inRounds
        · split at atEnd
          · exact absurd atEnd (not_begins_of_onlyRaises (Run.onlyRaises_raised _ _ _))
          · exact absurd atEnd not_begins_nil
  · exact absurd inCheck (not_begins_of_onlyRaises (count.onlyRaises_check collection))

end Loops

/-- What happens after the beginning of an attempt tells how the attempt ended: a match with how far it
moved on, a mismatch with its cause, and a fault by never closing the attempt. -/
def ToldAs (tag : String) (place : Cursor) (later : List Event) : Outcome Reply → Prop
  | .ok reply =>
    place.position ≤ reply.cursor.position ∧
      ClosedBy (.matched tag reply.value (reply.cursor.position - place.position : Int)) later
  | .error (.mismatch cause) => ClosedBy (.failed tag cause) later
  | .error (.fault _) => NeverClosed later

theorem Run.Nests.isToldAs {run : Run Reply} (nests : run.Nests) (tag : String) {place : Cursor}
    (onward : ∀ reply, run.ending = .ok reply → place.position ≤ reply.cursor.position)
    {rest : List Event} (faultLast : ∀ fault, run.ending = .error (.fault fault) → rest = []) :
    ToldAs tag place (run.history ++ closingsOf tag place run.ending ++ rest) run.ending := by
  rcases ended : run.ending with (cause | fault) | reply
  · apply ClosedAt.closedBy
    exact ⟨nests.wellNested (ending_ne_fault_of_mismatch ended), rfl, rest, by simp [closingsOf]⟩
  · rcases nests.tracked with ⟨unclosed, tracked⟩
    rw [faultLast fault ended, closingsOf, List.append_nil, List.append_nil]
    exact neverClosed_of_stillOpen tracked
  · refine ⟨onward reply ended, ?_⟩
    apply ClosedAt.closedBy
    exact ⟨nests.wellNested (ending_ne_fault_of_ok ended), rfl, rest, by simp [closingsOf]⟩

section Parts

variable {tag : String} {ahead : List Char} {earlier : List Event} {cursor : Cursor}

theorem not_begins_closingsOf {label : String} {ending : Outcome Reply} :
    ¬Begins tag ahead earlier (closingsOf label cursor ending) := by
  rcases ending with (cause | fault) | reply
  · apply not_begins_of_ne
    intro same
    cases same
  · exact not_begins_nil
  · apply not_begins_of_ne
    intro same
    cases same

/-- What begins in an attempt that is told of is the attempt itself or something in its course. -/
theorem begins_toldAs {label : String} {shown : List Char} {run : Run Reply}
    (begins : Begins tag ahead earlier (run.toldAs label shown cursor).history) :
    (earlier = [] ∧ ahead = shown ∧ tag = label) ∨
      ∃ between, earlier = .trying label shown :: between ∧ Begins tag ahead between run.history := by
  have inParts : Begins tag ahead earlier
      ([.trying label shown] ++ (run.history ++ closingsOf label cursor run.ending)) := begins
  rcases begins_append inParts with ⟨later, here⟩ | ⟨between, longer, inside⟩
  · rcases List.cons_eq_append_iff.mp here with ⟨rfl, same⟩ | ⟨_, _, same⟩
    · cases same
      exact .inl ⟨rfl, rfl, rfl⟩
    · simp at same
  · rcases begins_append inside with inAttempt | ⟨_, _, inClosings⟩
    · exact .inr ⟨between, longer, inAttempt⟩
    · exact absurd inClosings not_begins_closingsOf

end Parts

namespace Grammar

variable {grammar : Grammar} {tag : String} {ahead : List Char}

/-- An attempt that begins in a run is the whole of it or begins in the course of something it calls. -/
theorem begins_cases {whole : Invocation} {earlier : List Event}
    (begins : Begins tag ahead earlier (grammar.invoke whole).history) :
    (earlier = [] ∧ whole.cursor.snippet? = .ok ahead ∧
        ∃ inner, whole.parser = .traced tag inner) ∨
      ∃ before part between, grammar.Calls whole before part ∧ earlier = before ++ between ∧
        Begins tag ahead between (grammar.invoke part).history := by
  rcases whole with ⟨parser, cursor, depth⟩
  cases parser with
  | pure value => exact absurd begins (not_begins_entered cursor)
  | raise error =>
      rcases begins_after_entered begins with ⟨_, _, inRaised⟩
      exact absurd inRaised (not_begins_of_onlyRaises (Run.onlyRaises_raised _ _ _))
  | symbolThat accepts =>
      rcases begins_after_entered begins with ⟨_, _, inReading⟩
      exact absurd inReading (not_begins_of_onlyRaises (onlyRaises_readSymbol accepts cursor))
  | literal expected =>
      rcases begins_after_entered begins with ⟨_, _, inReading⟩
      exact absurd inReading (not_begins_of_onlyRaises (onlyRaises_readLiteral expected cursor))
  | endOfInput =>
      rcases begins_after_entered begins with ⟨_, _, inReading⟩
      exact absurd inReading (not_begins_of_onlyRaises (onlyRaises_readEnd cursor))
  | flatMap first next =>
      rcases Run.begins_andThen begins with inFirst | ⟨reply, between, matched, longer, inNext⟩
      · exact .inr ⟨[], _, earlier, .first, rfl, inFirst⟩
      · exact .inr ⟨_, _, between, .next matched, longer, inNext⟩
  | orElse first second =>
      rcases Run.begins_orElse begins with inFirst | ⟨cause, between, failed, longer, inSecond⟩
      · exact .inr ⟨[], _, earlier, .preferred, rfl, inFirst⟩
      · exact .inr ⟨_, _, between, .alternative failed, longer, inSecond⟩
  | zeroOrMore inner =>
      rcases begins_collect begins with ⟨completed, before, between, place, comes, longer, inside⟩
      exact .inr ⟨before, _, between, .zeroOrMore comes, longer, inside⟩
  | oneOrMore inner =>
      rcases begins_collectSome begins with ⟨completed, before, between, place, comes, longer, inside⟩
      exact .inr ⟨before, _, between, .oneOrMore comes, longer, inside⟩
  | repeated inner count =>
      rcases begins_after_entered begins with ⟨afterEntry, rfl, inLoop⟩
      rcases begins_collectExactly inLoop with
        ⟨completed, wanted, before, between, place, comes, rfl, inside⟩
      exact .inr ⟨_, _, between, .repeated comes wanted, rfl, inside⟩
  | named name inner => exact .inr ⟨[], _, earlier, .named, rfl, begins⟩
  | traced label inner =>
      rcases shown : cursor.snippet? with fault | shownAhead
      · have unshown : grammar.invoke ⟨.traced label inner, cursor, depth⟩ =
            .raised .tracing (.fault .integerTooLong) cursor := traceAttempt_of_unshown shown
        rw [unshown] at begins
        exact absurd begins (not_begins_of_onlyRaises (Run.onlyRaises_raised _ _ _))
      · rw [invoke_traced shown] at begins
        rcases begins_toldAs begins with ⟨rfl, rfl, rfl⟩ | ⟨between, longer, inside⟩
        · exact .inl ⟨rfl, rfl, inner, rfl⟩
        · exact .inr ⟨_, _, between, .traced shown, longer, inside⟩
  | reference name =>
      rcases begins_after_entered begins with ⟨between, rfl, inDefinition⟩
      cases depth with
      | zero =>
          exact absurd inDefinition (not_begins_of_onlyRaises (Run.onlyRaises_raised _ _ _))
      | succ depth =>
          rcases found : grammar.find? name with _ | parser
          · simp only [resolve, found] at inDefinition
            exact absurd inDefinition (not_begins_of_onlyRaises (Run.onlyRaises_raised _ _ _))
          · simp only [resolve, found] at inDefinition
            exact .inr ⟨_, _, between, .reference found, rfl, inDefinition⟩

/-- Every beginning that is told of is that of a traced attempt of the run. -/
theorem exists_attempt {whole : Invocation} {earlier : List Event}
    (begins : Begins tag ahead earlier (grammar.invoke whole).history) :
    ∃ inner place depth, place.snippet? = .ok ahead ∧
      grammar.Contains whole earlier ⟨.traced tag inner, place, depth⟩ := by
  induction whole using (Calls.wellFounded grammar).induction generalizing earlier with
  | h whole called =>
      rcases begins_cases begins with
        ⟨rfl, snippet, inner, isTraced⟩ | ⟨before, part, between, calls, rfl, inPart⟩
      · rcases whole with ⟨parser, cursor, depth⟩
        cases isTraced
        exact ⟨inner, cursor, depth, snippet, .itself _⟩
      · rcases called part ⟨before, calls⟩ inPart with ⟨inner, place, depth, snippet, contains⟩
        exact ⟨inner, place, depth, snippet, .inner calls contains⟩

section Attempts

variable {whole : Invocation} {earlier : List Event} {inner : Parser} {place : Cursor} {depth : Nat}
  (contains : grammar.Contains whole earlier ⟨.traced tag inner, place, depth⟩)

include contains

/-- A fault in an attempt is the end of the whole. -/
theorem Contains.cutShort {fault : Fault}
    (faulted : (grammar.invoke ⟨.traced tag inner, place, depth⟩).ending = .error (.fault fault)) :
    (grammar.invoke whole).ending = .error (.fault fault) ∧
      (grammar.invoke whole).history =
        earlier ++ (grammar.invoke ⟨.traced tag inner, place, depth⟩).history := by
  rcases contains.happensIn with ⟨rest, history, faultEnds⟩
  rcases faultEnds fault faulted with ⟨ending, rfl⟩
  exact ⟨ending, by rw [history, List.append_nil]⟩

/-- An attempt of a run is told of where it began. -/
theorem Contains.toldAs (shown : place.snippet? = .ok ahead) :
    ∃ later, (grammar.invoke whole).history = earlier ++ .trying tag ahead :: later ∧
      ToldAs tag place later (grammar.invoke ⟨.traced tag inner, place, depth⟩).ending := by
  have nests : (grammar.invoke ⟨inner, place, depth⟩).Nests :=
    Run.Nests.invariant.step (Run.Nests.invariant.resolve grammar depth) inner place
  have advances := grammar.advances_step depth inner
  rcases contains.happensIn with ⟨rest, history, faultEnds⟩
  rw [invoke_traced shown] at history faultEnds ⊢
  refine ⟨_, ?_, nests.isToldAs tag (fun reply ended => (advances place reply ended).position_le)
    (fun fault faulted => (faultEnds fault faulted).2)⟩
  rw [history]
  simp only [Run.toldAs, List.append_assoc, List.cons_append]

/-- Where what is ahead cannot be shown, the attempt is not begun. -/
theorem Contains.unshown {fault : Fault} (unshown : place.snippet? = .error fault) :
    (grammar.invoke whole).ending = .error (.fault .integerTooLong) ∧
      (grammar.invoke whole).history =
        earlier ++ [.raised .tracing (.fault .integerTooLong) place] := by
  have raised : grammar.invoke ⟨.traced tag inner, place, depth⟩ =
      .raised .tracing (.fault .integerTooLong) place := traceAttempt_of_unshown unshown
  have faulted := contains.cutShort (congrArg Run.ending raised)
  rwa [raised] at faulted

end Attempts

/-- The telling of attempts in a run is well nested if the run ends in an answer or a mismatch, and the
beginning of something well nested in any case. It tells of the beginning of each traced attempt in the
run that can show what is ahead, and of nothing else; each is closed once, with what it came to, unless
it was cut short by a fault, which is then the end of the whole. An attempt that cannot show what is ahead
is not begun, and that is the end of the whole too. -/
theorem traces_wellNested (grammar : Grammar) (parser : Parser) (cursor : Cursor) :
    ((∀ fault, (grammar.parse parser cursor).ending ≠ .error (.fault fault)) →
        WellNested (grammar.parse parser cursor).history) ∧
      (∃ closings, WellNested ((grammar.parse parser cursor).history ++ closings)) ∧
      (∀ earlier tag ahead, Begins tag ahead earlier (grammar.parse parser cursor).history ↔
        ∃ inner place depth, place.snippet? = .ok ahead ∧
          grammar.Contains (grammar.outermost parser cursor) earlier
            ⟨.traced tag inner, place, depth⟩) ∧
      ∀ earlier tag inner place depth,
        grammar.Contains (grammar.outermost parser cursor) earlier
            ⟨.traced tag inner, place, depth⟩ →
          (∀ ahead, place.snippet? = .ok ahead →
            ∃ later, (grammar.parse parser cursor).history =
                earlier ++ .trying tag ahead :: later ∧
              ToldAs tag place later (grammar.invoke ⟨.traced tag inner, place, depth⟩).ending) ∧
          (∀ fault,
            (grammar.invoke ⟨.traced tag inner, place, depth⟩).ending = .error (.fault fault) →
              (grammar.parse parser cursor).ending = .error (.fault fault) ∧
                (grammar.parse parser cursor).history =
                  earlier ++ (grammar.invoke ⟨.traced tag inner, place, depth⟩).history) ∧
          ∀ fault, place.snippet? = .error fault →
            (grammar.parse parser cursor).ending = .error (.fault .integerTooLong) ∧
              (grammar.parse parser cursor).history =
                earlier ++ [.raised .tracing (.fault .integerTooLong) place] := by
  have nests := Run.Nests.invariant.parse grammar parser cursor
  refine ⟨nests.wellNested, ?_, ?_, ?_⟩
  · rcases nests.tracked with ⟨unclosed, tracked⟩
    exact exists_wellNested_append tracked
  · intro earlier tag ahead
    constructor
    · intro begins
      exact exists_attempt begins
    · rintro ⟨inner, place, depth, shown, contains⟩
      rcases contains.toldAs shown with ⟨later, history, _⟩
      exact ⟨later, history⟩
  · intro earlier tag inner place depth contains
    exact ⟨fun ahead shown => contains.toldAs shown, fun fault faulted => contains.cutShort faulted,
      fun fault unshown => contains.unshown unshown⟩

/-- An attempt that matches, and one in which a fault is raised. -/
private def line : Parser :=
  .traced "line" ((Parser.traced "item" (.word ['a'])).keepRight (.raise (.fault .outOfRange)))

/-- After a match all is closed; a fault leaves the line open, in which it is raised. -/
theorem traces_wellNested_line :
    WellNested (empty.parse (Parser.traced "item" (.word ['a'])) (.start (.text #['a']))).history ∧
      ∃ later, (empty.parse line (.start (.text #['a']))).history =
          .trying "line" ['a'] :: later ∧ NeverClosed later := by
  constructor
  · have matched : (empty.parse (Parser.traced "item" (.word ['a'])) (.start (.text #['a']))).ending =
        .ok ⟨.text ['a'], ⟨.text #['a'], 1⟩⟩ := rfl
    have nested := (empty.traces_wellNested (.traced "item" (.word ['a'])) (.start (.text #['a']))).1
    exact nested (Run.ending_ne_fault_of_ok matched)
  · have faulted : (empty.parse line (.start (.text #['a']))).ending =
        .error (.fault .outOfRange) := rfl
    have attempts := (empty.traces_wellNested line (.start (.text #['a']))).2.2.2
    have shown : (Cursor.start (.text #['a'])).snippet? = .ok ['a'] := rfl
    rcases (attempts [] "line" _ _ _ (.itself _)).1 _ shown with ⟨later, history, told⟩
    have cutShort : ToldAs "line" _ later
        (empty.parse line (.start (.text #['a']))).ending := told
    rw [faulted] at cutShort
    exact ⟨later, history, cutShort⟩

end Grammar

end CursorParsing
