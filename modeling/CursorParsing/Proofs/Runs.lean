import CursorParsing.Grammar

/-!
# Laws of runs

How runs are chained, and what follows for a property that chaining keeps. Every loop is made of rounds
of one kind, so what holds of a round by induction holds of all of them.
-/

namespace CursorParsing

namespace Run

variable {α β : Type}

@[simp] theorem ending_done (answer : α) : (done answer).ending = .ok answer := rfl

@[simp] theorem history_done (answer : α) : (done answer).history = [] := rfl

@[simp] theorem ending_raised (origin : Origin) (error : Error) (cursor : Cursor) :
    (raised origin error cursor : Run α).ending = .error error := rfl

@[simp] theorem history_raised (origin : Origin) (error : Error) (cursor : Cursor) :
    (raised origin error cursor : Run α).history = [.raised origin error cursor] := rfl

@[simp] theorem ending_after (event : Event) (run : Run α) :
    (run.after event).ending = run.ending := rfl

@[simp] theorem history_after (event : Event) (run : Run α) :
    (run.after event).history = event :: run.history := rfl

@[simp] theorem ending_map (transform : α → β) (run : Run α) :
    (run.map transform).ending = run.ending.map transform := rfl

@[simp] theorem history_map (transform : α → β) (run : Run α) :
    (run.map transform).history = run.history := rfl

theorem andThen_of_ok {run : Run α} {answer : α} (next : α → Run β)
    (ended : run.ending = .ok answer) :
    run.andThen next = ⟨(next answer).ending, run.history ++ (next answer).history⟩ := by
  simp [andThen, ended]

theorem andThen_of_error {run : Run α} {error : Error} (next : α → Run β)
    (ended : run.ending = .error error) : run.andThen next = ⟨.error error, run.history⟩ := by
  simp [andThen, ended]

theorem orElse_of_mismatch {run : Run α} {cause : Mismatch} (alternative : Unit → Run α)
    (ended : run.ending = .error (.mismatch cause)) :
    run.orElse alternative =
      ⟨(alternative ()).ending, run.history ++ (alternative ()).history⟩ := by
  simp [orElse, ended]

theorem orElse_of_ok {run : Run α} {answer : α} (alternative : Unit → Run α)
    (ended : run.ending = .ok answer) : run.orElse alternative = run := by
  simp [orElse, ended]

theorem orElse_of_fault {run : Run α} {fault : Fault} (alternative : Unit → Run α)
    (ended : run.ending = .error (.fault fault)) : run.orElse alternative = run := by
  simp [orElse, ended]

theorem ending_ne_fault_of_ok {run : Run α} {answer : α} (ended : run.ending = .ok answer)
    (fault : Fault) : run.ending ≠ .error (.fault fault) := by
  intro faulted
  rw [ended] at faulted
  cases faulted

theorem ending_ne_fault_of_mismatch {run : Run α} {cause : Mismatch}
    (ended : run.ending = .error (.mismatch cause)) (fault : Fault) :
    run.ending ≠ .error (.fault fault) := by
  intro faulted
  rw [ended] at faulted
  cases faulted

/-- An answer of a chain is an answer of its last link. -/
theorem andThen_eq_ok {run : Run α} {next : α → Run β} {answer : β}
    (ended : (run.andThen next).ending = .ok answer) :
    ∃ first, run.ending = .ok first ∧ (next first).ending = .ok answer := by
  rcases first : run.ending with error | middle
  · rw [andThen_of_error next first] at ended
    cases ended
  · rw [andThen_of_ok next first] at ended
    exact ⟨middle, rfl, ended⟩

theorem andThen_congr {run : Run α} {next other : α → Run β}
    (same : ∀ answer, run.ending = .ok answer → next answer = other answer) :
    run.andThen next = run.andThen other := by
  rcases ended : run.ending with error | answer
  · rw [andThen_of_error next ended, andThen_of_error other ended]
  · rw [andThen_of_ok next ended, andThen_of_ok other ended, same answer ended]

theorem orElse_congr {run : Run α} {alternative other : Unit → Run α}
    (same : ∀ cause, run.ending = .error (.mismatch cause) → alternative () = other ()) :
    run.orElse alternative = run.orElse other := by
  rcases ended : run.ending with (cause | fault) | answer
  · rw [orElse_of_mismatch alternative ended, orElse_of_mismatch other ended, same cause ended]
  · rw [orElse_of_fault alternative ended, orElse_of_fault other ended]
  · rw [orElse_of_ok alternative ended, orElse_of_ok other ended]

theorem map_eq_ok {run : Run α} {transform : α → β} {answer : β}
    (ended : (run.map transform).ending = .ok answer) :
    ∃ first, run.ending = .ok first ∧ transform first = answer := by
  rcases first : run.ending with error | middle
  · rw [ending_map, first] at ended
    cases ended
  · rw [ending_map, first] at ended
    cases ended
    exact ⟨middle, rfl, rfl⟩

theorem map_eq_error {transform : α → β} {run : Run α} {error : Error}
    (failed : (run.map transform).ending = .error error) : run.ending = .error error := by
  rcases ended : run.ending with other | answer
  · rw [ending_map, ended] at failed
    cases failed
    rfl
  · rw [ending_map, ended] at failed
    cases failed

/-- A chain fails at its first link or at the next. -/
theorem andThen_eq_error {run : Run α} {next : α → Run β} {error : Error}
    (failed : (run.andThen next).ending = .error error) :
    run.ending = .error error ∨
      ∃ answer, run.ending = .ok answer ∧ (next answer).ending = .error error := by
  rcases ended : run.ending with other | answer
  · rw [andThen_of_error next ended] at failed
    cases failed
    exact .inl rfl
  · rw [andThen_of_ok next ended] at failed
    exact .inr ⟨answer, rfl, failed⟩

/-- A mismatch of the first way is never the outcome of a choice. -/
theorem orElse_eq_mismatch {run : Run α} {alternative : Unit → Run α} {cause : Mismatch}
    (failed : (run.orElse alternative).ending = .error (.mismatch cause)) :
    (∃ first, run.ending = .error (.mismatch first)) ∧
      (alternative ()).ending = .error (.mismatch cause) := by
  rcases ended : run.ending with (first | fault) | answer
  · rw [orElse_of_mismatch alternative ended] at failed
    exact ⟨⟨first, rfl⟩, failed⟩
  · rw [orElse_of_fault alternative ended, ended] at failed
    cases failed
  · rw [orElse_of_ok alternative ended, ended] at failed
    cases failed

/-! ## Chains -/

section Chains

variable {γ : Type}

theorem done_andThen (answer : α) (next : α → Run β) : (done answer).andThen next = next answer := by
  simp [andThen, done]

theorem andThen_done (transform : α → β) (run : Run α) :
    (run.andThen fun answer => done (transform answer)) = run.map transform := by
  rcases ended : run.ending with error | answer <;> simp [andThen, map, done, ended, Except.map]

theorem andThen_assoc (run : Run α) (next : α → Run β) (last : β → Run γ) :
    (run.andThen next).andThen last = run.andThen fun answer => (next answer).andThen last := by
  rcases ended : run.ending with error | answer
  · rw [andThen_of_error next ended, andThen_of_error _ ended, andThen_of_error _ rfl]
  · rw [andThen_of_ok next ended, andThen_of_ok _ ended]
    rcases nextEnded : (next answer).ending with error | middle
    · rw [andThen_of_error last nextEnded, andThen_of_error last rfl]
    · rw [andThen_of_ok last nextEnded, andThen_of_ok last rfl, List.append_assoc]

theorem map_andThen (transform : α → β) (run : Run α) (next : β → Run γ) :
    (run.map transform).andThen next = run.andThen fun answer => next (transform answer) := by
  rcases ended : run.ending with error | answer <;> simp [andThen, map, ended, Except.map]

theorem andThen_map (run : Run α) (next : α → Run β) (transform : β → γ) :
    (run.andThen next).map transform = run.andThen fun answer => (next answer).map transform := by
  rcases ended : run.ending with error | answer <;> simp [andThen, map, ended, Except.map]

theorem orElse_assoc (run : Run α) (second third : Unit → Run α) :
    (run.orElse second).orElse third = run.orElse fun _ => (second ()).orElse third := by
  rcases ended : run.ending with (cause | fault) | answer
  · rw [orElse_of_mismatch second ended, orElse_of_mismatch _ ended]
    rcases secondEnded : (second ()).ending with (cause | fault) | answer
    · rw [orElse_of_mismatch third secondEnded, orElse_of_mismatch third rfl, List.append_assoc]
    · rw [orElse_of_fault third secondEnded, orElse_of_fault third rfl, secondEnded]
    · rw [orElse_of_ok third secondEnded, orElse_of_ok third rfl, secondEnded]
  · rw [orElse_of_fault second ended, orElse_of_fault third ended, orElse_of_fault _ ended]
  · rw [orElse_of_ok second ended, orElse_of_ok third ended, orElse_of_ok _ ended]

theorem orElse_map (run : Run α) (alternative : Unit → Run α) (transform : α → β) :
    (run.orElse alternative).map transform =
      (run.map transform).orElse fun _ => (alternative ()).map transform := by
  rcases ended : run.ending with (cause | fault) | answer <;> simp [orElse, map, ended, Except.map]

theorem map_id (run : Run α) : run.map id = run := by
  rcases run with ⟨error | answer, history⟩ <;> rfl

theorem map_map (first : α → β) (second : β → γ) (run : Run α) :
    (run.map first).map second = run.map fun answer => second (first answer) := by
  rcases ended : run.ending with error | answer <;> simp [map, ended, Except.map]

theorem map_congr {run : Run α} {transform other : α → β}
    (same : ∀ answer, run.ending = .ok answer → transform answer = other answer) :
    run.map transform = run.map other := by
  rcases ended : run.ending with error | answer
  · simp [map, ended, Except.map]
  · simp [map, ended, Except.map, same answer ended]

end Chains

end Run

/-! ## Rounds of a loop -/

/-- One round of a loop: a match goes on, a mismatch ends the loop at the cursor of the round, and a
fault ends everything. -/
def Run.round (run : Run Reply) (cursor : Cursor) (goOn : Reply → Run Collection) :
    Run Collection :=
  ((run.map some).orElse fun _ => .done none).andThen fun
    | none => .done ⟨[], cursor⟩
    | some reply => (goOn reply).map (.cons reply.value)

namespace Run

variable {run : Run Reply} {cursor : Cursor}

theorem round_of_ok {reply : Reply} (goOn : Reply → Run Collection)
    (ended : run.ending = .ok reply) :
    run.round cursor goOn =
      ⟨(goOn reply).ending.map (.cons reply.value), run.history ++ (goOn reply).history⟩ := by
  simp [round, orElse, andThen, ended, Except.map]

theorem round_of_mismatch {cause : Mismatch} (goOn : Reply → Run Collection)
    (ended : run.ending = .error (.mismatch cause)) :
    run.round cursor goOn = ⟨.ok ⟨[], cursor⟩, run.history⟩ := by
  simp [round, orElse, andThen, ended, Except.map]

theorem round_of_fault {fault : Fault} (goOn : Reply → Run Collection)
    (ended : run.ending = .error (.fault fault)) :
    run.round cursor goOn = ⟨.error (.fault fault), run.history⟩ := by
  simp [round, orElse, andThen, ended, Except.map]

theorem round_congr {goOn other : Reply → Run Collection}
    (same : ∀ reply, run.ending = .ok reply → goOn reply = other reply) :
    run.round cursor goOn = run.round cursor other := by
  rcases ended : run.ending with (cause | fault) | reply
  · rw [round_of_mismatch goOn ended, round_of_mismatch other ended]
  · rw [round_of_fault goOn ended, round_of_fault other ended]
  · rw [round_of_ok goOn ended, round_of_ok other ended, same reply ended]

/-- A round is a match and what follows it, or else nothing, if what follows never fails for want of a
match. -/
theorem round_eq_orElse {goOn : Reply → Run Collection}
    (never : ∀ reply cause, (goOn reply).ending ≠ .error (.mismatch cause)) :
    run.round cursor goOn =
      (run.andThen fun reply => (goOn reply).map (.cons reply.value)).orElse fun _ =>
        .done ⟨[], cursor⟩ := by
  rcases ended : run.ending with (cause | fault) | reply
  · rw [round_of_mismatch goOn ended, andThen_of_error _ ended, orElse_of_mismatch _ rfl]
    simp
  · rw [round_of_fault goOn ended, andThen_of_error _ ended, orElse_of_fault _ rfl]
  · rw [round_of_ok goOn ended, andThen_of_ok _ ended]
    rcases later : (goOn reply).ending with (cause | fault) | collection
    · exact absurd later (never reply cause)
    · rw [orElse_of_fault _ (by rw [ending_map, later]; rfl)]
      simp [later]
    · rw [orElse_of_ok _ (by rw [ending_map, later]; rfl)]
      simp [later]

/-- A round ends well in one of two ways. -/
theorem round_eq_ok {goOn : Reply → Run Collection} {collection : Collection}
    (ended : (run.round cursor goOn).ending = .ok collection) :
    (∃ cause, run.ending = .error (.mismatch cause) ∧ collection = ⟨[], cursor⟩) ∨
      ∃ reply later, run.ending = .ok reply ∧ (goOn reply).ending = .ok later ∧
        collection = later.cons reply.value := by
  rcases first : run.ending with (cause | fault) | reply
  · rw [round_of_mismatch goOn first] at ended
    cases ended
    exact .inl ⟨cause, rfl, rfl⟩
  · rw [round_of_fault goOn first] at ended
    cases ended
  · rw [round_of_ok goOn first] at ended
    have mapped : ((goOn reply).map (.cons reply.value)).ending = .ok collection := ended
    rcases map_eq_ok mapped with ⟨later, laterEnded, rfl⟩
    exact .inr ⟨reply, later, rfl, laterEnded, rfl⟩

end Run

section Loops

variable (attempt : Cursor → Run Reply)

/-- What follows a match when everything is collected: the end of the loop if the match read nothing. -/
def Run.unlessStill (cursor : Cursor) (goOn : Cursor → Run Collection) (reply : Reply) :
    Run Collection :=
  if reply.cursor.position = cursor.position then .done ⟨[], reply.cursor⟩ else goOn reply.cursor

theorem collect_succ (bound : Nat) (cursor : Cursor) :
    collect attempt (bound + 1) cursor =
      (attempt cursor).round cursor (Run.unlessStill cursor (collect attempt bound)) := by
  rcases ended : (attempt cursor).ending with (cause | fault) | reply
  · simp [collect, ended, Run.round_of_mismatch _ ended]
  · simp [collect, ended, Run.round_of_fault _ ended]
  · rw [Run.round_of_ok _ ended]
    by_cases still : reply.cursor.position = cursor.position <;>
      simp [collect, ended, still, Run.unlessStill, Except.map, Collection.cons]

theorem collectUpTo_succ (rounds : Nat) (cursor : Cursor) :
    collectUpTo attempt (rounds + 1) cursor =
      (attempt cursor).round cursor fun reply => collectUpTo attempt rounds reply.cursor := by
  rcases ended : (attempt cursor).ending with (cause | fault) | reply
  · simp [collectUpTo, ended, Run.round_of_mismatch _ ended]
  · simp [collectUpTo, ended, Run.round_of_fault _ ended]
  · simp [collectUpTo, ended, Run.round_of_ok _ ended]

theorem collectSome_eq (cursor : Cursor) :
    collectSome attempt cursor = (attempt cursor).andThen fun reply =>
      (Run.unlessStill cursor (collectAll attempt) reply).map (.cons reply.value) := by
  unfold collectSome
  congr 1
  funext reply
  by_cases still : reply.cursor.position = cursor.position <;>
    simp [still, Run.unlessStill, Run.map, Run.done, Except.map, Collection.cons]

theorem collectSome_eq_cons {cursor : Cursor} {collection : Collection}
    (ended : (collectSome attempt cursor).ending = .ok collection) :
    ∃ first later, collection = Collection.cons first later := by
  rw [collectSome_eq] at ended
  rcases Run.andThen_eq_ok ended with ⟨reply, _, followed⟩
  rcases Run.map_eq_ok followed with ⟨later, _, rfl⟩
  exact ⟨reply.value, later, rfl⟩

/-- Collect as long as more matches are wanted, where no number of rounds means endlessly many. -/
def collectCounted (rounds : Option Nat) (cursor : Cursor) : Run Collection :=
  match rounds with
  | some rounds => collectUpTo attempt rounds cursor
  | none => collectUntilMismatch attempt cursor

/-- Whether the count was met is asked when the loop has ended. -/
def Count.check (count : Count) (collection : Collection) : Run Collection :=
  if count.isMetBy collection.values.length then .done collection
  else
    .raised .repetition
      (collection.cursor.refusal
        (.repetitionShort count.requested collection.values.length collection.values))
      collection.cursor

theorem Count.check_eq_ok {count : Count} {collection checked : Collection}
    (ended : (count.check collection).ending = .ok checked) :
    count.isMetBy collection.values.length = true ∧ checked = collection := by
  unfold check at ended
  split at ended <;> cases ended
  rename_i met
  exact ⟨met, rfl⟩

theorem collectExactly_eq (count : Count) (cursor : Cursor) :
    collectExactly attempt count cursor =
      (collectCounted attempt count.rounds cursor).andThen count.check := rfl

end Loops

/-! ## Loops never fail for want of matches -/

def Run.NeverMismatches {α : Type} (run : Run α) : Prop :=
  ∀ cause, run.ending ≠ .error (.mismatch cause)

section Loops

variable {attempt : Cursor → Run Reply}

theorem Run.neverMismatches_round {run : Run Reply} {cursor : Cursor}
    {goOn : Reply → Run Collection} (later : ∀ reply, (goOn reply).NeverMismatches) :
    (run.round cursor goOn).NeverMismatches := by
  intro cause
  rcases ended : run.ending with (absorbed | fault) | reply
  · rw [round_of_mismatch goOn ended]
    exact nofun
  · rw [round_of_fault goOn ended]
    exact nofun
  · rw [round_of_ok goOn ended]
    intro failed
    rcases laterEnded : (goOn reply).ending with error | collection
    · rw [laterEnded] at failed
      cases failed
      exact later reply cause laterEnded
    · rw [laterEnded] at failed
      cases failed

theorem Run.neverMismatches_unlessStill {cursor : Cursor} {goOn : Cursor → Run Collection}
    (later : ∀ stop, (goOn stop).NeverMismatches) (reply : Reply) :
    (Run.unlessStill cursor goOn reply).NeverMismatches := by
  unfold unlessStill
  split
  · exact nofun
  · exact later reply.cursor

theorem collect_neverMismatches (bound : Nat) (cursor : Cursor) :
    (collect attempt bound cursor).NeverMismatches := by
  induction bound generalizing cursor with
  | zero => exact nofun
  | succ bound induction =>
      rw [collect_succ]
      exact Run.neverMismatches_round (Run.neverMismatches_unlessStill induction)

theorem collectAll_neverMismatches (cursor : Cursor) : (collectAll attempt cursor).NeverMismatches :=
  collect_neverMismatches _ cursor

/-- Where something has to match, only the first attempt can fail. -/
theorem collectSome_eq_mismatch_iff {cause : Mismatch} {cursor : Cursor} :
    (collectSome attempt cursor).ending = .error (.mismatch cause) ↔
      (attempt cursor).ending = .error (.mismatch cause) := by
  rw [collectSome_eq]
  constructor
  · intro failed
    rcases Run.andThen_eq_error failed with firstFailed | ⟨reply, _, restFailed⟩
    · exact firstFailed
    · have never : (Run.unlessStill cursor (collectAll attempt) reply).NeverMismatches :=
        Run.neverMismatches_unlessStill collectAll_neverMismatches reply
      exact absurd (Run.map_eq_error restFailed) (never cause)
  · intro failed
    rw [Run.andThen_of_error _ failed]

theorem collectUpTo_neverMismatches (rounds : Nat) (cursor : Cursor) :
    (collectUpTo attempt rounds cursor).NeverMismatches := by
  induction rounds generalizing cursor with
  | zero => exact nofun
  | succ rounds induction =>
      rw [collectUpTo_succ]
      exact Run.neverMismatches_round fun reply => induction reply.cursor

theorem collectCounted_neverMismatches (rounds : Option Nat) (cursor : Cursor) :
    (collectCounted attempt rounds cursor).NeverMismatches := by
  intro cause failed
  cases rounds with
  | some rounds => exact collectUpTo_neverMismatches rounds cursor cause failed
  | none =>
      simp only [collectCounted, collectUntilMismatch] at failed
      rcases ended : (collectUpTo attempt (cursor.length + 1) cursor).ending with error | collection
      · rw [Run.andThen_of_error _ ended] at failed
        cases failed
        exact collectUpTo_neverMismatches _ cursor cause ended
      · rw [Run.andThen_of_ok _ ended] at failed
        dsimp only at failed
        split at failed <;> cases failed

end Loops

end CursorParsing
