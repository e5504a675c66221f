import CursorParsing.Proofs.Guardedness

/-!
# Chains of matches

A loop makes one match after another. Where a chain of matches cannot be made longer, the attempt at its
end says how the loop ends.
-/

namespace CursorParsing

/-- A match that reads something. -/
def Reply.LeadsOn (reply : Reply) (cursor : Cursor) : Prop := cursor.position < reply.cursor.position

/-- Matches one after another: each begins where the one before it ended, and each is of the kind that is
asked for. -/
inductive Chain (attempt : Cursor → Run Reply) (Goes : Reply → Cursor → Prop) :
    Cursor → List Value → Cursor → Prop
  | start (cursor : Cursor) : Chain attempt Goes cursor [] cursor
  | next {cursor stop : Cursor} {reply : Reply} {values : List Value}
      (matched : (attempt cursor).ending = .ok reply) (goes : Goes reply cursor)
      (rest : Chain attempt Goes reply.cursor values stop) :
      Chain attempt Goes cursor (reply.value :: values) stop

namespace Chain

variable {attempt : Cursor → Run Reply} {Goes Allowed : Reply → Cursor → Prop}
  {cursor middle stop : Cursor} {values more : List Value}

theorem single {reply : Reply} (matched : (attempt cursor).ending = .ok reply)
    (goes : Goes reply cursor) : Chain attempt Goes cursor [reply.value] reply.cursor :=
  .next matched goes (.start _)

theorem weaken (chain : Chain attempt Goes cursor values stop)
    (allows : ∀ reply place, Goes reply place → Allowed reply place) :
    Chain attempt Allowed cursor values stop := by
  induction chain with
  | start cursor => exact .start cursor
  | next matched goes _ induction => exact .next matched (allows _ _ goes) induction

theorem append (chain : Chain attempt Goes cursor values middle)
    (following : Chain attempt Goes middle more stop) :
    Chain attempt Goes cursor (values ++ more) stop := by
  induction chain with
  | start cursor => exact following
  | next matched goes _ induction => exact .next matched goes (induction following)

/-- The first matches of a chain are a chain, to wherever they lead. -/
theorem take (chain : Chain attempt Goes cursor values stop) (count : Nat) :
    ∃ place, Chain attempt Goes cursor (values.take count) place := by
  induction chain generalizing count with
  | start cursor =>
      rw [List.take_nil]
      exact ⟨cursor, .start cursor⟩
  | @next cursor stop reply values matched goes _ induction =>
      cases count with
      | zero => exact ⟨cursor, .start cursor⟩
      | succ count =>
          rcases induction count with ⟨place, rest⟩
          exact ⟨place, .next matched goes rest⟩

/-- What matches where it stays matches there as often as one likes. -/
theorem replicate {value : Value} (matched : (attempt cursor).ending = .ok ⟨value, cursor⟩)
    (goes : Goes ⟨value, cursor⟩ cursor) (count : Nat) :
    Chain attempt Goes cursor (List.replicate count value) cursor := by
  induction count with
  | zero => exact .start cursor
  | succ count induction => exact .next matched goes induction

/-- Each match of a chain that leads on takes a symbol from what is left. -/
theorem length_add_le (chain : Chain attempt Reply.LeadsOn cursor values stop)
    (advances : Advances attempt) : values.length + stop.length ≤ cursor.length := by
  induction chain with
  | start cursor => simp
  | next matched leadsOn _ induction =>
      have shorter := (advances _ _ matched).length_lt (Nat.ne_of_gt leadsOn)
      rw [List.length_cons]
      omega

end Chain

/-- Every chain of matches that lead on comes to an end. -/
theorem Advances.exists_chain {attempt : Cursor → Run Reply} (advances : Advances attempt)
    (cursor : Cursor) :
    ∃ values stop, Chain attempt Reply.LeadsOn cursor values stop ∧
      ∀ reply, (attempt stop).ending = .ok reply → ¬reply.LeadsOn stop := by
  induction left : cursor.length using Nat.strongRecOn generalizing cursor with
  | ind left induction =>
      by_cases goesOn : ∃ reply, (attempt cursor).ending = .ok reply ∧ reply.LeadsOn cursor
      · rcases goesOn with ⟨reply, matched, leadsOn⟩
        have shorter := (advances cursor reply matched).length_lt (Nat.ne_of_gt leadsOn)
        rw [left] at shorter
        rcases induction reply.cursor.length shorter reply.cursor rfl with
          ⟨values, stop, rest, halts⟩
        exact ⟨reply.value :: values, stop, .next matched leadsOn rest, halts⟩
      · refine ⟨[], cursor, .start cursor, ?_⟩
        intro reply matched leadsOn
        exact goesOn ⟨reply, matched, leadsOn⟩

/-- A number of matches is made, or a first attempt fails. -/
theorem exists_chain_upTo (attempt : Cursor → Run Reply) (rounds : Nat) (cursor : Cursor) :
    ∃ values stop, Chain attempt (fun _ _ => True) cursor values stop ∧
      (values.length = rounds ∨
        values.length < rounds ∧ ∃ error, (attempt stop).ending = .error error) := by
  induction rounds generalizing cursor with
  | zero => exact ⟨[], cursor, .start cursor, .inl rfl⟩
  | succ rounds induction =>
      rcases ended : (attempt cursor).ending with error | reply
      · exact ⟨[], cursor, .start cursor, .inr ⟨Nat.succ_pos rounds, error, ended⟩⟩
      · rcases induction reply.cursor with ⟨values, stop, rest, enough | ⟨fewer, failed⟩⟩
        · exact ⟨reply.value :: values, stop, .next ended trivial rest,
            .inl (congrArg Nat.succ enough)⟩
        · exact ⟨reply.value :: values, stop, .next ended trivial rest,
            .inr ⟨Nat.succ_lt_succ fewer, failed⟩⟩

/-! ## Loops along a chain -/

namespace Collection

/-- The same cursor after more values. -/
def prepend (values : List Value) (rest : Collection) : Collection :=
  ⟨values ++ rest.values, rest.cursor⟩

theorem map_prepend_nil (outcome : Outcome Collection) : outcome.map (prepend []) = outcome := by
  rcases outcome with error | collection <;> rfl

theorem map_cons_map_prepend (value : Value) (values : List Value) (outcome : Outcome Collection) :
    (outcome.map (prepend values)).map (cons value) = outcome.map (prepend (value :: values)) := by
  rcases outcome with error | collection <;> rfl

end Collection

namespace Chain

variable {attempt : Cursor → Run Reply} {Goes : Reply → Cursor → Prop} {cursor stop : Cursor}
  {values : List Value}

theorem ending_collect (chain : Chain attempt Reply.LeadsOn cursor values stop) (bound : Nat) :
    (collect attempt (values.length + bound) cursor).ending =
      (collect attempt bound stop).ending.map (Collection.prepend values) := by
  induction chain with
  | start cursor => rw [List.length_nil, Nat.zero_add, Collection.map_prepend_nil]
  | next matched leadsOn _ induction =>
      rw [List.length_cons, Nat.succ_add, collect_succ, Run.round_of_ok _ matched,
        Run.unlessStill_of_moves (Nat.ne_of_gt leadsOn), induction,
        Collection.map_cons_map_prepend]

theorem ending_collectUpTo (chain : Chain attempt Goes cursor values stop) (rounds : Nat) :
    (collectUpTo attempt (values.length + rounds) cursor).ending =
      (collectUpTo attempt rounds stop).ending.map (Collection.prepend values) := by
  induction chain with
  | start cursor => rw [List.length_nil, Nat.zero_add, Collection.map_prepend_nil]
  | next matched _ _ induction =>
      rw [List.length_cons, Nat.succ_add, collectUpTo_succ, Run.round_of_ok _ matched, induction,
        Collection.map_cons_map_prepend]

section All

variable (advances : Advances attempt) (chain : Chain attempt Reply.LeadsOn cursor values stop)

include advances chain

/-- There is at least one more attempt after any chain. -/
theorem ending_collectAll :
    ∃ bound, (collectAll attempt cursor).ending =
      (collect attempt (bound + 1) stop).ending.map (Collection.prepend values) := by
  have noLonger := chain.length_add_le advances
  have room : cursor.length + 1 = values.length + (cursor.length - values.length + 1) := by omega
  rw [collectAll, room]
  exact ⟨_, chain.ending_collect _⟩

theorem collectAll_of_mismatch {cause : Mismatch}
    (failed : (attempt stop).ending = .error (.mismatch cause)) :
    (collectAll attempt cursor).ending = .ok ⟨values, stop⟩ := by
  rcases chain.ending_collectAll advances with ⟨bound, ending⟩
  rw [ending, collect_succ, Run.round_of_mismatch _ failed]
  simp [Except.map, Collection.prepend]

theorem collectAll_of_fault {fault : Fault}
    (faulted : (attempt stop).ending = .error (.fault fault)) :
    (collectAll attempt cursor).ending = .error (.fault fault) := by
  rcases chain.ending_collectAll advances with ⟨bound, ending⟩
  rw [ending, collect_succ, Run.round_of_fault _ faulted]
  rfl

theorem collectAll_of_still {reply : Reply} (matched : (attempt stop).ending = .ok reply)
    (still : reply.cursor.position = stop.position) :
    (collectAll attempt cursor).ending = .ok ⟨values ++ [reply.value], reply.cursor⟩ := by
  rcases chain.ending_collectAll advances with ⟨bound, ending⟩
  rw [ending, collect_succ, Run.round_of_ok _ matched]
  simp [Run.unlessStill, still, Except.map, Collection.cons, Collection.prepend]

end All

section Counted

variable {times : Nat}

theorem collectExactly_of_length (chain : Chain attempt Goes cursor values stop)
    (enough : values.length = times) :
    (collectExactly attempt (.ofNat times) cursor).ending = .ok ⟨values, stop⟩ := by
  have collected : (collectUpTo attempt times cursor).ending = .ok ⟨values, stop⟩ := by
    have ending := chain.ending_collectUpTo 0
    rw [Nat.add_zero, enough] at ending
    rw [ending]
    simp [collectUpTo, Except.map, Collection.prepend]
  rw [collectExactly_eq]
  simp only [collectCounted, Count.ofNat, Run.andThen_of_ok _ collected]
  simp [Count.check, Count.isMetBy, enough]

variable (chain : Chain attempt Goes cursor values stop) (fewer : values.length < times)

include chain fewer

/-- There is one more attempt after a chain that is too short. -/
theorem ending_collectUpTo_of_lt :
    ∃ rounds, (collectUpTo attempt times cursor).ending =
      (collectUpTo attempt (rounds + 1) stop).ending.map (Collection.prepend values) := by
  have room : times = values.length + (times - values.length - 1 + 1) := by omega
  rw [room]
  exact ⟨_, chain.ending_collectUpTo _⟩

theorem collectExactly_of_mismatch {cause : Mismatch}
    (failed : (attempt stop).ending = .error (.mismatch cause)) :
    (collectExactly attempt (.ofNat times) cursor).ending =
      .error (stop.refusal (.repetitionShort (.int times) values.length values)) := by
  have collected : (collectUpTo attempt times cursor).ending = .ok ⟨values, stop⟩ := by
    rcases chain.ending_collectUpTo_of_lt fewer with ⟨rounds, ending⟩
    rw [ending, collectUpTo_succ, Run.round_of_mismatch _ failed]
    simp [Except.map, Collection.prepend]
  rw [collectExactly_eq]
  simp only [collectCounted, Count.ofNat, Run.andThen_of_ok _ collected]
  simp [Count.check, Count.isMetBy, Nat.ne_of_gt fewer]

theorem collectExactly_of_fault {fault : Fault}
    (faulted : (attempt stop).ending = .error (.fault fault)) :
    (collectExactly attempt (.ofNat times) cursor).ending = .error (.fault fault) := by
  have collected : (collectUpTo attempt times cursor).ending = .error (.fault fault) := by
    rcases chain.ending_collectUpTo_of_lt fewer with ⟨rounds, ending⟩
    rw [ending, collectUpTo_succ, Run.round_of_fault _ faulted]
    rfl
  rw [collectExactly_eq]
  simp only [collectCounted, Count.ofNat, Run.andThen_of_error _ collected]

end Counted

end Chain

/-! ## More attempts than there can be -/

section Bounds

variable {attempt : Cursor → Run Reply} (advances : Advances attempt)

include advances

/-- Every match but the last takes a symbol, so a bound above the number of symbols is never met. -/
theorem collect_eq_collect {bound other : Nat} {cursor : Cursor} (enough : cursor.length < bound)
    (otherEnough : cursor.length < other) :
    collect attempt bound cursor = collect attempt other cursor := by
  induction bound generalizing other cursor with
  | zero => exact absurd enough (Nat.not_lt_zero _)
  | succ bound induction =>
      cases other with
      | zero => exact absurd otherEnough (Nat.not_lt_zero _)
      | succ other =>
          rw [collect_succ, collect_succ]
          apply Run.round_congr
          intro reply matched
          apply Run.unlessStill_congr
          intro moves
          have shorter := (advances cursor reply matched).length_lt moves
          exact induction (by omega) (by omega)

/-- To collect what there is, is to collect something or else nothing. -/
theorem collectAll_eq_orElse (cursor : Cursor) :
    collectAll attempt cursor =
      (collectSome attempt cursor).orElse fun _ => .done ⟨[], cursor⟩ := by
  have onward : (attempt cursor).round cursor (Run.unlessStill cursor (collect attempt cursor.length)) =
      (attempt cursor).round cursor (Run.unlessStill cursor (collectAll attempt)) := by
    apply Run.round_congr
    intro reply matched
    apply Run.unlessStill_congr
    intro moves
    have shorter := (advances cursor reply matched).length_lt moves
    exact collect_eq_collect advances shorter (Nat.lt_succ_self _)
  have never (reply : Reply) : (Run.unlessStill cursor (collectAll attempt) reply).NeverMismatches :=
    Run.neverMismatches_unlessStill collectAll_neverMismatches reply
  rw [collectAll, collect_succ, onward, Run.round_eq_orElse never, collectSome_eq]

end Bounds

/-! ## How a loop ends -/

section Endings

/-- The matches that lead on come to a place where there is no match. -/
def EndsInMismatch (attempt : Cursor → Run Reply) (cursor : Cursor) (values : List Value)
    (stop : Cursor) : Prop :=
  Chain attempt Reply.LeadsOn cursor values stop ∧
    ∃ cause, (attempt stop).ending = .error (.mismatch cause)

/-- The matches that lead on are followed by one that reads nothing. -/
def EndsStill (attempt : Cursor → Run Reply) (cursor : Cursor) (values : List Value)
    (stop : Cursor) : Prop :=
  ∃ before last place, values = before ++ [last] ∧
    Chain attempt Reply.LeadsOn cursor before place ∧
    (attempt place).ending = .ok ⟨last, stop⟩ ∧ stop.position = place.position

variable {attempt : Cursor → Run Reply} {cursor stop : Cursor} {values : List Value}

theorem chain_of_ends
    (ends : EndsInMismatch attempt cursor values stop ∨ EndsStill attempt cursor values stop) :
    Chain attempt (fun _ _ => True) cursor values stop := by
  rcases ends with ⟨chain, _⟩ | ⟨before, last, place, rfl, chain, matched, _⟩
  · exact chain.weaken fun _ _ _ => trivial
  · exact (chain.weaken fun _ _ _ => trivial).append (.single matched trivial)

variable (advances : Advances attempt)

include advances

/-- A match that reads nothing is made again where it was made. -/
theorem EndsStill.matches_again (ends : EndsStill attempt cursor values stop) :
    ∃ last, values.getLast? = some last ∧ (attempt stop).ending = .ok ⟨last, stop⟩ := by
  rcases ends with ⟨before, last, place, rfl, _, matched, still⟩
  have same : stop = place := by
    have sameSource := (advances place _ matched).source_eq
    cases stop
    cases place
    cases sameSource
    cases still
    rfl
  rw [← same] at matched
  exact ⟨last, List.getLast?_concat, matched⟩

theorem EndsInMismatch.collectAll (ends : EndsInMismatch attempt cursor values stop) :
    (collectAll attempt cursor).ending = .ok ⟨values, stop⟩ := by
  rcases ends with ⟨chain, cause, failed⟩
  exact chain.collectAll_of_mismatch advances failed

theorem EndsStill.collectAll (ends : EndsStill attempt cursor values stop) :
    (collectAll attempt cursor).ending = .ok ⟨values, stop⟩ := by
  rcases ends with ⟨before, last, place, rfl, chain, matched, still⟩
  exact chain.collectAll_of_still advances matched still

/-- There are three ways for a loop to end, and a mismatch is none of them. -/
theorem collectAll_cases (cursor : Cursor) :
    (∃ values stop, EndsInMismatch attempt cursor values stop) ∨
      (∃ values stop, EndsStill attempt cursor values stop) ∨
      ∃ values stop fault, Chain attempt Reply.LeadsOn cursor values stop ∧
        (attempt stop).ending = .error (.fault fault) := by
  rcases advances.exists_chain cursor with ⟨values, stop, chain, halts⟩
  rcases ended : (attempt stop).ending with (cause | fault) | reply
  · exact .inl ⟨values, stop, chain, cause, ended⟩
  · exact .inr (.inr ⟨values, stop, fault, chain, ended⟩)
  · have still := Nat.le_antisymm (Nat.le_of_not_lt (halts reply ended))
      (advances stop reply ended).position_le
    exact .inr (.inl ⟨_, reply.cursor, values, reply.value, stop, rfl, chain, ended, still⟩)

theorem collectAll_eq_ok_iff :
    (collectAll attempt cursor).ending = .ok ⟨values, stop⟩ ↔
      EndsInMismatch attempt cursor values stop ∨ EndsStill attempt cursor values stop := by
  constructor
  · intro collected
    rcases collectAll_cases advances cursor with
      ⟨_, _, ends⟩ | ⟨_, _, ends⟩ | ⟨_, _, _, chain, faulted⟩
    · cases (ends.collectAll advances).symm.trans collected
      exact .inl ends
    · cases (ends.collectAll advances).symm.trans collected
      exact .inr ends
    · cases (chain.collectAll_of_fault advances faulted).symm.trans collected
  · rintro (ends | ends)
    · exact ends.collectAll advances
    · exact ends.collectAll advances

theorem collectAll_eq_fault_iff {fault : Fault} :
    (collectAll attempt cursor).ending = .error (.fault fault) ↔
      ∃ values stop, Chain attempt Reply.LeadsOn cursor values stop ∧
        (attempt stop).ending = .error (.fault fault) := by
  constructor
  · intro faulted
    rcases collectAll_cases advances cursor with
      ⟨_, _, ends⟩ | ⟨_, _, ends⟩ | ⟨values, stop, _, chain, failed⟩
    · cases (ends.collectAll advances).symm.trans faulted
    · cases (ends.collectAll advances).symm.trans faulted
    · cases (chain.collectAll_of_fault advances failed).symm.trans faulted
      exact ⟨values, stop, chain, failed⟩
  · rintro ⟨values, stop, chain, failed⟩
    exact chain.collectAll_of_fault advances failed

theorem collectAll_ne_mismatch (cursor : Cursor) (cause : Mismatch) :
    (collectAll attempt cursor).ending ≠ .error (.mismatch cause) := by
  intro failed
  rcases collectAll_cases advances cursor with
    ⟨_, _, ends⟩ | ⟨_, _, ends⟩ | ⟨_, _, _, chain, faulted⟩
  · cases (ends.collectAll advances).symm.trans failed
  · cases (ends.collectAll advances).symm.trans failed
  · cases (chain.collectAll_of_fault advances faulted).symm.trans failed

/-- Only the last match may read nothing, so there is at most one more than there are symbols. -/
theorem length_le_of_collectAll
    (collected : (collectAll attempt cursor).ending = .ok ⟨values, stop⟩) :
    values.length ≤ cursor.length + 1 := by
  rcases (collectAll_eq_ok_iff advances).mp collected with
    ⟨chain, _⟩ | ⟨before, last, place, rfl, chain, _⟩
  · have noLonger := chain.length_add_le advances
    omega
  · have noLonger := chain.length_add_le advances
    rw [List.length_append, List.length_singleton]
    omega

end Endings

end CursorParsing
