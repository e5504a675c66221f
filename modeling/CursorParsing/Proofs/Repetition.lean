import CursorParsing.Parser.Combinators
import CursorParsing.Proofs.Chains
import CursorParsing.Proofs.Composition

/-!
# Repetitions

A repetition without a count makes the longest chain of matches that it can. One with a count makes as
many, whether they read something or not, and is nothing else than so many copies in a sequence, except
that a mismatch of one of them is told as one of the whole. What it tells then shows the count, the values
and what is left; where one of them cannot be written, it ends in a fault instead.
-/

namespace CursorParsing

/-! ## Counts -/

theorem Count.ofValue?_natCast (times : Nat) : Count.ofValue? (.int times) = .ok (.ofNat times) := by
  have notNegative : ¬(times : Int) < 0 := by omega
  simp [ofValue?, Value.exactNumber?, ofDecimal?, Decimal.ofInt, Decimal.ceiling, Decimal.floor,
    Number.power, ofNat, notNegative]

theorem Parser.repeated?_natCast (inner : Parser) (times : Nat) :
    inner.repeated? (.int times) = .ok (.repeated inner (.ofNat times)) := by
  rw [repeated?, Count.ofValue?_natCast]
  rfl

/-- What a repetition says that came out short. -/
def shortfall (times : Nat) (values : List Value) (stop : Cursor) : Mismatch :=
  .repetitionShort (.int times) values.length values stop.snippet

theorem message_shortfall (times : Nat) (values : List Value) (stop : Cursor) :
    (shortfall times values stop).message =
      "Did not consume " ++ (Value.int times).display ++ " items, consumed " ++
        toString values.length ++ ": " ++ (Value.list values).display ++ ", " ++
        String.ofList stop.snippet := rfl

/-- Whether a repetition that came out short can write the count, its values and what is left. -/
def isReportable (times : Nat) (values : List Value) (stop : Cursor) : Bool :=
  (Value.int times).isWritable && values.all Value.isWritable && stop.isShowable

theorem refusal_short (times : Nat) (values : List Value) (stop : Cursor) :
    stop.refusal (.repetitionShort (.int times) values.length values) =
      if isReportable times values stop then .mismatch (shortfall times values stop)
      else .fault .integerTooLong := by
  rw [Cursor.refusal_eq, Mismatch.isWritable, Value.isWritable_list, Bool.and_comm]
  rfl

theorem refusal_short_of_unwritable {times : Nat} {values : List Value} (stop : Cursor)
    (unwritable : values.all Value.isWritable = false) :
    stop.refusal (.repetitionShort (.int times) values.length values) = .fault .integerTooLong := by
  simp [refusal_short, isReportable, unwritable]

/-! ## Copies in a sequence -/

/-- So many copies of a parser in a sequence. -/
def Parser.copies (parser : Parser) (count : Nat) : Parser :=
  .sequence (List.replicate count parser)

section Copies

variable {grammar : Grammar} {parser : Parser} {Goes : Reply → Cursor → Prop} {cursor stop : Cursor}
  {values : List Value} {count : Nat}

theorem Chain.ending_sequenceAfter
    (chain : Chain (grammar.parse parser) Goes cursor values stop) (collected : List Value)
    (rest : List Parser) :
    (grammar.parse (.sequenceAfter collected (List.replicate values.length parser ++ rest))
        cursor).ending =
      (grammar.parse (.sequenceAfter (values.reverse ++ collected) rest) stop).ending := by
  induction chain generalizing collected with
  | start cursor => rfl
  | @next cursor stop reply values matched _ _ induction =>
      rw [List.length_cons, List.replicate_succ, List.cons_append, Parser.sequenceAfter,
        Grammar.ending_parse_flatMap, Run.andThen_of_ok _ matched, induction,
        List.reverse_cons, List.append_assoc, List.singleton_append]

theorem Chain.ending_copies (chain : Chain (grammar.parse parser) Goes cursor values stop)
    (enough : values.length = count) :
    (grammar.parse (parser.copies count) cursor).ending = .ok ⟨.tuple values, stop⟩ := by
  have ending := chain.ending_sequenceAfter [] []
  rw [List.append_nil, List.append_nil, enough] at ending
  rw [Parser.copies, Parser.sequence, ending, Parser.sequenceAfter, List.reverse_reverse]
  rfl

theorem Chain.ending_copies_of_error (chain : Chain (grammar.parse parser) Goes cursor values stop)
    (fewer : values.length < count) {error : Error}
    (failed : (grammar.parse parser stop).ending = .error error) :
    (grammar.parse (parser.copies count) cursor).ending = .error error := by
  have room : count = values.length + (count - values.length - 1 + 1) := by omega
  rw [Parser.copies, Parser.sequence, room, List.replicate_add, chain.ending_sequenceAfter,
    List.replicate_succ, Parser.sequenceAfter, Grammar.ending_parse_flatMap,
    Run.andThen_of_error _ failed]

end Copies

namespace Grammar

/-! ## Without a count -/

theorem zeroOrMore_eq_ok (grammar : Grammar) (parser : Parser) (cursor : Cursor) {reply : Reply}
    (ended : (grammar.parse (.zeroOrMore parser) cursor).ending = .ok reply) :
    ∃ collection, (collectAll (grammar.parse parser) cursor).ending = .ok collection ∧
      reply = ⟨.list collection.values, collection.cursor⟩ := by
  rw [ending_parse_zeroOrMore] at ended
  rcases Run.map_eq_ok ended with ⟨collection, collected, rfl⟩
  exact ⟨collection, collected, rfl⟩

theorem zeroOrMore_eq_ok_iff {grammar : Grammar} {parser : Parser} {cursor stop : Cursor}
    {values : List Value} :
    (grammar.parse (.zeroOrMore parser) cursor).ending = .ok ⟨.list values, stop⟩ ↔
      (collectAll (grammar.parse parser) cursor).ending = .ok ⟨values, stop⟩ := by
  constructor
  · intro ended
    rcases grammar.zeroOrMore_eq_ok parser cursor ended with ⟨collection, collected, same⟩
    cases same
    exact collected
  · intro collected
    rw [ending_parse_zeroOrMore, Run.ending_map, collected]
    rfl

theorem zeroOrMore_eq_error_iff {grammar : Grammar} {parser : Parser} {cursor : Cursor}
    {error : Error} :
    (grammar.parse (.zeroOrMore parser) cursor).ending = .error error ↔
      (collectAll (grammar.parse parser) cursor).ending = .error error := by
  rw [ending_parse_zeroOrMore]
  constructor
  · exact Run.map_eq_error
  · intro failed
    rw [Run.ending_map, failed]
    rfl

/-- A repetition without a count never fails for want of matches. It gives the values of matches each of
which leads on, up to a place where there is no match, or up to a last one that reads nothing; so there
are not many more of them than symbols. It ends in a fault where such matches lead to one. -/
theorem zeroOrMore_maximal (grammar : Grammar) (parser : Parser) (cursor : Cursor) :
    (∀ cause, (grammar.parse (.zeroOrMore parser) cursor).ending ≠ .error (.mismatch cause)) ∧
      (∀ values stop,
        (grammar.parse (.zeroOrMore parser) cursor).ending = .ok ⟨.list values, stop⟩ ↔
          EndsInMismatch (grammar.parse parser) cursor values stop ∨
            EndsStill (grammar.parse parser) cursor values stop) ∧
      (∀ reply, (grammar.parse (.zeroOrMore parser) cursor).ending = .ok reply →
        ∃ values, reply.value = .list values ∧ values.length ≤ cursor.length + 1) ∧
      ∀ fault, (grammar.parse (.zeroOrMore parser) cursor).ending = .error (.fault fault) ↔
        ∃ values place, Chain (grammar.parse parser) Reply.LeadsOn cursor values place ∧
          (grammar.parse parser place).ending = .error (.fault fault) := by
  have advances := grammar.advances_parse parser
  refine ⟨?_, ?_, ?_, ?_⟩
  · intro cause failed
    exact collectAll_ne_mismatch advances cursor cause (zeroOrMore_eq_error_iff.mp failed)
  · intro values stop
    exact zeroOrMore_eq_ok_iff.trans (collectAll_eq_ok_iff advances)
  · intro reply ended
    rcases grammar.zeroOrMore_eq_ok parser cursor ended with ⟨collection, collected, rfl⟩
    exact ⟨collection.values, rfl, length_le_of_collectAll advances collected⟩
  · intro fault
    exact zeroOrMore_eq_error_iff.trans (collectAll_eq_fault_iff advances)

/-- An `a`, or else nothing. -/
private def maybeA : Parser := (Parser.word ['a']).fallback (.text [])

private def twoAs : Source := .text #['a', 'a', '!']

private theorem maybeA_endsStill :
    EndsStill (empty.parse maybeA) ⟨twoAs, 0⟩ [.text ['a'], .text ['a'], .text []] ⟨twoAs, 2⟩ := by
  have first : (empty.parse maybeA ⟨twoAs, 0⟩).ending = .ok ⟨.text ['a'], ⟨twoAs, 1⟩⟩ := rfl
  have second : (empty.parse maybeA ⟨twoAs, 1⟩).ending = .ok ⟨.text ['a'], ⟨twoAs, 2⟩⟩ := rfl
  have chain : Chain (empty.parse maybeA) Reply.LeadsOn ⟨twoAs, 0⟩ [.text ['a'], .text ['a']]
      ⟨twoAs, 2⟩ :=
    .next first (Nat.lt_succ_self 0) (.single second (Nat.lt_succ_self 1))
  exact ⟨_, .text [], _, rfl, chain, rfl, rfl⟩

/-- After two matches that read something, the third reads nothing and is the last. -/
theorem zeroOrMore_maximal_maybeA :
    (empty.parse (.zeroOrMore maybeA) ⟨twoAs, 0⟩).ending =
      .ok ⟨.list [.text ['a'], .text ['a'], .text []], ⟨twoAs, 2⟩⟩ :=
  ((empty.zeroOrMore_maximal maybeA _).2.1 _ _).mpr (.inr maybeA_endsStill)

/-! ## At least once -/

section AtLeastOnce

variable {grammar : Grammar} {parser : Parser} {cursor : Cursor}

/-- What matches any number of times is what matches at least once, or else nothing. -/
theorem parse_zeroOrMore (grammar : Grammar) (parser : Parser) (cursor : Cursor) :
    grammar.parse (.zeroOrMore parser) cursor =
      (grammar.parse (.oneOrMore parser) cursor).orElse fun _ => .done ⟨.list [], cursor⟩ := by
  have collected := collectAll_eq_orElse (grammar.advances_step (grammar.depthFrom cursor) parser) cursor
  exact (congrArg (Run.map Collection.toReply) collected).trans (Run.orElse_map _ _ _)

theorem oneOrMore_eq_mismatch_iff {cause : Mismatch} :
    (grammar.parse (.oneOrMore parser) cursor).ending = .error (.mismatch cause) ↔
      (grammar.parse parser cursor).ending = .error (.mismatch cause) := by
  have atFirst : (collectSome (parser.step (grammar.resolve (grammar.depthFrom cursor))) cursor).ending =
      .error (.mismatch cause) ↔ (grammar.parse parser cursor).ending = .error (.mismatch cause) :=
    collectSome_eq_mismatch_iff
  rw [← atFirst]
  constructor
  · exact Run.map_eq_error
  · exact congrArg (Except.map Collection.toReply)

theorem oneOrMore_eq_ok {reply : Reply}
    (matched : (grammar.parse (.oneOrMore parser) cursor).ending = .ok reply) :
    ∃ first values stop, reply = ⟨.list (first :: values), stop⟩ := by
  rcases Run.map_eq_ok matched with ⟨collection, collected, rfl⟩
  rcases collectSome_eq_cons _ collected with ⟨first, later, rfl⟩
  exact ⟨first, later.values, later.cursor, rfl⟩

theorem oneOrMore_eq_ok_iff {values : List Value} {stop : Cursor} (notEmpty : values ≠ []) :
    (grammar.parse (.oneOrMore parser) cursor).ending = .ok ⟨.list values, stop⟩ ↔
      (grammar.parse (.zeroOrMore parser) cursor).ending = .ok ⟨.list values, stop⟩ := by
  rw [parse_zeroOrMore]
  rcases ended : (grammar.parse (.oneOrMore parser) cursor).ending with (cause | fault) | reply
  · rw [Run.orElse_of_mismatch _ ended]
    simp [Ne.symm notEmpty]
  · rw [Run.orElse_of_fault _ ended, ended]
  · rw [Run.orElse_of_ok _ ended, ended]

end AtLeastOnce

/-- A repetition that has to match once and one that does not are the same as long as there is a match:
they give the same values, leave the same and end in the same faults. Where there is none, the first
fails as the single attempt does, and nothing else makes it fail for want of a match. -/
theorem oneOrMore_of_zeroOrMore (grammar : Grammar) (parser : Parser) (cursor : Cursor) :
    (∀ values stop, values ≠ [] →
        ((grammar.parse (.oneOrMore parser) cursor).ending = .ok ⟨.list values, stop⟩ ↔
          (grammar.parse (.zeroOrMore parser) cursor).ending = .ok ⟨.list values, stop⟩)) ∧
      (∀ stop, (grammar.parse (.zeroOrMore parser) cursor).ending = .ok ⟨.list [], stop⟩ →
        stop = cursor ∧ ∃ cause,
          (grammar.parse parser cursor).ending = .error (.mismatch cause) ∧
            (grammar.parse (.oneOrMore parser) cursor).ending = .error (.mismatch cause)) ∧
      (∀ error, (grammar.parse (.zeroOrMore parser) cursor).ending = .error error →
        (grammar.parse (.oneOrMore parser) cursor).ending = .error error) ∧
      (∀ reply, (grammar.parse (.oneOrMore parser) cursor).ending = .ok reply →
        ∃ first values, reply.value = .list (first :: values)) ∧
      (∀ fault, (grammar.parse (.oneOrMore parser) cursor).ending = .error (.fault fault) →
        (grammar.parse (.zeroOrMore parser) cursor).ending = .error (.fault fault)) ∧
      ∀ cause, (grammar.parse (.oneOrMore parser) cursor).ending = .error (.mismatch cause) ↔
        (grammar.parse parser cursor).ending = .error (.mismatch cause) := by
  refine ⟨fun _ _ => oneOrMore_eq_ok_iff, ?_⟩
  rw [parse_zeroOrMore]
  rcases ended : (grammar.parse (.oneOrMore parser) cursor).ending with (cause | fault) | reply
  · rw [Run.orElse_of_mismatch _ ended]
    have single := oneOrMore_eq_mismatch_iff.mp ended
    refine ⟨?_, nofun, nofun, nofun, ?_⟩
    · intro stop same
      cases same
      exact ⟨rfl, cause, single, rfl⟩
    · intro other
      rw [single]
  · rw [Run.orElse_of_fault _ ended, ended]
    refine ⟨nofun, fun _ same => same, nofun, fun _ same => same, ?_⟩
    intro cause
    rw [← oneOrMore_eq_mismatch_iff, ended]
  · rw [Run.orElse_of_ok _ ended, ended]
    rcases oneOrMore_eq_ok ended with ⟨first, values, stop, rfl⟩
    refine ⟨nofun, nofun, ?_, nofun, ?_⟩
    · intro reply same
      cases same
      exact ⟨first, values, rfl⟩
    · intro cause
      rw [← oneOrMore_eq_mismatch_iff, ended]

/-- With an `a` in front both give the same; without one, the one that has to match tells what the
single attempt tells. -/
theorem oneOrMore_of_zeroOrMore_word :
    (empty.parse (.oneOrMore (.word ['a'])) ⟨twoAs, 0⟩).ending =
        .ok ⟨.list [.text ['a'], .text ['a']], ⟨twoAs, 2⟩⟩ ∧
      ∃ cause, (empty.parse (.word ['a']) ⟨twoAs, 2⟩).ending = .error (.mismatch cause) ∧
        (empty.parse (.oneOrMore (.word ['a'])) ⟨twoAs, 2⟩).ending = .error (.mismatch cause) := by
  constructor
  · exact ((empty.oneOrMore_of_zeroOrMore (.word ['a']) ⟨twoAs, 0⟩).1 _ _ (List.cons_ne_nil _ _)).mpr rfl
  · exact ((empty.oneOrMore_of_zeroOrMore (.word ['a']) ⟨twoAs, 2⟩).2.1 _ rfl).2

/-! ## With a count -/

section Counted

variable {grammar : Grammar} {parser : Parser} {Goes : Reply → Cursor → Prop} {cursor stop : Cursor}
  {values : List Value} {times : Nat}
  (chain : Chain (grammar.parse parser) Goes cursor values stop)

include chain

theorem repeated_of_length (enough : values.length = times) :
    (grammar.parse (.repeated parser (.ofNat times)) cursor).ending = .ok ⟨.list values, stop⟩ := by
  rw [ending_parse_repeated, Run.ending_map, chain.collectExactly_of_length enough]
  rfl

variable (fewer : values.length < times)

include fewer

theorem repeated_of_mismatch {cause : Mismatch}
    (failed : (grammar.parse parser stop).ending = .error (.mismatch cause)) :
    (grammar.parse (.repeated parser (.ofNat times)) cursor).ending =
      .error (if isReportable times values stop then .mismatch (shortfall times values stop)
        else .fault .integerTooLong) := by
  rw [ending_parse_repeated, Run.ending_map, chain.collectExactly_of_mismatch fewer failed,
    refusal_short]
  rfl

theorem repeated_of_fault {fault : Fault}
    (faulted : (grammar.parse parser stop).ending = .error (.fault fault)) :
    (grammar.parse (.repeated parser (.ofNat times)) cursor).ending = .error (.fault fault) := by
  rw [ending_parse_repeated, Run.ending_map, chain.collectExactly_of_fault fewer faulted]
  rfl

end Counted

section Counted

variable {grammar : Grammar} {parser : Parser} {cursor : Cursor} {times : Nat}

theorem repeated_eq_ok {reply : Reply}
    (matched : (grammar.parse (.repeated parser (.ofNat times)) cursor).ending = .ok reply) :
    ∃ values stop, Chain (grammar.parse parser) (fun _ _ => True) cursor values stop ∧
      values.length = times ∧ reply = ⟨.list values, stop⟩ := by
  rcases exists_chain_upTo (grammar.parse parser) times cursor with
    ⟨values, stop, chain, enough | ⟨fewer, (cause | fault), failed⟩⟩
  · cases (repeated_of_length chain enough).symm.trans matched
    exact ⟨values, stop, chain, enough, rfl⟩
  · have short := (repeated_of_mismatch chain fewer failed).symm.trans matched
    cases short
  · cases (repeated_of_fault chain fewer failed).symm.trans matched

/-- A fault of a repetition is that of an attempt, unless it cannot be told that it came out short. -/
theorem repeated_eq_fault {fault : Fault}
    (faulted : (grammar.parse (.repeated parser (.ofNat times)) cursor).ending =
      .error (.fault fault)) :
    ∃ values stop, Chain (grammar.parse parser) (fun _ _ => True) cursor values stop ∧
      ((grammar.parse parser stop).ending = .error (.fault fault) ∨
        values.length < times ∧ isReportable times values stop = false) := by
  rcases exists_chain_upTo (grammar.parse parser) times cursor with
    ⟨values, stop, chain, enough | ⟨fewer, (cause | fault), failed⟩⟩
  · cases (repeated_of_length chain enough).symm.trans faulted
  · have short := (repeated_of_mismatch chain fewer failed).symm.trans faulted
    split at short <;> cases short
    rename_i unreportable
    exact ⟨values, stop, chain, .inr ⟨fewer, Bool.eq_false_iff.mpr unreportable⟩⟩
  · cases (repeated_of_fault chain fewer failed).symm.trans faulted
    exact ⟨values, stop, chain, .inl failed⟩

end Counted

/-- Where a repetition without a count has found its matches, one with a count takes the first of them
if there are enough. If there are not, it depends on how they ended: at a mismatch it fails and tells of
what there was, if that can be written, and a match that reads nothing is made as often as is still
wanted. -/
theorem repeated_of_zeroOrMore (grammar : Grammar) (parser : Parser) (cursor : Cursor) (times : Nat)
    {values : List Value} {stop : Cursor}
    (collected : (grammar.parse (.zeroOrMore parser) cursor).ending = .ok ⟨.list values, stop⟩) :
    parser.repeated? (.int times) = .ok (.repeated parser (.ofNat times)) ∧
      (times ≤ values.length →
        ∃ place, Chain (grammar.parse parser) (fun _ _ => True) cursor (values.take times) place ∧
          (grammar.parse (.repeated parser (.ofNat times)) cursor).ending =
            .ok ⟨.list (values.take times), place⟩) ∧
      (values.length < times → EndsInMismatch (grammar.parse parser) cursor values stop →
        (grammar.parse (.repeated parser (.ofNat times)) cursor).ending =
            .error (if isReportable times values stop then .mismatch (shortfall times values stop)
              else .fault .integerTooLong) ∧
          (shortfall times values stop).message =
            "Did not consume " ++ (Value.int times).display ++ " items, consumed " ++
              toString values.length ++ ": " ++ (Value.list values).display ++ ", " ++
              String.ofList stop.snippet) ∧
      (values.length < times → EndsStill (grammar.parse parser) cursor values stop →
        ∃ last, values.getLast? = some last ∧
          (grammar.parse (.repeated parser (.ofNat times)) cursor).ending =
            .ok ⟨.list (values ++ List.replicate (times - values.length) last), stop⟩) := by
  have advances := grammar.advances_parse parser
  refine ⟨parser.repeated?_natCast times, ?_, ?_, ?_⟩
  · intro enough
    have ends := (collectAll_eq_ok_iff advances).mp (zeroOrMore_eq_ok_iff.mp collected)
    rcases (chain_of_ends ends).take times with ⟨place, taken⟩
    exact ⟨place, taken, repeated_of_length taken (List.length_take_of_le enough)⟩
  · rintro fewer ⟨chain, cause, failed⟩
    exact ⟨repeated_of_mismatch chain fewer failed, message_shortfall times values stop⟩
  · intro fewer ends
    rcases ends.matches_again advances with ⟨last, isLast, again⟩
    have padded := (chain_of_ends (.inr ends)).append
      (Chain.replicate again trivial (times - values.length))
    refine ⟨last, isLast, repeated_of_length padded ?_⟩
    rw [List.length_append, List.length_replicate]
    omega

/-- The third match reads nothing and is made three times if five are wanted; if one is wanted, the
first is enough. -/
theorem repeated_of_zeroOrMore_maybeA :
    (∃ place, Chain (empty.parse maybeA) (fun _ _ => True) ⟨twoAs, 0⟩ [.text ['a']] place ∧
        (empty.parse (.repeated maybeA (.ofNat 1)) ⟨twoAs, 0⟩).ending =
          .ok ⟨.list [.text ['a']], place⟩) ∧
      (empty.parse (.repeated maybeA (.ofNat 5)) ⟨twoAs, 0⟩).ending =
        .ok ⟨.list [.text ['a'], .text ['a'], .text [], .text [], .text []], ⟨twoAs, 2⟩⟩ := by
  have collected : (empty.parse (.zeroOrMore maybeA) ⟨twoAs, 0⟩).ending =
      .ok ⟨.list [.text ['a'], .text ['a'], .text []], ⟨twoAs, 2⟩⟩ := rfl
  constructor
  · exact (empty.repeated_of_zeroOrMore maybeA _ 1 collected).2.1 (by decide)
  · rcases (empty.repeated_of_zeroOrMore maybeA _ 5 collected).2.2.2 (by decide) maybeA_endsStill with
      ⟨last, isLast, padded⟩
    cases isLast
    exact padded

/-- A repetition and the sequence of copies end together: both match, or a copy does not, or both end in
the same fault. -/
theorem repeated_copies_cases (grammar : Grammar) (parser : Parser) (times : Nat) (cursor : Cursor) :
    (∃ values stop, values.length = times ∧
        (grammar.parse (.repeated parser (.ofNat times)) cursor).ending = .ok ⟨.list values, stop⟩ ∧
        (grammar.parse (parser.copies times) cursor).ending = .ok ⟨.tuple values, stop⟩) ∨
      (∃ values stop cause, values.length < times ∧
        Chain (grammar.parse parser) (fun _ _ => True) cursor values stop ∧
        (grammar.parse parser stop).ending = .error (.mismatch cause)) ∨
      ∃ fault,
        (grammar.parse (.repeated parser (.ofNat times)) cursor).ending = .error (.fault fault) ∧
          (grammar.parse (parser.copies times) cursor).ending = .error (.fault fault) := by
  rcases exists_chain_upTo (grammar.parse parser) times cursor with
    ⟨values, stop, chain, enough | ⟨fewer, (cause | fault), failed⟩⟩
  · exact .inl ⟨values, stop, enough, repeated_of_length chain enough, chain.ending_copies enough⟩
  · exact .inr (.inl ⟨values, stop, cause, fewer, chain, failed⟩)
  · exact .inr (.inr ⟨fault, repeated_of_fault chain fewer failed,
      chain.ending_copies_of_error fewer failed⟩)

/-- A repetition with a count matches where a sequence of as many copies does, gives the same values and
leaves the same; and it ends in every fault that the sequence ends in. Where the sequence does not match,
the repetition tells how many copies there are in the longest sequence that does, what they give and what
they leave; it ends in a fault of its own if that cannot be written. -/
theorem repeated_iff_copies (grammar : Grammar) (parser : Parser) (times : Nat) (cursor : Cursor) :
    parser.repeated? (.int times) = .ok (.repeated parser (.ofNat times)) ∧
      (∀ values stop,
        (grammar.parse (.repeated parser (.ofNat times)) cursor).ending = .ok ⟨.list values, stop⟩ ↔
          values.length = times ∧
            (grammar.parse (parser.copies times) cursor).ending = .ok ⟨.tuple values, stop⟩) ∧
      (∀ reply, (grammar.parse (.repeated parser (.ofNat times)) cursor).ending = .ok reply →
        ∃ values, reply.value = .list values) ∧
      (∀ reply, (grammar.parse (parser.copies times) cursor).ending = .ok reply →
        ∃ values, reply.value = .tuple values ∧ values.length = times) ∧
      (∀ fault, (grammar.parse (parser.copies times) cursor).ending = .error (.fault fault) →
        (grammar.parse (.repeated parser (.ofNat times)) cursor).ending = .error (.fault fault)) ∧
      (∀ fault,
        (grammar.parse (.repeated parser (.ofNat times)) cursor).ending = .error (.fault fault) →
          (grammar.parse (parser.copies times) cursor).ending = .error (.fault fault) ∨
            fault = .integerTooLong ∧
              ∃ cause, (grammar.parse (parser.copies times) cursor).ending = .error (.mismatch cause)) ∧
      ∀ cause, (grammar.parse (parser.copies times) cursor).ending = .error (.mismatch cause) →
        ∃ values stop, values.length < times ∧
          (grammar.parse (parser.copies values.length) cursor).ending =
            .ok ⟨.tuple values, stop⟩ ∧
          (∀ fewer, fewer ≤ values.length → ∃ place,
            (grammar.parse (parser.copies fewer) cursor).ending =
              .ok ⟨.tuple (values.take fewer), place⟩) ∧
          (∀ more, values.length < more →
            (grammar.parse (parser.copies more) cursor).ending = .error (.mismatch cause)) ∧
          (grammar.parse (.repeated parser (.ofNat times)) cursor).ending =
            .error (if isReportable times values stop then .mismatch (shortfall times values stop)
              else .fault .integerTooLong) ∧
          (shortfall times values stop).message =
            "Did not consume " ++ (Value.int times).display ++ " items, consumed " ++
              toString values.length ++ ": " ++ (Value.list values).display ++ ", " ++
              String.ofList stop.snippet := by
  have built := parser.repeated?_natCast times
  rcases grammar.repeated_copies_cases parser times cursor with
    ⟨values, stop, enough, whole, copies⟩ | ⟨values, stop, cause, fewer, chain, failed⟩ |
      ⟨fault, whole, copies⟩
  · rw [whole, copies]
    refine ⟨built, ?_, ?_, ?_, nofun, nofun, nofun⟩
    · intro others place
      constructor
      · intro same
        cases same
        exact ⟨enough, rfl⟩
      · rintro ⟨_, same⟩
        cases same
        rfl
    · intro reply same
      cases same
      exact ⟨values, rfl⟩
    · intro reply same
      cases same
      exact ⟨values, rfl, enough⟩
  · have short := repeated_of_mismatch chain fewer failed
    have copies := chain.ending_copies_of_error fewer failed
    rw [short, copies]
    refine ⟨built, fun _ _ => ⟨nofun, nofun⟩, nofun, nofun, nofun, ?_, ?_⟩
    · intro fault told
      have tooLong : fault = .integerTooLong := by
        split at told <;> cases told
        rfl
      exact .inr ⟨tooLong, cause, rfl⟩
    intro other same
    cases same
    refine ⟨values, stop, fewer, chain.ending_copies rfl, ?_,
      fun more longer => chain.ending_copies_of_error longer failed, rfl,
      message_shortfall times values stop⟩
    intro count within
    rcases chain.take count with ⟨place, taken⟩
    exact ⟨place, taken.ending_copies (List.length_take_of_le within)⟩
  · rw [whole, copies]
    exact ⟨built, fun _ _ => ⟨nofun, nofun⟩, nofun, nofun, fun _ same => same, fun _ same => .inl same,
      nofun⟩

/-- Two copies match, and so the repetition does; the third does not, and the repetition tells of two. -/
theorem repeated_iff_copies_word :
    (empty.parse (.repeated (.word ['a']) (.ofNat 2)) ⟨twoAs, 0⟩).ending =
        .ok ⟨.list [.text ['a'], .text ['a']], ⟨twoAs, 2⟩⟩ ∧
      (empty.parse (.repeated (.word ['a']) (.ofNat 3)) ⟨twoAs, 0⟩).ending =
        .error (.mismatch (shortfall 3 [.text ['a'], .text ['a']] ⟨twoAs, 2⟩)) := by
  have second : (empty.parse ((Parser.word ['a']).copies 2) ⟨twoAs, 0⟩).ending =
      .ok ⟨.tuple [.text ['a'], .text ['a']], ⟨twoAs, 2⟩⟩ := rfl
  have third : (empty.parse ((Parser.word ['a']).copies 3) ⟨twoAs, 0⟩).ending =
      .error (.mismatch (.expectedPrefix (.text ['a']) ['!'])) := rfl
  have reportable : isReportable 3 [.text ['a'], .text ['a']] ⟨twoAs, 2⟩ = true := by decide +kernel
  constructor
  · exact ((empty.repeated_iff_copies (.word ['a']) 2 ⟨twoAs, 0⟩).2.1 _ _).mpr ⟨rfl, second⟩
  · rcases (empty.repeated_iff_copies (.word ['a']) 3 ⟨twoAs, 0⟩).2.2.2.2.2.2 _ third with
      ⟨values, stop, fewer, longest, _, more, short, _⟩
    have notFewer : ¬values.length < 2 := by
      intro less
      cases second.symm.trans (more 2 less)
    have two : values.length = 2 := by omega
    rw [two] at longest
    cases second.symm.trans longest
    rw [short, if_pos reportable]

/-! ## A shortfall that cannot be written -/

/-- Two symbols, multiplied. -/
private def product : Parser := .lift2 Operation.multiply.apply .anySymbol .anySymbol

private def twice (number : Int) : Source := .list #[.int number, .int number]

private theorem product_endsInMismatch (number : Int) :
    EndsInMismatch (empty.parse product) ⟨twice number, 0⟩ [.int (number * number)]
      ⟨twice number, 2⟩ := by
  have matched : (empty.parse product ⟨twice number, 0⟩).ending =
      .ok ⟨.int (number * number), ⟨twice number, 2⟩⟩ := rfl
  exact ⟨.single matched (Nat.zero_lt_succ 1), .predicateFailed ['[', ']'], rfl⟩

/-- A number of 5999 digits is too long to be told of. -/
private theorem unwritable_square :
    [Value.int (10 ^ 2999 * 10 ^ 2999)].all Value.isWritable = false := by decide +kernel

private theorem ending_repeated_product :
    (empty.parse (.repeated product (.ofNat 2)) ⟨twice (10 ^ 2999), 0⟩).ending =
      .error (.fault .integerTooLong) := by
  rcases product_endsInMismatch (10 ^ 2999) with ⟨chain, cause, failed⟩
  rw [repeated_of_mismatch chain (Nat.lt_succ_self 1) failed, ← refusal_short,
    refusal_short_of_unwritable _ unwritable_square]

/-- There is one product and then no other, but what there was is not told. -/
theorem repeated_of_zeroOrMore_unwritable :
    (empty.parse (.zeroOrMore product) ⟨twice (10 ^ 2999), 0⟩).ending =
        .ok ⟨.list [.int (10 ^ 2999 * 10 ^ 2999)], ⟨twice (10 ^ 2999), 2⟩⟩ ∧
      EndsInMismatch (empty.parse product) ⟨twice (10 ^ 2999), 0⟩
        [.int (10 ^ 2999 * 10 ^ 2999)] ⟨twice (10 ^ 2999), 2⟩ ∧
      (empty.parse (.repeated product (.ofNat 2)) ⟨twice (10 ^ 2999), 0⟩).ending =
        .error (.fault .integerTooLong) := by
  have ends := product_endsInMismatch (10 ^ 2999)
  have collected := ends.collectAll (empty.advances_parse product)
  exact ⟨zeroOrMore_eq_ok_iff.mpr collected, ends, ending_repeated_product⟩

/-- The second copy does not match, but the repetition does not tell of the first. -/
theorem repeated_iff_copies_unwritable :
    (empty.parse (product.copies 1) ⟨twice (10 ^ 2999), 0⟩).ending =
        .ok ⟨.tuple [.int (10 ^ 2999 * 10 ^ 2999)], ⟨twice (10 ^ 2999), 2⟩⟩ ∧
      (∃ cause, (empty.parse (product.copies 2) ⟨twice (10 ^ 2999), 0⟩).ending =
        .error (.mismatch cause)) ∧
      (empty.parse (.repeated product (.ofNat 2)) ⟨twice (10 ^ 2999), 0⟩).ending =
        .error (.fault .integerTooLong) := by
  rcases product_endsInMismatch (10 ^ 2999) with ⟨chain, cause, failed⟩
  exact ⟨chain.ending_copies rfl, ⟨cause, chain.ending_copies_of_error (Nat.lt_succ_self 1) failed⟩,
    ending_repeated_product⟩

end Grammar

end CursorParsing
