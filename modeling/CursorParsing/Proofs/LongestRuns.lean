import CursorParsing.Proofs.Literals
import CursorParsing.Proofs.LongestTexts
import CursorParsing.Proofs.TextReading

/-!
# The longest run of symbols

A recogniser of symbols that is repeated takes all that it accepts, up to the first symbol that it refuses
or up to the end. So nothing blank is left behind a lexeme. The last attempt is refused, and although nobody
hears of it, it has to show what is left; if that cannot be written, the repetition ends in a fault.
-/

namespace CursorParsing

/-- Of the runs in front all of whose items are accepted, the longest. -/
abbrev IsLongestRun {Item : Type} (accepts : Item → Bool) : (run items : List Item) → Prop :=
  IsLongest (runsOf (accepts · = true))

/-- The symbols of a sequence make a set if each of them may be in one. -/
theorem Parser.members?_eq_ok {symbols : Value} {members : List Value}
    (isSequence : symbols.symbols? = some members)
    (hashable : ∀ member ∈ members, member.isHashable = true) :
    members? symbols = .ok members := by
  rw [members?, isSequence]
  exact if_pos (List.all_eq_true.mpr hashable)

namespace Grammar

/-! ## Symbols one by one -/

section Symbols

variable (grammar : Grammar) {accepts : Value → Outcome Bool} {cursor : Cursor}

theorem ending_parse_symbolThat_of_cons {symbol : Value} {rest : List Value}
    (left : cursor.remaining.symbols = symbol :: rest) (accepted : accepts symbol = .ok true) :
    (grammar.parse (.symbolThat accepts) cursor).ending = .ok ⟨symbol, cursor.forward 1⟩ := by
  change (readSymbol accepts cursor).ending = _
  simp only [readSymbol_eq, cursor.symbol?_eq_head?, left, List.head?_cons, accepted]
  rfl

theorem ending_parse_symbolThat_of_refused
    (refused : ∀ symbol ∈ cursor.remaining.symbols.head?, accepts symbol = .ok false) :
    (grammar.parse (.symbolThat accepts) cursor).ending =
      .error (cursor.refusal .predicateFailed) := by
  change (readSymbol accepts cursor).ending = _
  rw [readSymbol_eq, cursor.symbol?_eq_head?]
  rcases next : cursor.remaining.symbols.head? with _ | symbol
  · rfl
  · simp only [refused symbol next]
    rfl

/-- One match for each symbol of a run that is accepted. -/
theorem chain_symbolThat {run rest : List Value} (left : cursor.remaining.symbols = run ++ rest)
    (accepted : ∀ symbol ∈ run, accepts symbol = .ok true) :
    Chain (grammar.parse (.symbolThat accepts)) Reply.LeadsOn cursor run
      (cursor.forward run.length) := by
  induction run generalizing cursor with
  | nil => exact .start cursor
  | cons symbol run induction =>
      rcases List.forall_mem_cons.mp accepted with ⟨first, others⟩
      have behind : (cursor.forward 1).remaining.symbols = run ++ rest := by
        rw [Cursor.symbols_remaining_forward, left, List.cons_append, List.drop_one, List.tail_cons]
      have onward := induction behind others
      rw [Cursor.forward_forward, Nat.add_comm] at onward
      exact .next (grammar.ending_parse_symbolThat_of_cons left first) (Nat.lt_succ_self _) onward

end Symbols

/-! ## Recognisers again and again -/

/-- Repeated as often as it matches, a recogniser takes the longest run of accepted symbols and leaves what
comes after it, if that can be shown. -/
def TakesLongestRun (grammar : Grammar) (recogniser : Parser) (accepts : Value → Bool)
    (cursor : Cursor) : Prop :=
  ∃ run, IsLongestRun accepts run cursor.remaining.symbols ∧
    cursor.remaining.symbols = run ++ (cursor.forward run.length).remaining.symbols ∧
    (grammar.parse (.zeroOrMore recogniser) cursor).ending =
      if (cursor.forward run.length).isShowable then .ok ⟨.list run, cursor.forward run.length⟩
      else .error (.fault .integerTooLong)

/-- In a source that can be written, what is left can be shown. -/
theorem TakesLongestRun.ending_of_isWritable {grammar : Grammar} {recogniser : Parser}
    {accepts : Value → Bool} {cursor : Cursor} (takes : grammar.TakesLongestRun recogniser accepts cursor)
    (writable : cursor.source.isWritable = true) :
    ∃ run, IsLongestRun accepts run cursor.remaining.symbols ∧
      cursor.remaining.symbols = run ++ (cursor.forward run.length).remaining.symbols ∧
      (grammar.parse (.zeroOrMore recogniser) cursor).ending =
        .ok ⟨.list run, cursor.forward run.length⟩ := by
  rcases takes with ⟨run, isLongest, split, ending⟩
  have showable : (cursor.forward run.length).isShowable = true :=
    Cursor.isShowable_of_isWritable writable
  rw [if_pos showable] at ending
  exact ⟨run, isLongest, split, ending⟩

section Recognisers

variable (grammar : Grammar) {cursor : Cursor}

theorem takesLongestRun_symbolThat {accepts : Value → Outcome Bool} {test : Value → Bool}
    (decides : ∀ symbol ∈ cursor.remaining.symbols, accepts symbol = .ok (test symbol)) :
    grammar.TakesLongestRun (.symbolThat accepts) test cursor := by
  have isLongest := isLongest_runsOf_takeWhile test cursor.remaining.symbols
  rcases isLongest.inFront with ⟨rest, split⟩
  generalize cursor.remaining.symbols.takeWhile test = run at isLongest split
  have behind : (cursor.forward run.length).remaining.symbols = rest := by
    rw [Cursor.symbols_remaining_forward, ← split, List.drop_left]
  have accepted : ∀ symbol ∈ run, accepts symbol = .ok true := by
    intro symbol member
    rw [decides symbol (isLongest.inFront.mem member), isLongest.member symbol member]
  have refused : ∀ symbol ∈ rest.head?, accepts symbol = .ok false := by
    intro symbol next
    rw [← split] at isLongest
    have member : symbol ∈ cursor.remaining.symbols :=
      split ▸ List.mem_append_right run (List.mem_of_head? next)
    rw [decides symbol member, Bool.eq_false_iff.mpr ((isLongest_runsOf_iff.mp isLongest).2 symbol next)]
  have failed := grammar.ending_parse_symbolThat_of_refused (behind ▸ refused)
  have chain := grammar.chain_symbolThat split.symm accepted
  refine ⟨run, isLongest, by rw [behind, split], ?_⟩
  by_cases showable : (cursor.forward run.length).isShowable = true
  · rw [if_pos showable]
    rw [Cursor.refusal_of_isShowable showable rfl] at failed
    exact zeroOrMore_eq_ok_iff.mpr (chain.collectAll_of_mismatch (grammar.advances_parse _) failed)
  · rw [if_neg showable]
    rw [Cursor.refusal_eq, Bool.eq_false_iff.mpr showable] at failed
    exact zeroOrMore_eq_error_iff.mpr (chain.collectAll_of_fault (grammar.advances_parse _) failed)

/-- A set that can be made decides each symbol that can be looked up in it. -/
theorem takesLongestRun_oneOf (members : List Value)
    (hashable : ∀ symbol ∈ cursor.remaining.symbols, symbol.isHashable = true) :
    grammar.TakesLongestRun (.oneOf members) (·.isMember members) cursor := by
  apply grammar.takesLongestRun_symbolThat
  intro symbol member
  rw [Parser.isOneOf, if_pos (hashable symbol member)]

theorem takesLongestRun_noneOf (members : List Value)
    (hashable : ∀ symbol ∈ cursor.remaining.symbols, symbol.isHashable = true) :
    grammar.TakesLongestRun (.noneOf members) (!·.isMember members) cursor := by
  apply grammar.takesLongestRun_symbolThat
  intro symbol member
  rw [Parser.isOneOf, if_pos (hashable symbol member)]
  rfl

end Recognisers

/-! ## Lexemes -/

section Lexemes

variable (grammar : Grammar) {cursor : Cursor} {characters left run rest : List Char}

/-- The blanks in front are taken, as many as there are. -/
theorem ending_parse_blanks (here : cursor.HasLeft (run ++ rest))
    (isLongest : IsLongestRun (· ∈ Parser.blanks) run (run ++ rest)) :
    (grammar.parse (.zeroOrMore .whitespace) cursor).ending =
      .ok ⟨.list (run.map .ofChar), cursor.forward run.length⟩ := by
  have reads := (Reads.oneCharOf grammar Parser.blanks).zeroOrMore (Form.consumes_oneThat _)
  rcases isLongest_runsOf_iff.mp isLongest with ⟨accepted, halts⟩
  have formed := Form.many_oneThat_iff.mpr
    ⟨rfl, accepted, fun character next => Bool.eq_false_iff.mpr (halts character next)⟩
  exact reads.ending_eq_ok here rfl formed

theorem ending_parse_word_of_inFront (here : cursor.HasLeft left)
    (inside : cursor.position ≤ cursor.source.size) (inFront : characters <+: left) :
    (grammar.parse (.word characters) cursor).ending =
      .ok ⟨.text characters, cursor.forward characters.length⟩ := by
  rw [ending_parse_word, if_pos ((here.startsWith_iff_of_le inside).mpr inFront)]

theorem ending_parse_word_of_not_inFront (here : cursor.HasLeft left)
    (inside : cursor.position ≤ cursor.source.size) (without : ¬characters <+: left) :
    (grammar.parse (.word characters) cursor).ending =
      .error (.mismatch (.expectedPrefix (.text characters) cursor.snippet)) := by
  rw [ending_parse_word, if_neg fun holds => without ((here.startsWith_iff_of_le inside).mp holds),
    here.refusal_eq rfl]

theorem ending_parse_lexeme_of_inFront (here : cursor.HasLeft (characters ++ (run ++ rest)))
    (inside : cursor.position ≤ cursor.source.size)
    (isLongest : IsLongestRun (· ∈ Parser.blanks) run (run ++ rest)) :
    (grammar.parse (.lexeme (.text characters)) cursor).ending =
      .ok ⟨.text characters, cursor.forward (characters.length + run.length)⟩ := by
  have first := grammar.ending_parse_word_of_inFront here inside (List.prefix_append _ _)
  have second := grammar.ending_parse_blanks here.behind isLongest
  change (grammar.parse ((Parser.word characters).keepLeft (.zeroOrMore .whitespace)) cursor).ending = _
  rw [Parser.keepLeft, ending_parse_flatMap, Run.andThen_of_ok _ first]
  simp only [Parser.map]
  rw [ending_parse_flatMap, Run.andThen_of_ok _ second, Cursor.forward_forward]
  rfl

theorem ending_parse_lexeme_of_not_inFront (here : cursor.HasLeft left)
    (inside : cursor.position ≤ cursor.source.size) (without : ¬characters <+: left) :
    (grammar.parse (.lexeme (.text characters)) cursor).ending =
      .error (.mismatch (.expectedPrefix (.text characters) cursor.snippet)) := by
  have failed := grammar.ending_parse_word_of_not_inFront here inside without
  change (grammar.parse ((Parser.word characters).keepLeft (.zeroOrMore .whitespace)) cursor).ending = _
  rw [Parser.keepLeft, ending_parse_flatMap, Run.andThen_of_error _ failed]

end Lexemes

/-- A recogniser of symbols that is repeated takes the longest run that its predicate accepts, as long as that
answers on the symbols that are left and those behind the run can be shown; with sets of symbols, it is the
longest run in the set or outside of it. A lexeme is read where its literal is in front, and fails as the
literal does elsewhere; it takes the longest run of blanks behind the literal too, so what it leaves begins
with none. -/
theorem recognisers_take_longest_runs (grammar : Grammar) (cursor : Cursor) :
    (∀ accepts test,
        (∀ symbol ∈ cursor.remaining.symbols, accepts symbol = .ok (test symbol)) →
          grammar.TakesLongestRun (.symbolThat accepts) test cursor) ∧
      (∀ symbols members, Value.symbols? symbols = some members →
        (∀ member ∈ members, member.isHashable = true) →
        (∀ symbol ∈ cursor.remaining.symbols, symbol.isHashable = true) →
          Parser.oneOf? symbols = .ok (.oneOf members) ∧
            grammar.TakesLongestRun (.oneOf members) (·.isMember members) cursor ∧
            Parser.noneOf? symbols = .ok (.noneOf members) ∧
            grammar.TakesLongestRun (.noneOf members) (!·.isMember members) cursor) ∧
      ∀ characters left, cursor.HasLeft left → cursor.position ≤ cursor.source.size →
        ((∃ reply, (grammar.parse (.lexeme (.text characters)) cursor).ending = .ok reply) ↔
            characters <+: left) ∧
          (∀ reply, (grammar.parse (.lexeme (.text characters)) cursor).ending = .ok reply →
            ∃ run rest, left = characters ++ (run ++ rest) ∧
              IsLongestRun (· ∈ [' ', '\t', '\n', '\r']) run (run ++ rest) ∧
              reply = ⟨.text characters, cursor.forward (characters.length + run.length)⟩ ∧
              reply.cursor.HasLeft rest ∧
              ∀ character ∈ rest.head?, character ∉ [' ', '\t', '\n', '\r']) ∧
          (¬characters <+: left →
            (∃ cause, (grammar.parse (.lexeme (.text characters)) cursor).ending =
              .error (.mismatch cause)) ∧
            (grammar.parse (.lexeme (.text characters)) cursor).ending =
              (grammar.parse (.literal (.text characters)) cursor).ending) := by
  refine ⟨fun accepts test => grammar.takesLongestRun_symbolThat, ?sets, ?lexemes⟩
  case sets =>
    intro symbols members isSequence membersHashable hashable
    have isSet := Parser.members?_eq_ok isSequence membersHashable
    refine ⟨?_, grammar.takesLongestRun_oneOf members hashable, ?_,
      grammar.takesLongestRun_noneOf members hashable⟩
    · rw [Parser.oneOf?, isSet]
      rfl
    · rw [Parser.noneOf?, isSet]
      rfl
  case lexemes =>
    intro characters left here inside
    by_cases inFront : characters <+: left
    · rcases inFront with ⟨behind, rfl⟩
      have isLongest := isLongest_runsOf_takeWhile (· ∈ Parser.blanks) behind
      rcases isLongest.inFront with ⟨rest, split⟩
      generalize behind.takeWhile (· ∈ Parser.blanks) = run at isLongest split
      subst split
      have matched := grammar.ending_parse_lexeme_of_inFront here inside isLongest
      have there : (cursor.forward (characters.length + run.length)).HasLeft rest := by
        rw [← Cursor.forward_forward]
        exact here.behind.behind
      refine ⟨iff_of_true ⟨_, matched⟩ (List.prefix_append _ _), ?_, ?_⟩
      · intro reply ended
        cases matched.symm.trans ended
        refine ⟨run, rest, rfl, isLongest, rfl, there, ?_⟩
        intro character next
        exact fun blank => (isLongest_runsOf_iff.mp isLongest).2 character next (decide_eq_true blank)
      · intro without
        exact absurd (List.prefix_append _ _) without
    · have failed := grammar.ending_parse_lexeme_of_not_inFront here inside inFront
      refine ⟨iff_of_false ?_ inFront, ?_, fun _ => ⟨⟨_, failed⟩, ?_⟩⟩
      · intro matched
        rcases matched with ⟨reply, matched⟩
        cases matched.symm.trans failed
      · intro reply matched
        cases matched.symm.trans failed
      · exact failed.trans (grammar.ending_parse_word_of_not_inFront here inside inFront).symm

private def assignment : Cursor := .start (.text "let \t\nx".toList.toArray)

/-- All the blanks behind a word are taken with it, and no letter of the next word. -/
theorem recognisers_take_longest_runs_let :
    (∃ run, IsLongestRun (!·.isMember (Parser.blanks.map .ofChar)) run assignment.remaining.symbols ∧
        assignment.remaining.symbols = run ++ (assignment.forward run.length).remaining.symbols ∧
        (empty.parse (.zeroOrMore (.noneOf (Parser.blanks.map .ofChar))) assignment).ending =
          .ok ⟨.list run, assignment.forward run.length⟩) ∧
      ∃ reply rest, (empty.parse (.lexeme (.text ['l', 'e', 't'])) assignment).ending = .ok reply ∧
        reply.cursor.HasLeft rest ∧ ∀ character ∈ rest.head?, character ∉ [' ', '\t', '\n', '\r'] := by
  have longest := empty.recognisers_take_longest_runs assignment
  have areCharacters : ∀ characters : List Char,
      ∀ symbol ∈ characters.map Value.ofChar, symbol.isHashable = true := by
    intro characters symbol member
    rcases List.mem_map.mp member with ⟨character, _, rfl⟩
    rfl
  constructor
  · exact (longest.2.1 (.text Parser.blanks) _ rfl (areCharacters _)
      (areCharacters "let \t\nx".toList)).2.2.2.ending_of_isWritable (Source.isWritable_text _)
  · have lexemes := longest.2.2 ['l', 'e', 't'] _ (Cursor.hasLeft_text _ 0) (Nat.zero_le _)
    rcases lexemes.1.mpr (List.prefix_append _ _) with ⟨reply, matched⟩
    rcases lexemes.2.1 reply matched with ⟨_, rest, _, _, _, there, noBlank⟩
    exact ⟨reply, rest, matched, there, noBlank⟩

/-- A digit as a number. -/
private def isFigure : Value → Bool
  | .int number => decide (0 ≤ number ∧ number ≤ 9)
  | _ => false

/-- A figure and then a number of 4301 digits. -/
private def figureBeforeLong : Source := .list #[.int 1, .int (10 ^ 4300)]

private theorem longNumber_not_isShowable :
    (⟨figureBeforeLong, 1⟩ : Cursor).isShowable = false := by decide +kernel

/-- The longest run is the figure, but the long number behind it cannot be shown. -/
theorem recognisers_take_longest_runs_unwritable :
    IsLongestRun isFigure [.int 1] figureBeforeLong.symbols ∧
      (empty.parse (.zeroOrMore (.symbolThat fun symbol => .ok (isFigure symbol)))
        ⟨figureBeforeLong, 0⟩).ending = .error (.fault .integerTooLong) := by
  have longIsNoFigure : isFigure (.int (10 ^ 4300)) = false := by decide +kernel
  have isLongest : IsLongestRun isFigure [.int 1] figureBeforeLong.symbols :=
    isLongest_runsOf_iff.mpr ⟨List.forall_mem_singleton.mpr rfl, fun item next => by
      cases next
      exact Bool.eq_false_iff.mp longIsNoFigure⟩
  have takes : empty.TakesLongestRun (.symbolThat fun symbol => .ok (isFigure symbol)) isFigure
      ⟨figureBeforeLong, 0⟩ := empty.takesLongestRun_symbolThat fun _ _ => rfl
  rcases takes with ⟨run, runIsLongest, _, ending⟩
  cases runIsLongest.unique isLongest
  rw [ending]
  exact ⟨isLongest, if_neg (Bool.eq_false_iff.mp longNumber_not_isShowable)⟩

end Grammar

end CursorParsing
