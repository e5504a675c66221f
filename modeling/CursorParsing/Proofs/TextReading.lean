import CursorParsing.Proofs.Taking

/-!
# Reading texts

A parser reads a form if on every text it matches where the form is found and nowhere else. Each
combinator makes of the forms of its parts the form of the whole.
-/

namespace CursorParsing

/-! ## Characters and texts -/

theorem Parser.isOneOf_characters (characters : List Char) (character : Char) :
    isOneOf (characters.map .ofChar) (.ofChar character) = .ok (decide (character ∈ characters)) := by
  have hashable : (Value.ofChar character).isHashable = true := rfl
  have equal (other : Char) :
      (Value.ofChar character).equal (.ofChar other) = (character == other) := by
    simp [Value.ofChar, Value.equal]
  have found : (Value.ofChar character).isMember (characters.map .ofChar) =
      decide (character ∈ characters) := by
    simp [Value.isMember, equal, List.any_eq]
  rw [isOneOf, if_pos hashable, found]

theorem Value.joinTexts_characters (characters : List Char) :
    joinTexts (characters.map ofChar) = .ok characters := by
  have texts : (characters.map ofChar).mapM text? = some (characters.map ([·])) := by
    induction characters with
    | nil => rfl
    | cons character characters induction =>
        rw [List.map_cons, List.mapM_cons, induction]
        rfl
  rw [joinTexts, texts, Option.map_some, ← List.flatMap_def, List.flatMap_singleton']
  rfl

theorem Value.joinSymbols_characters (characters : List Char) :
    (list (characters.map ofChar)).joinSymbols = .ok characters := joinTexts_characters characters

/-! ## Reading a form -/

/-- On any text a parser gives the meaning of what is in front and leaves what comes after it; it does
not match where the form is not found, and it has no other error. -/
structure Reads {Meaning : Type} (grammar : Grammar) (parser : Parser) (asValue : Meaning → Value)
    (form : Form Meaning) : Prop where
  sound {cursor : Cursor} {left : List Char} {reply : Reply} (here : cursor.HasLeft left)
    (matched : (grammar.parse parser cursor).ending = .ok reply) :
    ∃ meaning rest, form left meaning rest ∧ reply.value = asValue meaning ∧
      reply.cursor.HasLeft rest
  complete {cursor : Cursor} {left rest : List Char} {meaning : Meaning} (here : cursor.HasLeft left)
    (formed : form left meaning rest) :
    ∃ stop, (grammar.parse parser cursor).ending = .ok ⟨asValue meaning, stop⟩ ∧ stop.HasLeft rest
  faultless {cursor : Cursor} {left : List Char} (here : cursor.HasLeft left) (fault : Fault) :
    (grammar.parse parser cursor).ending ≠ .error (.fault fault)

namespace Reads

variable {grammar : Grammar} {parser : Parser} {Meaning Result Other : Type}
  {asValue : Meaning → Value} {asResult : Result → Value} {asOther : Other → Value}
  {form other : Form Meaning}

theorem congr (reads : Reads grammar parser asValue form)
    (same : ∀ left meaning rest, form left meaning rest ↔ other left meaning rest) :
    Reads grammar parser asValue other := by
  have equal : form = other := by
    funext left meaning rest
    exact propext (same left meaning rest)
  exact equal ▸ reads

theorem takes (reads : Reads grammar parser asValue form) {left rest : List Char} {meaning : Meaning}
    (formed : form left meaning rest) : grammar.Takes parser left (asValue meaning) rest :=
  fun _ here => reads.complete here formed

theorem refuses (reads : Reads grammar parser asValue form) {left : List Char}
    (without : ∀ meaning rest, ¬form left meaning rest) : grammar.Refuses parser left := by
  intro cursor here
  rcases ended : (grammar.parse parser cursor).ending with (cause | fault) | reply
  · exact ⟨cause, rfl⟩
  · cases reads.faultless here fault ended
  · rcases reads.sound here ended with ⟨meaning, rest, formed, _⟩
    cases without meaning rest formed

/-- A form that is found is read up to its end. -/
theorem ending_eq_ok (reads : Reads grammar parser asValue form) {cursor : Cursor}
    {left text rest : List Char} {meaning : Meaning} (here : cursor.HasLeft left)
    (split : left = text ++ rest) (formed : form left meaning rest) :
    (grammar.parse parser cursor).ending = .ok ⟨asValue meaning, cursor.forward text.length⟩ := by
  rcases reads.complete here formed with ⟨stop, matched, there⟩
  have stops : stop = cursor.forward text.length :=
    here.eq_forward split (grammar.advances_parse parser cursor _ matched) there
  rw [matched, stops]

/-! ### Recognisers -/

theorem symbolThat (grammar : Grammar) {accepts : Value → Outcome Bool} {test : Char → Bool}
    (decides : ∀ character, accepts (.ofChar character) = .ok (test character)) :
    Reads grammar (.symbolThat accepts) .ofChar (.oneThat test) where
  sound := by
    intro cursor left reply here matched
    rcases readSymbol_eq_ok matched with ⟨symbol, found, accepted, rfl⟩
    rw [here.symbol?_eq] at found
    cases left with
    | nil => cases found
    | cons character rest =>
        cases found
        rw [decides] at accepted
        exact ⟨character, rest, ⟨rfl, Except.ok.inj accepted⟩, rfl, here.forward 1⟩
  complete := by
    rintro cursor _ rest character here ⟨rfl, accepted⟩
    refine ⟨cursor.forward 1, ?_, here.forward 1⟩
    change (readSymbol accepts cursor).ending = _
    simp only [readSymbol_eq, here.symbol?_eq, List.head?_cons, Option.map_some, decides, accepted]
    rfl
  faultless := by
    intro cursor left here fault
    change (readSymbol accepts cursor).ending ≠ _
    have told : cursor.refusal .predicateFailed = .mismatch (.predicateFailed cursor.snippet) :=
      here.refusal_eq rfl
    rw [readSymbol_eq, here.symbol?_eq]
    cases left with
    | nil => simp [refuseSymbol, told]
    | cons character rest =>
        simp only [List.head?_cons, Option.map_some, decides]
        cases test character <;> simp [refuseSymbol, told]

theorem word (grammar : Grammar) {characters : List Char} (notEmpty : characters ≠ []) :
    Reads grammar (.word characters) (fun _ => .text characters) (.literal characters) where
  sound := by
    intro cursor left reply here matched
    rw [Grammar.ending_parse_word] at matched
    split at matched <;> cases matched
    rename_i holds
    rcases (here.startsWith_iff notEmpty).mp holds with ⟨rest, rfl⟩
    refine ⟨(), rest, rfl, rfl, ?_⟩
    simpa using here.forward characters.length
  complete := by
    rintro cursor _ rest _ here rfl
    exact Grammar.takes_word notEmpty cursor here
  faultless := by
    intro cursor left here fault
    rw [Grammar.ending_parse_word, here.refusal_eq rfl]
    split <;> simp

theorem oneCharOf (grammar : Grammar) (characters : List Char) :
    Reads grammar (.oneCharOf characters) .ofChar (.oneThat fun character => character ∈ characters) :=
  symbolThat grammar fun character => Parser.isOneOf_characters characters character

/-- What is no symbol of the set, and the end, are refused at the cursor. -/
theorem ending_oneCharOf_eq_mismatch {characters : List Char} {cursor : Cursor} {left : List Char}
    (here : cursor.HasLeft left) (without : ∀ character ∈ left.head?, character ∉ characters) :
    (grammar.parse (.oneCharOf characters) cursor).ending =
      .error (.mismatch (.predicateFailed cursor.snippet)) := by
  change (readSymbol (Parser.isOneOf (characters.map .ofChar)) cursor).ending = _
  have told : (refuseSymbol cursor).ending = .error (.mismatch (.predicateFailed cursor.snippet)) := by
    rw [refuseSymbol, here.refusal_eq rfl]
    rfl
  rw [readSymbol_eq, here.symbol?_eq]
  cases left with
  | nil => exact told
  | cons character rest =>
      have refused := Parser.isOneOf_characters characters character
      rw [decide_eq_false (without character rfl)] at refused
      simp only [List.head?_cons, Option.map_some, refused]
      exact told

theorem noCharOf (grammar : Grammar) (characters : List Char) :
    Reads grammar (.noCharOf characters) .ofChar (.oneThat fun character => character ∉ characters) := by
  apply symbolThat grammar
  intro character
  simp only [Parser.isOneOf_characters, Except.map, decide_not]

/-! ### Sequencing -/

theorem pure (grammar : Grammar) (meaning : Meaning) :
    Reads grammar (.pure (asValue meaning)) asValue (.nothing meaning) where
  sound := by
    intro cursor left reply here matched
    cases matched
    exact ⟨meaning, left, ⟨rfl, rfl⟩, rfl, here⟩
  complete := by
    rintro cursor _ rest _ here ⟨rfl, rfl⟩
    exact ⟨cursor, rfl, here⟩
  faultless := by
    intro cursor left here fault faulted
    cases faulted

theorem flatMap {next : Value → Parser} {nextForm : Meaning → Form Result}
    (first : Reads grammar parser asValue form)
    (following : ∀ meaning, Reads grammar (next (asValue meaning)) asResult (nextForm meaning)) :
    Reads grammar (.flatMap parser next) asResult (form.andThen nextForm) where
  sound := by
    intro cursor left reply here matched
    rw [Grammar.ending_parse_flatMap] at matched
    rcases Run.andThen_eq_ok matched with ⟨between, firstMatched, nextMatched⟩
    rcases first.sound here firstMatched with ⟨meaning, middle, formed, same, there⟩
    rw [same] at nextMatched
    rcases (following meaning).sound there nextMatched with ⟨result, rest, more, gives, stops⟩
    exact ⟨result, rest, ⟨meaning, middle, formed, more⟩, gives, stops⟩
  complete := by
    rintro cursor left rest result here ⟨meaning, middle, formed, more⟩
    exact (first.takes formed).flatMap ((following meaning).takes more) cursor here
  faultless := by
    intro cursor left here fault faulted
    rw [Grammar.ending_parse_flatMap] at faulted
    rcases Run.andThen_eq_error faulted with atFirst | ⟨between, firstMatched, atNext⟩
    · exact first.faultless here fault atFirst
    · rcases first.sound here firstMatched with ⟨meaning, middle, _, same, there⟩
      rw [same] at atNext
      exact (following meaning).faultless there fault atNext

theorem map {transform : Value → Outcome Value} {change : Meaning → Result}
    (reads : Reads grammar parser asValue form)
    (changes : ∀ meaning, transform (asValue meaning) = .ok (asResult (change meaning))) :
    Reads grammar (parser.map transform) asResult (form.map change) := by
  apply reads.flatMap
  intro meaning
  rw [changes]
  exact pure grammar (change meaning)

theorem lift2 {combine : Value → Value → Outcome Value} {merge : Meaning → Result → Other}
    {second : Parser} {secondForm : Form Result} (first : Reads grammar parser asValue form)
    (following : Reads grammar second asResult secondForm)
    (combines : ∀ meaning result,
      combine (asValue meaning) (asResult result) = .ok (asOther (merge meaning result))) :
    Reads grammar (.lift2 combine parser second) asOther (.lift2 merge form secondForm) :=
  first.flatMap fun meaning => following.map (combines meaning)

theorem keepLeft {second : Parser} {secondForm : Form Result}
    (first : Reads grammar parser asValue form) (following : Reads grammar second asResult secondForm) :
    Reads grammar (parser.keepLeft second) asValue (form.keepLeft secondForm) :=
  first.lift2 following fun _ _ => rfl

/-! ### Repetition -/

section Repetition

variable {Goes : Reply → Cursor → Prop} {cursor stop : Cursor} {left rest : List Char}
  {values : List Value} {meanings : List Meaning}

theorem runs_of_chain (reads : Reads grammar parser asValue form) (here : cursor.HasLeft left)
    (chain : Chain (grammar.parse parser) Goes cursor values stop) :
    ∃ meanings rest, form.Runs left meanings rest ∧ values = meanings.map asValue ∧
      stop.HasLeft rest := by
  induction chain generalizing left with
  | start cursor => exact ⟨[], left, .none left, rfl, here⟩
  | next matched _ _ induction =>
      rcases reads.sound here matched with ⟨meaning, middle, formed, same, there⟩
      rcases induction there with ⟨meanings, rest, more, others, stops⟩
      exact ⟨meaning :: meanings, rest, .next formed more, by rw [same, others, List.map_cons], stops⟩

theorem faultless_of_chain (reads : Reads grammar parser asValue form) (here : cursor.HasLeft left)
    (chain : Chain (grammar.parse parser) Goes cursor values stop) (fault : Fault) :
    (grammar.parse parser stop).ending ≠ .error (.fault fault) := by
  rcases reads.runs_of_chain here chain with ⟨_, _, _, _, there⟩
  exact reads.faultless there fault

variable (reads : Reads grammar parser asValue form) (consumes : form.Consumes)

include reads consumes

theorem takesRuns (runs : form.Runs left meanings rest) :
    grammar.TakesRuns parser left (meanings.map asValue) rest := by
  induction runs with
  | none left => exact .none left
  | next first more induction =>
      exact .next ⟨reads.takes first, consumes _ _ _ first⟩ induction

theorem zeroOrMore : Reads grammar (.zeroOrMore parser)
    (fun meanings : List Meaning => .list (meanings.map asValue)) form.many where
  sound := by
    intro cursor left reply here matched
    have advances := grammar.advances_parse parser
    rcases grammar.zeroOrMore_eq_ok parser cursor matched with ⟨⟨values, stop⟩, collected, rfl⟩
    rcases (collectAll_eq_ok_iff advances).mp collected with
      ⟨chain, cause, failed⟩ | ⟨before, last, place, _, chain, again, still⟩
    · rcases reads.runs_of_chain here chain with ⟨meanings, rest, runs, rfl, there⟩
      refine ⟨meanings, rest, ⟨runs, ?_⟩, rfl, there⟩
      intro meaning after formed
      rcases reads.complete there formed with ⟨_, matchedAgain, _⟩
      cases failed.symm.trans matchedAgain
    · rcases reads.runs_of_chain here chain with ⟨_, _, _, _, there⟩
      rcases reads.sound there again with ⟨_, _, formed, _, stops⟩
      have leadsOn := there.leadsOn_of_length_lt (advances _ _ again) stops (consumes _ _ _ formed)
      cases Nat.ne_of_gt leadsOn still
  complete := by
    rintro cursor left rest meanings here ⟨runs, halts⟩
    exact (reads.takesRuns consumes runs).zeroOrMore (reads.refuses halts) cursor here
  faultless := by
    intro cursor left here fault faulted
    have advances := grammar.advances_parse parser
    rcases (collectAll_eq_fault_iff advances).mp (Grammar.zeroOrMore_eq_error_iff.mp faulted) with
      ⟨_, _, chain, failed⟩
    exact reads.faultless_of_chain here chain fault failed

theorem oneOrMore : Reads grammar (.oneOrMore parser)
    (fun meanings : List Meaning => .list (meanings.map asValue)) form.atLeastOnce where
  sound := by
    intro cursor left reply here matched
    rcases Grammar.oneOrMore_eq_ok matched with ⟨first, values, stop, rfl⟩
    have collected := (Grammar.oneOrMore_eq_ok_iff (List.cons_ne_nil _ _)).mp matched
    rcases (reads.zeroOrMore consumes).sound here collected with ⟨meanings, rest, formed, same, there⟩
    refine ⟨meanings, rest, ⟨formed, ?_⟩, same, there⟩
    rintro rfl
    cases same
  complete := by
    rintro cursor left rest meanings here ⟨formed, notEmpty⟩
    rcases (reads.zeroOrMore consumes).complete here formed with ⟨stop, collected, there⟩
    have some : meanings.map asValue ≠ [] := by simpa using notEmpty
    exact ⟨stop, (Grammar.oneOrMore_eq_ok_iff some).mpr collected, there⟩
  faultless := by
    intro cursor left here fault faulted
    apply (reads.zeroOrMore consumes).faultless here fault
    rw [Grammar.parse_zeroOrMore, Run.orElse_of_fault _ faulted]
    exact faulted

/-- If the repetition comes out short, that must be told, with the count and the values. -/
theorem repeated (count : Nat) (countWritable : (Value.int count).isWritable = true)
    (writable : ∀ meaning, (asValue meaning).isWritable = true) :
    Reads grammar (.repeated parser (.ofNat count))
      (fun meanings : List Meaning => .list (meanings.map asValue)) (form.times count) where
  sound := by
    intro cursor left reply here matched
    rcases Grammar.repeated_eq_ok matched with ⟨values, stop, chain, enough, rfl⟩
    rcases reads.runs_of_chain here chain with ⟨meanings, rest, runs, rfl, there⟩
    rw [List.length_map] at enough
    exact ⟨meanings, rest, ⟨runs, enough⟩, rfl, there⟩
  complete := by
    rintro cursor left rest meanings here ⟨runs, enough⟩
    rcases (reads.takesRuns consumes runs).chain here with ⟨stop, chain, there⟩
    rw [← List.length_map asValue] at enough
    exact ⟨stop, Grammar.repeated_of_length chain enough, there⟩
  faultless := by
    intro cursor left here fault faulted
    rcases Grammar.repeated_eq_fault faulted with ⟨values, stop, chain, failed | ⟨_, unreportable⟩⟩
    · exact reads.faultless_of_chain here chain fault failed
    · rcases reads.runs_of_chain here chain with ⟨meanings, _, _, rfl, there⟩
      have reportable : isReportable count (meanings.map asValue) stop = true := by
        simp [isReportable, countWritable, writable, there.isShowable]
      cases reportable.symm.trans unreportable

end Repetition

/-! ### Results -/

theorem run_eq_ok_iff (reads : Reads grammar parser asValue form) {cursor : Cursor}
    {left : List Char} (here : cursor.HasLeft left) {result : Grammar.Result} :
    (grammar.run parser cursor).1 = .ok result ↔
      ∃ meaning rest, form left meaning rest ∧ result = ⟨asValue meaning, .text rest⟩ := by
  constructor
  · intro ended
    rcases Grammar.run_eq_ok_iff.mp ended with ⟨reply, matched, rfl⟩
    rcases reads.sound here matched with ⟨meaning, rest, formed, gives, stops⟩
    exact ⟨meaning, rest, formed, by rw [gives, stops]⟩
  · rintro ⟨meaning, rest, formed, rfl⟩
    exact (reads.takes formed).run here

end Reads

end CursorParsing
