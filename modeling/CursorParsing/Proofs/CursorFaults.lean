import CursorParsing.Locale.DecimalNumber
import CursorParsing.Proofs.Faults
import CursorParsing.Proofs.Tracing

/-!
# The faults of cursors

A cursor has no symbol past the end of its source, is not advanced by a negative count and stands at no
negative position. Whoever asks it for such a thing gets a fault; running parsers never asks.
-/

namespace CursorParsing

/-! ## Telling the faults of cursors -/

/-- The faults that the operations of a cursor raise: there is no current symbol, the count to advance
by is negative, or the position is. -/
def Fault.IsOfCursor : Fault → Prop
  | .pastTheEnd _ | .negativeAdvance _ | .negativePosition _ => True
  | _ => False

/-- By its kind and its message the error cannot be told from one of a cursor, whoever raised it. -/
def Error.SeemsOfCursor : Error → Prop
  | .fault cause => ∃ own : Fault, own.IsOfCursor ∧ cause.kind = own.kind ∧ cause.message = own.message
  | .mismatch _ => False

/-- A fault of a cursor is an end of input, or else a bad value whose message opens in one of two ways. -/
theorem Fault.IsOfCursor.kind_and_opening {fault : Fault} (ofCursor : fault.IsOfCursor) :
    fault.kind = .endOfInput ∨
      fault.kind = .badValue ∧
        (fault.message.toList.head? = some 'A' ∨ fault.message.toList.head? = some 'C') := by
  cases fault with
  | pastTheEnd position => exact .inl rfl
  | negativeAdvance count =>
      unfold message
      exact .inr ⟨rfl, .inl (by simp)⟩
  | negativePosition position =>
      unfold message
      exact .inr ⟨rfl, .inr (by simp)⟩
  | _ => exact absurd ofCursor id

theorem Fault.head?_digitLimitExceeded : digitLimitExceeded.toList.head? = some 'E' := by
  unfold digitLimitExceeded
  generalize toString Value.integerDigitLimit = limit
  simp

namespace Error

/-- What is neither an end of input nor a bad value is no fault of a cursor. -/
theorem not_seemsOfCursor_of_kind {cause : Fault} (notEnd : cause.kind ≠ .endOfInput)
    (notValue : cause.kind ≠ .badValue) : ¬(Error.fault cause).SeemsOfCursor := by
  rintro ⟨own, ofCursor, sameKind, _⟩
  rcases ofCursor.kind_and_opening with ownKind | ⟨ownKind, _⟩
  · exact notEnd (sameKind.trans ownKind)
  · exact notValue (sameKind.trans ownKind)

/-- The messages keep the other causes of bad values apart from those of cursors. -/
theorem SeemsOfCursor.isOfCursor {cause : Fault} (seems : (Error.fault cause).SeemsOfCursor)
    (notStated : ∀ kind message, cause ≠ .stated kind message) : cause.IsOfCursor := by
  rcases seems with ⟨own, ofCursor, sameKind, sameMessage⟩
  have opening := ofCursor.kind_and_opening
  rw [← sameKind, ← sameMessage] at opening
  cases cause with
  | pastTheEnd | negativeAdvance | negativePosition => trivial
  | stated kind message => exact absurd rfl (notStated kind message)
  | tooManyDigits | integerTooLong =>
      unfold Fault.kind Fault.message at opening
      simp [Fault.head?_digitLimitExceeded, Fault.digitLimitAdvice] at opening
  | _ =>
      unfold Fault.kind Fault.message at opening
      simp at opening

/-- It is told by its kind alone, as a type mismatch and an overflow are. -/
def IsWordless : Error → Prop
  | .fault cause => cause.kind.isWordless = true
  | .mismatch _ => False

theorem IsWordless.not_seemsOfCursor {error : Error} (wordless : error.IsWordless) :
    ¬error.SeemsOfCursor := by
  cases error with
  | mismatch cause => exact id
  | fault cause =>
      have sort : cause.kind.isWordless = true := wordless
      apply not_seemsOfCursor_of_kind
      · intro ended
        simp [ended, FaultKind.isWordless] at sort
      · intro bad
        simp [bad, FaultKind.isWordless] at sort

theorem IsOfReading.not_seemsOfCursor {error : Error} (ofReading : error.IsOfReading) :
    ¬error.SeemsOfCursor := by
  cases error with
  | mismatch cause => exact id
  | fault cause =>
      cases cause with
      | typeMismatch | endlessRecursion | unknownName name =>
          exact not_seemsOfCursor_of_kind (by simp [Fault.kind]) (by simp [Fault.kind])
      | integerTooLong => exact fun seems => seems.isOfCursor (by simp)
      | _ => exact absurd ofReading id

end Error

/-! ## What the functions of the library raise -/

theorem Count.ofValue?_eq_error {requested : Value} {fault : Fault}
    (failed : ofValue? requested = .error fault) :
    fault = .told (.negativeRepetition requested) ∨ fault = .typeMismatch := by
  unfold ofValue? ofDecimal? at failed
  split at failed
  · cases failed
    exact .inl rfl
  · cases failed
  · cases failed
  · split at failed
    · split at failed <;> cases failed
      exact .inl rfl
    · cases failed
      exact .inr rfl

theorem Fault.told_cases (fault : Fault) : fault.told = fault ∨ fault.told = .integerTooLong := by
  unfold told
  split
  · exact .inl rfl
  · exact .inr rfl

namespace Value

theorem orTypeMismatch_eq_error {α : Type} {answer : Option α} {error : Error}
    (failed : orTypeMismatch answer = .error error) : error.IsWordless := by
  cases answer with
  | none =>
      cases failed
      rfl
  | some answer => cases failed

theorem joinSymbols_eq_error {symbols : Value} {error : Error}
    (failed : symbols.joinSymbols = .error error) : error.IsWordless := by
  unfold joinSymbols at failed
  rcases found : orTypeMismatch symbols.symbols? with first | items <;> rw [found] at failed
  · cases failed
    exact orTypeMismatch_eq_error found
  · exact orTypeMismatch_eq_error failed

theorem decimalOutcome_eq_error {number : Option Decimal} {error : Error}
    (failed : decimalOutcome number = .error error) : error.IsWordless := by
  cases number with
  | none =>
      cases failed
      rfl
  | some number => cases failed

theorem binaryOutcome_eq_error {number : Option Binary64} {error : Error}
    (failed : binaryOutcome number = .error error) : error.IsWordless := by
  cases number with
  | none =>
      cases failed
      rfl
  | some number => cases failed

theorem addNumbers_eq_error {left right : Value} {error : Error}
    (failed : addNumbers left right = .error error) : error.IsWordless := by
  unfold addNumbers at failed
  split at failed
  · exact decimalOutcome_eq_error failed
  · cases failed
  all_goals split at failed
  all_goals first
    | exact decimalOutcome_eq_error failed
    | exact binaryOutcome_eq_error failed
    | cases failed; rfl
    | cases failed

theorem add_eq_error {left right : Value} {error : Error}
    (failed : left.add right = .error error) : error.IsWordless := by
  unfold add at failed
  split at failed
  all_goals first
    | exact addNumbers_eq_error failed
    | cases failed

end Value

namespace Parser

theorem isOneOf_eq_error {members : List Value} {symbol : Value} {error : Error}
    (failed : isOneOf members symbol = .error error) : error.IsWordless := by
  unfold isOneOf at failed
  split at failed
  · cases failed
  · cases failed
    rfl

theorem flattenLists_eq_error {value : Value} {error : Error}
    (failed : flattenLists value = .error error) : error.IsWordless := by
  unfold flattenLists at failed
  rcases found : Value.orTypeMismatch (value.items?.bind (·.mapM Value.items?)) with first | lists <;>
    rw [found] at failed
  · cases failed
    exact Value.orTypeMismatch_eq_error found
  · cases failed

theorem applySign_eq_error {negative : Bool} {number : Decimal} {error : Error}
    (failed : applySign negative number = .error error) : error.IsWordless := by
  unfold applySign at failed
  split at failed
  · exact Value.decimalOutcome_eq_error failed
  · cases failed

/-! ## What the parsers of the library supply -/

section Supplies

variable {Allowed : Error → Prop}

theorem suppliesOnly_ofOutcome {outcome : Outcome Value}
    (allowed : ∀ error, outcome = .error error → Allowed error) :
    (ofOutcome outcome).SuppliesOnly Allowed := by
  cases outcome with
  | ok value => trivial
  | error error => exact allowed error rfl

theorem suppliesOnly_map {transform : Value → Outcome Value} {inner : Parser}
    (innerSupplies : inner.SuppliesOnly Allowed)
    (allowed : ∀ value error, transform value = .error error → Allowed error) :
    (inner.map transform).SuppliesOnly Allowed :=
  ⟨innerSupplies, fun value => suppliesOnly_ofOutcome (allowed value)⟩

theorem suppliesOnly_lift2 {combine : Value → Value → Outcome Value} {first second : Parser}
    (firstSupplies : first.SuppliesOnly Allowed) (secondSupplies : second.SuppliesOnly Allowed)
    (allowed : ∀ left right error, combine left right = .error error → Allowed error) :
    (lift2 combine first second).SuppliesOnly Allowed :=
  ⟨firstSupplies, fun left => suppliesOnly_map secondSupplies (allowed left)⟩

end Supplies

/-- A repetition may be built while a run is on, by a function that was supplied; a count that is refused
then is no fault of a cursor. -/
theorem suppliesOnly_repeated? {inner : Parser} (innerSupplies : inner.SuppliesOnly (¬·.SeemsOfCursor))
    (times : Value) : (ofConstruction (inner.repeated? times)).SuppliesOnly (¬·.SeemsOfCursor) := by
  unfold repeated?
  rcases counted : Count.ofValue? times with fault | count
  · change ¬(Error.fault fault).SeemsOfCursor
    intro seems
    rcases Count.ofValue?_eq_error counted with rfl | rfl
    · rcases Fault.told_cases (.negativeRepetition times) with same | tooLong
      · rw [same] at seems
        exact seems.isOfCursor (by simp)
      · rw [tooLong] at seems
        exact seems.isOfCursor (by simp)
    · exact seems.isOfCursor (by simp)
  · exact innerSupplies

/-- The parsers that the library has ready. -/
inductive IsReady : Parser → Prop
  | fail (message : String) : IsReady (fail message)
  | oneOf (members : List Value) : IsReady (oneOf members)
  | noneOf (members : List Value) : IsReady (noneOf members)
  | anySymbol : IsReady anySymbol
  | atEnd : IsReady atEnd
  | whitespace : IsReady whitespace
  | lexeme (expected : Value) : IsReady (lexeme expected)
  | double : IsReady double
  | decimalNumber (locale : NumberLocale) (code : String) (strict : Bool) :
      IsReady (decimalNumber locale code strict)

theorem suppliesOnly_oneOf (members : List Value) :
    (oneOf members).SuppliesOnly (¬·.SeemsOfCursor) := by
  intro symbol error failed
  exact (isOneOf_eq_error failed).not_seemsOfCursor

theorem suppliesOnly_noneOf (members : List Value) :
    (noneOf members).SuppliesOnly (¬·.SeemsOfCursor) := by
  intro symbol error failed
  dsimp only at failed
  rcases judged : isOneOf members symbol with first | isMember <;> rw [judged] at failed
  · cases failed
    exact (isOneOf_eq_error judged).not_seemsOfCursor
  · cases failed

theorem suppliesOnly_interpretDouble (symbols : Value) :
    (interpretDouble symbols).SuppliesOnly (¬·.SeemsOfCursor) := by
  unfold interpretDouble interpretDouble?
  rcases joined : symbols.joinSymbols with error | text
  · exact (Value.joinSymbols_eq_error joined).not_seemsOfCursor
  · change (interpretText text).SuppliesOnly _
    unfold interpretText
    split
    · trivial
    · exact id

theorem suppliesOnly_numberBody (decimalSymbol groupSymbol : List Char) :
    (numberBody decimalSymbol groupSymbol).SuppliesOnly (¬·.SeemsOfCursor) := by
  unfold numberBody spacedBody
  split
  · refine suppliesOnly_lift2 (suppliesOnly_oneOf _) (suppliesOnly_map ?_ ?_) ?_
    · refine suppliesOnly_lift2 (suppliesOnly_oneOf _) (suppliesOnly_oneOf _) ?_
      intro left right error failed
      exact (Value.add_eq_error failed).not_seemsOfCursor
    · intro value error failed
      exact (flattenLists_eq_error failed).not_seemsOfCursor
    · intro left right error failed
      exact (Value.add_eq_error failed).not_seemsOfCursor
  · exact suppliesOnly_oneOf _

/-- Reading in a locale either mismatches or overflows. -/
theorem not_seemsOfCursor_of_interpret {locale : NumberLocale} {code : String} {strict negative : Bool}
    {text : List Char} {error : Error}
    (failed : locale.interpret code strict negative text = .error error) : ¬error.SeemsOfCursor := by
  rw [NumberLocale.interpret] at failed
  split at failed
  · exact (applySign_eq_error failed).not_seemsOfCursor
  · cases failed
    exact id
  · cases failed
    exact Error.not_seemsOfCursor_of_kind (by decide) (by decide)

theorem suppliesOnly_interpretSigned (locale : NumberLocale) (code : String) (strict : Bool)
    (negative symbols : Value) :
    (interpretSigned locale code strict negative symbols).SuppliesOnly (¬·.SeemsOfCursor) := by
  apply suppliesOnly_ofOutcome
  intro error failed
  rcases joined : symbols.joinSymbols with other | text
  · rw [joined] at failed
    cases failed
    exact (Value.joinSymbols_eq_error joined).not_seemsOfCursor
  · rw [joined] at failed
    exact not_seemsOfCursor_of_interpret failed

/-- None of the functions that the library itself puts into parsers raises what could be taken for a fault
of a cursor. -/
theorem IsReady.suppliesOnly {parser : Parser} (ready : parser.IsReady) :
    parser.SuppliesOnly (¬·.SeemsOfCursor) := by
  cases ready with
  | fail message => exact id
  | oneOf members => exact suppliesOnly_oneOf members
  | noneOf members => exact suppliesOnly_noneOf members
  | anySymbol =>
      intro symbol error failed
      cases failed
  | atEnd => trivial
  | whitespace => exact suppliesOnly_oneOf _
  | lexeme expected =>
      have blanks : (Parser.zeroOrMore Parser.whitespace).SuppliesOnly (¬·.SeemsOfCursor) :=
        suppliesOnly_oneOf _
      refine ⟨trivial, fun value => suppliesOnly_map blanks ?_⟩
      intro value error failed
      cases failed
  | double => exact ⟨suppliesOnly_oneOf _, suppliesOnly_interpretDouble⟩
  | decimalNumber locale code strict =>
      have sign : (word locale.minusSymbol).asBool.SuppliesOnly (¬·.SeemsOfCursor) := by
        refine ⟨suppliesOnly_map trivial ?_, trivial⟩
        intro value error failed
        cases failed
      have interpreted := suppliesOnly_interpretSigned locale code strict
      exact ⟨sign, fun negative => ⟨suppliesOnly_numberBody _ _, interpreted negative⟩⟩

end Parser

/-! ## What is raised in a run -/

/-- Every error that is raised in a run, absorbed or not, is of an allowed sort. -/
def Run.RaisesOnly {α : Type} (Allowed : Error → Prop) (run : Run α) : Prop :=
  ∀ origin error place, .raised origin error place ∈ run.history → Allowed error

namespace Run.RaisesOnly

variable {α β : Type} {Allowed : Error → Prop}

theorem andThen {run : Run α} {next : α → Run β} (holds : run.RaisesOnly Allowed)
    (nextHolds : ∀ answer, (next answer).RaisesOnly Allowed) :
    (run.andThen next).RaisesOnly Allowed := by
  intro origin error place member
  rcases ended : run.ending with failure | answer
  · rw [andThen_of_error next ended] at member
    exact holds origin error place member
  · rw [andThen_of_ok next ended] at member
    rcases List.mem_append.mp member with before | behind
    · exact holds origin error place before
    · exact nextHolds answer origin error place behind

theorem orElse {run : Run α} {alternative : Unit → Run α} (holds : run.RaisesOnly Allowed)
    (alternativeHolds : (alternative ()).RaisesOnly Allowed) :
    (run.orElse alternative).RaisesOnly Allowed := by
  intro origin error place member
  rcases ended : run.ending with (cause | fault) | answer
  · rw [orElse_of_mismatch alternative ended] at member
    rcases List.mem_append.mp member with before | behind
    · exact holds origin error place before
    · exact alternativeHolds origin error place behind
  · rw [orElse_of_fault alternative ended] at member
    exact holds origin error place member
  · rw [orElse_of_ok alternative ended] at member
    exact holds origin error place member

theorem toldAs (tag : String) (ahead : List Char) (cursor : Cursor) {run : Run Reply}
    (holds : run.RaisesOnly Allowed) : (run.toldAs tag ahead cursor).RaisesOnly Allowed := by
  intro origin error place member
  rcases List.mem_cons.mp member with opening | within
  · cases opening
  · rcases List.mem_append.mp within with attempted | closing
    · exact holds origin error place attempted
    · rcases ended : run.ending with (cause | fault) | reply <;> simp [closingsOf, ended] at closing

theorem invariant (ofReading : ∀ error : Error, error.IsOfReading → Allowed error) :
    Run.InvariantUnder Allowed (Run.RaisesOnly Allowed) where
  ofReading := ofReading
  done answer origin error place member := absurd member List.not_mem_nil
  raised origin error cursor allowed other raised place member := by
    cases List.mem_singleton.mp member
    exact allowed
  entered cursor run holds origin error place member := by
    rcases List.mem_cons.mp member with entered | within
    · cases entered
    · exact holds origin error place within
  map transform run holds := holds
  andThen := andThen
  orElse := orElse
  told tag ahead cursor _ holds := holds.toldAs tag ahead cursor

end Run.RaisesOnly

/-! ## Running never asks -/

/-- A count leads to a place that the check of positions lets pass. -/
theorem Cursor.at?_onward (count : Nat) (cursor : Cursor) :
    at? cursor.source (cursor.onward count).position = .ok (cursor.onward count) :=
  if_neg (Int.not_lt.mpr (Int.natCast_nonneg _))

namespace Grammar

/-- From wherever it begins, past the end too, a run neither ends in a fault of a cursor nor raises one on
the way, unless somebody supplied it. Recognisers ask for symbols that are there, and advance by counts,
which the checks of the count and of the new position let pass. The library's own parsers supply no such
fault, and neither does a repetition whose count is refused while a run is on. -/
theorem cursors_never_fault {grammar : Grammar} {parser : Parser}
    (defined : grammar.SuppliesOnly (¬·.SeemsOfCursor))
    (supplied : parser.SuppliesOnly (¬·.SeemsOfCursor)) (cursor : Cursor) :
    (∀ error, (grammar.parse parser cursor).ending = .error error → ¬error.SeemsOfCursor) ∧
      (∀ origin error place,
        .raised origin error place ∈ (grammar.parse parser cursor).history → ¬error.SeemsOfCursor) ∧
      (∀ (place : Cursor) (count : Nat), ∃ stop, place.advance count = .ok stop ∧
        Cursor.at? place.source stop.position = .ok stop) ∧
      (∀ ready : Parser, ready.IsReady → ready.SuppliesOnly (¬·.SeemsOfCursor)) ∧
      ∀ inner times, Parser.SuppliesOnly (¬·.SeemsOfCursor) inner →
        (Parser.ofConstruction (inner.repeated? times)).SuppliesOnly (¬·.SeemsOfCursor) := by
  have invariant := Run.RaisesOnly.invariant fun _ => Error.IsOfReading.not_seemsOfCursor
  have raised := invariant.parse defined supplied cursor
  refine ⟨?ending, raised, ?places, fun _ => Parser.IsReady.suppliesOnly,
    fun _ times supplies => Parser.suppliesOnly_repeated? supplies times⟩
  case ending =>
    intro error failed
    cases error with
    | mismatch cause => exact id
    | fault cause =>
        have faultsLast := Run.FaultsLast.invariant.parse grammar parser cursor
        rcases faultsLast.raised_of_ending failed with ⟨earlier, origin, place, history⟩
        apply raised origin _ place
        rw [history]
        exact List.mem_append_right earlier (List.mem_singleton_self _)
  case places =>
    intro place count
    exact ⟨place.onward count, place.advance_eq_onward count, place.at?_onward count⟩

/-- A predicate with a fault of its own. -/
private def refuseSeparator (symbol : Value) : Outcome Bool :=
  if symbol.text? = some [';'] then .error (.fault (.stated .runtime "separator")) else .ok true

private def field : Grammar :=
  ⟨[("figure", .orElse (.oneCharOf Parser.digitCharacters) (.symbolThat refuseSeparator))]⟩

/-- The fault of the predicate ends the run and is none of a cursor; past the end there is none at all. -/
theorem cursors_never_fault_field :
    (field.parse (.oneOrMore (.reference "figure")) ⟨.text #['7', ';'], 0⟩).ending =
        .error (.fault (.stated .runtime "separator")) ∧
      ¬(Error.fault (.stated .runtime "separator")).SeemsOfCursor ∧
      ∀ origin error place,
        .raised origin error place ∈
            (field.parse (.oneOrMore (.reference "figure")) ⟨.text #['7', ';'], 5⟩).history →
          ¬error.SeemsOfCursor := by
  have stated : ¬(Error.fault (.stated .runtime "separator")).SeemsOfCursor :=
    Error.not_seemsOfCursor_of_kind (by decide) (by decide)
  have defined : field.SuppliesOnly (¬·.SeemsOfCursor) := by
    intro name parser found
    simp only [field, find?, List.lookup_cons, List.lookup_nil] at found
    split at found <;> cases found
    refine ⟨Parser.suppliesOnly_oneOf _, ?_⟩
    intro symbol error failed
    simp only [refuseSeparator] at failed
    split at failed <;> cases failed
    exact stated
  have ended : (field.parse (.oneOrMore (.reference "figure")) ⟨.text #['7', ';'], 0⟩).ending =
      .error (.fault (.stated .runtime "separator")) := rfl
  have supplied : (Parser.oneOrMore (.reference "figure")).SuppliesOnly (¬·.SeemsOfCursor) := trivial
  exact ⟨ended, (cursors_never_fault defined supplied _).1 _ ended,
    (cursors_never_fault defined supplied _).2.1⟩

end Grammar

end CursorParsing
