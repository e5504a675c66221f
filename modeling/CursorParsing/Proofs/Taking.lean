import CursorParsing.Proofs.Forms
import CursorParsing.Proofs.Repetition

/-!
# What parsers take from a text

What a parser does on one text, as far as that text says: it takes a part of it and leaves the rest, or it
refuses the text. A grammar that refers to itself has no form that is made of its parts alone; what it does
on a text that is written down follows part by part.
-/

namespace CursorParsing

/-! ## The characters that are left -/

namespace Cursor

/-- A cursor in a text, or past its end, with these characters left. -/
def HasLeft (cursor : Cursor) (left : List Char) : Prop := cursor.remaining.toValue = .text left

theorem hasLeft_iff {cursor : Cursor} {left : List Char} :
    cursor.HasLeft left ↔
      ∃ characters, cursor.source = .text characters ∧
        left = characters.toList.drop cursor.position := by
  rcases cursor with ⟨source, position⟩
  cases source with
  | text characters =>
      have all : (characters.toList.drop position).take (characters.size - position) =
          characters.toList.drop position := List.take_of_length_le (by simp)
      simp [HasLeft, remaining, Source.slice, Source.size, Source.toValue, all, eq_comm]
  | bytes _ => simp [HasLeft, remaining, Source.slice, Source.toValue]
  | buffer _ => simp [HasLeft, remaining, Source.slice, Source.toValue]
  | list _ => simp [HasLeft, remaining, Source.slice, Source.toValue]
  | tuple _ => simp [HasLeft, remaining, Source.slice, Source.toValue]

theorem hasLeft_text (characters : Array Char) (position : Nat) :
    (⟨.text characters, position⟩ : Cursor).HasLeft (characters.toList.drop position) :=
  hasLeft_iff.mpr ⟨characters, rfl, rfl⟩

namespace HasLeft

variable {cursor : Cursor} {left : List Char} (here : cursor.HasLeft left)

include here

theorem length_eq : left.length = cursor.length := by
  rcases hasLeft_iff.mp here with ⟨characters, isText, rfl⟩
  simp [Cursor.length, isText, Source.size]

theorem forward (count : Nat) : (cursor.forward count).HasLeft (left.drop count) := by
  rcases hasLeft_iff.mp here with ⟨characters, isText, rfl⟩
  exact hasLeft_iff.mpr ⟨characters, isText, List.drop_drop⟩

omit here in
theorem behind {text rest : List Char} (here : cursor.HasLeft (text ++ rest)) :
    (cursor.forward text.length).HasLeft rest := by
  simpa only [List.drop_left] using here.forward text.length

theorem isWritable : cursor.source.isWritable = true := by
  rcases hasLeft_iff.mp here with ⟨characters, isText, _⟩
  rw [isText, Source.isWritable_text]

theorem isShowable : cursor.isShowable = true := isShowable_of_isWritable here.isWritable

theorem refusal_eq {tell : List Char → Mismatch} (writable : (tell cursor.snippet).isWritable = true) :
    cursor.refusal tell = .mismatch (tell cursor.snippet) :=
  refusal_of_isShowable here.isShowable writable

theorem symbol?_eq : cursor.source.symbol? cursor.position = left.head?.map .ofChar := by
  rcases hasLeft_iff.mp here with ⟨characters, isText, rfl⟩
  simp [isText, Source.symbol?, List.head?_drop]

/-- The empty text is no continuation past the end, any other text wherever it is in front. -/
theorem startsWith_iff {characters : List Char} (notEmpty : characters ≠ []) :
    cursor.startsWith (.text characters.toArray) = true ↔ characters <+: left := by
  have positive := List.length_pos_iff.mpr notEmpty
  have counted := here.length_eq
  rcases hasLeft_iff.mp here with ⟨symbols, isText, isLeft⟩
  simp only [Cursor.length, isText, Source.size] at counted
  simp only [Cursor.startsWith, isText, Source.size, Source.slice, Source.toValue, Value.equal,
    Bool.and_eq_true, decide_eq_true_eq, beq_iff_eq, List.size_toArray, Array.toList_extract,
    List.extract_eq_take_drop, ← isLeft, Nat.add_sub_cancel_left]
  rw [List.prefix_iff_eq_take, eq_comm (a := characters)]
  constructor
  · rintro ⟨_, same⟩
    exact same
  · intro same
    have short := congrArg List.length same
    rw [List.length_take] at short
    exact ⟨by omega, same⟩

/-- Up to the end of the source the empty text is a continuation as well. -/
theorem startsWith_iff_of_le (inside : cursor.position ≤ cursor.source.size)
    {characters : List Char} :
    cursor.startsWith (.text characters.toArray) = true ↔ characters <+: left := by
  rcases characters with _ | ⟨first, characters⟩
  · rcases hasLeft_iff.mp here with ⟨symbols, isText, _⟩
    rw [isText, Source.size] at inside
    simp [Cursor.startsWith, isText, Source.size, Source.slice, Source.toValue, Value.equal, inside]
  · exact here.startsWith_iff (List.cons_ne_nil _ _)

/-- What is left after a text is left just behind the text. -/
theorem eq_forward {stop : Cursor} {text rest : List Char} (split : left = text ++ rest)
    (reaches : cursor.ReachesTo stop) (there : stop.HasLeft rest) :
    stop = cursor.forward text.length := by
  have distance := reaches.distance_eq
  have onward := reaches.position_le
  rw [← here.length_eq, ← there.length_eq, split, List.length_append] at distance
  have moved : stop.position = cursor.position + text.length := by omega
  calc stop = ⟨stop.source, stop.position⟩ := rfl
    _ = ⟨cursor.source, cursor.position + text.length⟩ := by rw [reaches.source_eq, moved]

theorem leadsOn_of_length_lt {reply : Reply} {rest : List Char}
    (reaches : cursor.ReachesTo reply.cursor) (there : reply.cursor.HasLeft rest)
    (shorter : rest.length < left.length) : reply.LeadsOn cursor := by
  rw [here.length_eq, there.length_eq, Cursor.length, Cursor.length, reaches.source_eq] at shorter
  unfold Reply.LeadsOn
  omega

end HasLeft

end Cursor

/-! ## One text -/

namespace Grammar

/-- With this text left, a parser gives the value and leaves the rest. -/
def Takes (grammar : Grammar) (parser : Parser) (left : List Char) (value : Value)
    (rest : List Char) : Prop :=
  ∀ cursor : Cursor, cursor.HasLeft left →
    ∃ stop, (grammar.parse parser cursor).ending = .ok ⟨value, stop⟩ ∧ stop.HasLeft rest

/-- With this text left, a parser does not match. -/
def Refuses (grammar : Grammar) (parser : Parser) (left : List Char) : Prop :=
  ∀ cursor : Cursor, cursor.HasLeft left →
    ∃ cause, (grammar.parse parser cursor).ending = .error (.mismatch cause)

section

variable {grammar : Grammar} {parser first second : Parser} {left middle rest : List Char}
  {value other result : Value}

/-! ## Words -/

theorem ending_parse_word (grammar : Grammar) (characters : List Char) (cursor : Cursor) :
    (grammar.parse (.word characters) cursor).ending =
      if cursor.startsWith (.text characters.toArray) then
        .ok ⟨.text characters, cursor.forward characters.length⟩
      else .error (cursor.refusal (.expectedPrefix (.text characters))) := by
  change (readLiteral (.text characters) cursor).ending = _
  rw [readLiteral_eq, Source.ofValue?]
  by_cases holds : cursor.startsWith (.text characters.toArray) = true <;>
    simp [holds, Source.size]

theorem takes_word {characters : List Char} (notEmpty : characters ≠ []) :
    grammar.Takes (.word characters) (characters ++ rest) (.text characters) rest := by
  intro cursor here
  have holds := (here.startsWith_iff notEmpty).mpr (List.prefix_append characters rest)
  refine ⟨cursor.forward characters.length, ?_, ?_⟩
  · rw [ending_parse_word, if_pos holds]
  · simpa using here.forward characters.length

theorem refuses_word {characters : List Char} (notEmpty : characters ≠ [])
    (without : ¬characters <+: left) : grammar.Refuses (.word characters) left := by
  intro cursor here
  rw [← here.startsWith_iff notEmpty] at without
  exact ⟨_, by rw [ending_parse_word, if_neg without, here.refusal_eq rfl]⟩

theorem takes_character (grammar : Grammar) (character : Char) (rest : List Char) :
    grammar.Takes (.word [character]) (character :: rest) (.text [character]) rest :=
  takes_word (List.cons_ne_nil character [])

theorem refuses_character (grammar : Grammar) {character starts : Char} (different : character ≠ starts)
    (rest : List Char) : grammar.Refuses (.word [character]) (starts :: rest) :=
  refuses_word (List.cons_ne_nil character []) (by simpa using different)

/-! ## Sequencing -/

theorem takes_pure : grammar.Takes (.pure value) left value left :=
  fun cursor here => ⟨cursor, rfl, here⟩

theorem Takes.flatMap {next : Value → Parser} (takes : grammar.Takes first left value middle)
    (following : grammar.Takes (next value) middle result rest) :
    grammar.Takes (.flatMap first next) left result rest := by
  intro cursor here
  rcases takes cursor here with ⟨between, matched, there⟩
  rcases following between there with ⟨stop, nextMatched, stops⟩
  refine ⟨stop, ?_, stops⟩
  rw [ending_parse_flatMap, Run.andThen_of_ok _ matched]
  exact nextMatched

theorem Refuses.flatMap {next : Value → Parser} (refuses : grammar.Refuses first left) :
    grammar.Refuses (.flatMap first next) left := by
  intro cursor here
  rcases refuses cursor here with ⟨cause, failed⟩
  refine ⟨cause, ?_⟩
  rw [ending_parse_flatMap, Run.andThen_of_error _ failed]

theorem Takes.map {transform : Value → Outcome Value} (takes : grammar.Takes parser left value rest)
    (gives : transform value = .ok result) : grammar.Takes (parser.map transform) left result rest := by
  apply takes.flatMap
  rw [gives]
  exact takes_pure

theorem Takes.keepRight (takes : grammar.Takes first left other middle)
    (following : grammar.Takes second middle value rest) :
    grammar.Takes (first.keepRight second) left value rest :=
  takes.flatMap following

theorem Takes.keepLeft (takes : grammar.Takes first left value middle)
    (following : grammar.Takes second middle other rest) :
    grammar.Takes (first.keepLeft second) left value rest :=
  takes.flatMap (following.map rfl)

/-! ## Choice -/

theorem Takes.orElse (takes : grammar.Takes first left value rest) :
    grammar.Takes (.orElse first second) left value rest := by
  intro cursor here
  rcases takes cursor here with ⟨stop, matched, stops⟩
  refine ⟨stop, ?_, stops⟩
  rw [parse_orElse, Run.orElse_of_ok _ matched, matched]

theorem Refuses.orElse_takes (refuses : grammar.Refuses first left)
    (takes : grammar.Takes second left value rest) :
    grammar.Takes (.orElse first second) left value rest := by
  intro cursor here
  rcases refuses cursor here with ⟨cause, failed⟩
  rcases takes cursor here with ⟨stop, matched, stops⟩
  refine ⟨stop, ?_, stops⟩
  rw [parse_orElse, Run.orElse_of_mismatch _ failed]
  exact matched

theorem Refuses.orElse (refuses : grammar.Refuses first left)
    (otherRefuses : grammar.Refuses second left) : grammar.Refuses (.orElse first second) left := by
  intro cursor here
  rcases refuses cursor here with ⟨_, failed⟩
  rcases otherRefuses cursor here with ⟨cause, otherFailed⟩
  refine ⟨cause, ?_⟩
  rw [parse_orElse, Run.orElse_of_mismatch _ failed]
  exact otherFailed

theorem Takes.asBool (takes : grammar.Takes parser left value rest) :
    grammar.Takes parser.asBool left (.bool true) rest := by
  have asTrue : grammar.Takes parser.asTrue left (.bool true) rest := takes.map rfl
  exact asTrue.orElse

theorem Refuses.asBool (refuses : grammar.Refuses parser left) :
    grammar.Takes parser.asBool left (.bool false) left :=
  refuses.flatMap.orElse_takes takes_pure

/-! ## References -/

theorem Takes.reference {name : String} (takes : grammar.Takes parser left value rest)
    (found : grammar.find? name = some parser) :
    grammar.Takes (.reference name) left value rest := by
  intro cursor here
  rw [ending_parse_reference grammar found]
  exact takes cursor here

theorem Refuses.reference {name : String} (refuses : grammar.Refuses parser left)
    (found : grammar.find? name = some parser) : grammar.Refuses (.reference name) left := by
  intro cursor here
  rw [ending_parse_reference grammar found]
  exact refuses cursor here

/-! ## Repetition -/

/-- What a parser takes one after another, something every time. -/
def TakesRuns (grammar : Grammar) (parser : Parser) : Form (List Value) :=
  Form.Runs fun left value rest => grammar.Takes parser left value rest ∧ rest.length < left.length

theorem TakesRuns.chain {values : List Value} {cursor : Cursor}
    (runs : grammar.TakesRuns parser left values rest) (here : cursor.HasLeft left) :
    ∃ stop, Chain (grammar.parse parser) Reply.LeadsOn cursor values stop ∧ stop.HasLeft rest := by
  induction runs generalizing cursor with
  | none left => exact ⟨cursor, .start cursor, here⟩
  | next first more induction =>
      rcases first with ⟨takes, shorter⟩
      rcases takes cursor here with ⟨between, matched, there⟩
      rcases induction there with ⟨stop, chain, stops⟩
      have leadsOn : Reply.LeadsOn ⟨_, between⟩ cursor :=
        here.leadsOn_of_length_lt (grammar.advances_parse parser cursor _ matched) there shorter
      exact ⟨stop, .next matched leadsOn chain, stops⟩

theorem TakesRuns.zeroOrMore {values : List Value}
    (runs : grammar.TakesRuns parser left values rest) (refuses : grammar.Refuses parser rest) :
    grammar.Takes (.zeroOrMore parser) left (.list values) rest := by
  intro cursor here
  have advances := grammar.advances_parse parser
  rcases runs.chain here with ⟨stop, chain, there⟩
  rcases refuses stop there with ⟨cause, failed⟩
  exact ⟨stop, zeroOrMore_eq_ok_iff.mpr (chain.collectAll_of_mismatch advances failed), there⟩

/-! ## Results -/

theorem run_eq_ok_iff {cursor : Cursor} {answer : Result} :
    (grammar.run parser cursor).1 = .ok answer ↔
      ∃ reply, (grammar.parse parser cursor).ending = .ok reply ∧
        answer = ⟨reply.value, reply.cursor.remaining.toValue⟩ := by
  rcases ended : (grammar.parse parser cursor).ending with (cause | fault) | reply <;>
    simp [run, ended, eq_comm]

theorem Takes.run (takes : grammar.Takes parser left value rest) {cursor : Cursor}
    (here : cursor.HasLeft left) :
    (grammar.run parser cursor).1 = .ok ⟨value, .text rest⟩ := by
  rcases takes cursor here with ⟨stop, matched, stops⟩
  exact run_eq_ok_iff.mpr ⟨⟨value, stop⟩, matched, by rw [stops]⟩

end

end Grammar

end CursorParsing
