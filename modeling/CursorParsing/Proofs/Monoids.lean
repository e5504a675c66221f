import CursorParsing.Proofs.Sequencing
import CursorParsing.Proofs.Taking

/-!
# Monoids of parsers

An operation that makes a monoid of values makes one of the parsers that give such values. Concatenation
is a homomorphism of it: what is concatenated may be cut anywhere.
-/

namespace CursorParsing

/-! ## Monoids of values -/

/-- Values of a kind are a monoid: an operation combines any two of them to one of the kind, it does not
matter how three are bracketed, and the identity changes nothing. -/
structure IsMonoid (Member : Value → Prop) (combine : Value → Value → Outcome Value)
    (identity : Value) : Prop where
  identity_member : Member identity
  combines : ∀ {left right}, Member left → Member right →
    ∃ answer, combine left right = .ok answer ∧ Member answer
  assoc : ∀ {left middle right}, Member left → Member middle → Member right →
    (combine left middle >>= fun both => combine both right) =
      combine middle right >>= fun both => combine left both
  identity_left : ∀ {value}, Member value → combine identity value = .ok value
  identity_right : ∀ {value}, Member value → combine value identity = .ok value

theorem Parser.concat_append_singleton (combine : Value → Value → Outcome Value) (identity : Value)
    (parsers : List Parser) (last : Parser) :
    concat combine identity (parsers ++ [last]) = lift2 combine (concat combine identity parsers) last := by
  rw [concat, List.foldl_append]
  rfl

def IsText (value : Value) : Prop := ∃ characters, value = .text characters

theorem isMonoid_text : IsMonoid IsText Value.add (.text []) where
  identity_member := ⟨[], rfl⟩
  combines := by
    rintro _ _ ⟨left, rfl⟩ ⟨right, rfl⟩
    exact ⟨_, rfl, left ++ right, rfl⟩
  assoc := by
    rintro _ _ _ ⟨left, rfl⟩ ⟨middle, rfl⟩ ⟨right, rfl⟩
    exact congrArg (fun characters => Except.ok (Value.text characters)) (List.append_assoc _ _ _)
  identity_left := by
    rintro _ ⟨characters, rfl⟩
    rfl
  identity_right := by
    rintro _ ⟨characters, rfl⟩
    exact congrArg (fun characters => Except.ok (Value.text characters)) (List.append_nil _)

namespace Grammar

/-! ## Parsers of the values of a kind -/

/-- Whatever the parser gives is of a kind. -/
def GivesOnly (grammar : Grammar) (Member : Value → Prop) (parser : Parser) : Prop :=
  ∀ cursor reply, (grammar.parse parser cursor).ending = .ok reply → Member reply.value

/-- Two parsers do the same wherever they are run, except that they may enter others for it. -/
def SameEffect (grammar : Grammar) (first second : Parser) : Prop :=
  ∀ depth cursor, grammar.effect depth first cursor = grammar.effect depth second cursor

section Effects

variable {grammar : Grammar} {Member : Value → Prop} {combine : Value → Value → Outcome Value}
  {identity value : Value} {parser first second third : Parser}

theorem GivesOnly.member (givesOnly : grammar.GivesOnly Member parser)
    (gives : grammar.Gives parser value) : Member value := by
  rcases gives.exists_parse with ⟨cursor, reply, matched, rfl⟩
  exact givesOnly cursor reply matched

theorem givesOnly_of_gives (member : ∀ value, grammar.Gives parser value → Member value) :
    grammar.GivesOnly Member parser :=
  fun _ reply matched => member reply.value ⟨_, _, reply, matched, rfl⟩

theorem effect_lift2 (suits : grammar.SuitsBoth combine first second) (depth : Nat) (cursor : Cursor) :
    grammar.effect depth (.lift2 combine first second) cursor =
      (grammar.effect depth first cursor).andThen fun left =>
        (grammar.effect depth second left.cursor).map fun right =>
          ⟨answerOf (combine left.value right.value), right.cursor⟩ := by
  rw [Parser.lift2, effect_flatMap]
  apply Run.andThen_congr
  intro left matched
  exact effect_map (suits left.value (gives_of_effect matched)) depth left.cursor

theorem SameEffect.alike (same : grammar.SameEffect first second) : grammar.Alike first second :=
  alike_of_effect same

theorem SameEffect.lift2 {other otherSecond : Parser} (same : grammar.SameEffect first other)
    (sameSecond : grammar.SameEffect second otherSecond) :
    grammar.SameEffect (.lift2 combine first second) (.lift2 combine other otherSecond) := by
  intro depth cursor
  simp only [Parser.lift2, Parser.map, effect_flatMap, same depth, sameSecond depth]

end Effects

/-! ## Monoids of parsers -/

section Monoid

variable {grammar : Grammar} {Member : Value → Prop} {combine : Value → Value → Outcome Value}
  {identity : Value} (monoid : IsMonoid Member combine identity) {parser first second third : Parser}

include monoid

theorem givesOnly_identity : grammar.GivesOnly Member (.pure identity) := by
  intro cursor reply matched
  cases matched
  exact monoid.identity_member

theorem suitsBoth_of_givesOnly (firstGives : grammar.GivesOnly Member first)
    (secondGives : grammar.GivesOnly Member second) : grammar.SuitsBoth combine first second := by
  intro left leftGiven right rightGiven
  rcases monoid.combines (firstGives.member leftGiven) (secondGives.member rightGiven) with
    ⟨answer, combined, _⟩
  exact ⟨answer, combined⟩

theorem GivesOnly.lift2 (firstGives : grammar.GivesOnly Member first)
    (secondGives : grammar.GivesOnly Member second) :
    grammar.GivesOnly Member (.lift2 combine first second) := by
  apply givesOnly_of_gives
  intro value given
  rcases given.of_flatMap with ⟨left, leftGiven, rightMade⟩
  rcases rightMade.of_map with ⟨right, rightGiven, made⟩
  rcases monoid.combines (firstGives.member leftGiven) (secondGives.member rightGiven) with
    ⟨answer, combined, member⟩
  cases made.symm.trans combined
  exact member

theorem sameEffect_assoc (firstGives : grammar.GivesOnly Member first)
    (secondGives : grammar.GivesOnly Member second) (thirdGives : grammar.GivesOnly Member third) :
    grammar.SameEffect (.lift2 combine (.lift2 combine first second) third)
      (.lift2 combine first (.lift2 combine second third)) := by
  have suitsFirst := suitsBoth_of_givesOnly monoid firstGives secondGives
  have suitsLast := suitsBoth_of_givesOnly monoid secondGives thirdGives
  have suitsLeft := suitsBoth_of_givesOnly monoid (firstGives.lift2 monoid secondGives) thirdGives
  have suitsRight := suitsBoth_of_givesOnly monoid firstGives (secondGives.lift2 monoid thirdGives)
  intro depth cursor
  rw [effect_lift2 suitsLeft, effect_lift2 suitsFirst, effect_lift2 suitsRight, Run.andThen_assoc]
  apply Run.andThen_congr
  intro left leftMatched
  rw [Run.map_andThen, effect_lift2 suitsLast, Run.andThen_map]
  apply Run.andThen_congr
  intro middle middleMatched
  rw [Run.map_map]
  apply Run.map_congr
  intro right rightMatched
  have leftMember := firstGives.member (gives_of_effect leftMatched)
  have middleMember := secondGives.member (gives_of_effect middleMatched)
  have rightMember := thirdGives.member (gives_of_effect rightMatched)
  rcases monoid.combines leftMember middleMember with ⟨early, earlyCombined, _⟩
  rcases monoid.combines middleMember rightMember with ⟨late, lateCombined, _⟩
  have assoc := monoid.assoc leftMember middleMember rightMember
  rw [earlyCombined, lateCombined] at assoc
  rw [earlyCombined, lateCombined]
  exact congrArg (fun outcome => (⟨answerOf outcome, right.cursor⟩ : Reply)) assoc

theorem sameEffect_identity_left (gives : grammar.GivesOnly Member parser) :
    grammar.SameEffect (.lift2 combine (.pure identity) parser) parser := by
  have suits := suitsBoth_of_givesOnly monoid (givesOnly_identity monoid) gives
  intro depth cursor
  rw [effect_lift2 suits, effect_pure, Run.done_andThen]
  have same : ∀ reply, (grammar.effect depth parser cursor).ending = .ok reply →
      (⟨answerOf (combine identity reply.value), reply.cursor⟩ : Reply) = id reply := by
    intro reply matched
    rw [monoid.identity_left (gives.member (gives_of_effect matched))]
    rfl
  rw [Run.map_congr same, Run.map_id]

theorem sameEffect_identity_right (gives : grammar.GivesOnly Member parser) :
    grammar.SameEffect (.lift2 combine parser (.pure identity)) parser := by
  have suits := suitsBoth_of_givesOnly monoid gives (givesOnly_identity monoid)
  intro depth cursor
  rw [effect_lift2 suits]
  have same : ∀ reply, (grammar.effect depth parser cursor).ending = .ok reply →
      ((grammar.effect depth (.pure identity) reply.cursor).map fun right =>
        (⟨answerOf (combine reply.value right.value), right.cursor⟩ : Reply)) = .done (id reply) := by
    intro reply matched
    change Run.done (⟨answerOf (combine reply.value identity), reply.cursor⟩ : Reply) = _
    rw [monoid.identity_right (gives.member (gives_of_effect matched))]
    rfl
  rw [Run.andThen_congr same, Run.andThen_done, Run.map_id]

/-! ## Concatenation -/

theorem givesOnly_concat {parsers : List Parser}
    (give : ∀ parser ∈ parsers, grammar.GivesOnly Member parser) :
    grammar.GivesOnly Member (.concat combine identity parsers) := by
  induction parsers using List.reverseRecOn with
  | nil => exact givesOnly_identity monoid
  | append_singleton parsers last induction =>
      rw [Parser.concat_append_singleton]
      rcases List.forall_mem_append.mp give with ⟨giveEarly, giveLast⟩
      exact (induction giveEarly).lift2 monoid (giveLast last (List.mem_singleton_self last))

/-- What is concatenated may be cut anywhere. -/
theorem sameEffect_concat_append {early late : List Parser}
    (giveEarly : ∀ parser ∈ early, grammar.GivesOnly Member parser)
    (giveLate : ∀ parser ∈ late, grammar.GivesOnly Member parser) :
    grammar.SameEffect (.concat combine identity (early ++ late))
      (.lift2 combine (.concat combine identity early) (.concat combine identity late)) := by
  have givesEarly := givesOnly_concat monoid giveEarly
  induction late using List.reverseRecOn with
  | nil =>
      intro depth cursor
      rw [List.append_nil]
      exact (sameEffect_identity_right monoid givesEarly depth cursor).symm
  | append_singleton late last induction =>
      rcases List.forall_mem_append.mp giveLate with ⟨giveMore, giveLast⟩
      have lastGives := giveLast last (List.mem_singleton_self last)
      have lastSame : grammar.SameEffect last last := fun _ _ => rfl
      intro depth cursor
      calc grammar.effect depth (.concat combine identity (early ++ (late ++ [last]))) cursor
          = grammar.effect depth
              (.lift2 combine (.concat combine identity (early ++ late)) last) cursor := by
            rw [← List.append_assoc, Parser.concat_append_singleton]
        _ = grammar.effect depth
              (.lift2 combine (.lift2 combine (.concat combine identity early)
                (.concat combine identity late)) last) cursor :=
            (induction giveMore).lift2 lastSame depth cursor
        _ = grammar.effect depth
              (.lift2 combine (.concat combine identity early)
                (.lift2 combine (.concat combine identity late) last)) cursor :=
            sameEffect_assoc monoid givesEarly (givesOnly_concat monoid giveMore) lastGives depth cursor
        _ = grammar.effect depth
              (.lift2 combine (.concat combine identity early)
                (.concat combine identity (late ++ [last]))) cursor := by
            rw [Parser.concat_append_singleton]

end Monoid

/-! ## Words -/

section Words

variable {grammar : Grammar} {cursor : Cursor} {left : List Char} {reply : Reply}

theorem parse_lift2_eq_ok_iff {combine : Value → Value → Outcome Value} {first second : Parser} :
    (grammar.parse (.lift2 combine first second) cursor).ending = .ok reply ↔
      ∃ early late, (grammar.parse first cursor).ending = .ok early ∧
        (grammar.parse second early.cursor).ending = .ok late ∧
        combine early.value late.value = .ok reply.value ∧ reply.cursor = late.cursor := by
  rw [Parser.lift2, ending_parse_flatMap]
  constructor
  · intro matched
    rcases Run.andThen_eq_ok matched with ⟨early, firstMatched, mapped⟩
    rw [Parser.map, ending_parse_flatMap] at mapped
    rcases Run.andThen_eq_ok mapped with ⟨late, secondMatched, made⟩
    rcases combined : combine early.value late.value with error | answer
    · rw [combined] at made
      cases made
    · rw [combined] at made
      cases made
      exact ⟨early, late, firstMatched, secondMatched, combined, rfl⟩
  · rintro ⟨early, late, firstMatched, secondMatched, combined, sameCursor⟩
    rw [Run.andThen_of_ok _ firstMatched, Parser.map, ending_parse_flatMap,
      Run.andThen_of_ok _ secondMatched, combined]
    cases reply
    cases sameCursor
    rfl

variable (here : cursor.HasLeft left) (inside : cursor.position ≤ cursor.source.size)

include here inside

theorem parse_word_eq_ok_iff {expected : List Char} :
    (grammar.parse (.word expected) cursor).ending = .ok reply ↔
      expected <+: left ∧ reply = ⟨.text expected, cursor.forward expected.length⟩ := by
  rw [← here.startsWith_iff_of_le inside, ending_parse_word]
  by_cases holds : cursor.startsWith (.text expected.toArray) = true <;> simp [holds, eq_comm]

theorem inside_forward {taken : List Char} (inFront : taken <+: left) :
    (cursor.forward taken.length).position ≤ cursor.source.size := by
  have short := inFront.length_le
  rw [here.length_eq, Cursor.length] at short
  rw [Cursor.position_forward]
  omega

/-- A word after another is read like both as one word. -/
theorem parse_word_append_eq_ok_iff {early late : List Char} :
    (∃ first second, (grammar.parse (.word early) cursor).ending = .ok first ∧
        (grammar.parse (.word late) first.cursor).ending = .ok second ∧
        first.value.add second.value = .ok reply.value ∧ reply.cursor = second.cursor) ↔
      (grammar.parse (.word (early ++ late)) cursor).ending = .ok reply := by
  simp only [parse_word_eq_ok_iff here inside]
  constructor
  · rintro ⟨_, second, ⟨inFront, rfl⟩, secondMatched, joined, sameCursor⟩
    have there := here.forward early.length
    rw [parse_word_eq_ok_iff there (inside_forward here inside inFront)] at secondMatched
    rcases secondMatched with ⟨⟨rest, next⟩, rfl⟩
    rcases inFront with ⟨after, rfl⟩
    rw [List.drop_left] at next
    rcases reply with ⟨value, stop⟩
    cases joined
    have stops : stop = (cursor.forward early.length).forward late.length := sameCursor
    refine ⟨⟨rest, by rw [List.append_assoc, next]⟩, ?_⟩
    rw [stops, Cursor.forward_forward, List.length_append]
  · rintro ⟨⟨rest, whole⟩, rfl⟩
    rw [List.append_assoc] at whole
    subst whole
    have there := here.behind
    refine ⟨_, ⟨.text late, _⟩, ⟨List.prefix_append _ _, rfl⟩, ?_, rfl, rfl⟩
    rw [parse_word_eq_ok_iff there (inside_forward here inside (List.prefix_append _ _)),
      Cursor.forward_forward, List.length_append]
    exact ⟨List.prefix_append _ _, rfl⟩

/-- Words one after another are read like one word, as long as reading does not begin past the end. -/
theorem parse_concat_words_eq_ok_iff (words : List (List Char)) :
    (grammar.parse (.concat Value.add (.text []) (words.map .word)) cursor).ending = .ok reply ↔
      (grammar.parse (.word words.flatten) cursor).ending = .ok reply := by
  induction words using List.reverseRecOn generalizing reply with
  | nil =>
      rw [parse_word_eq_ok_iff here inside]
      constructor
      · intro matched
        cases matched
        exact ⟨List.nil_prefix, rfl⟩
      · rintro ⟨_, rfl⟩
        rfl
  | append_singleton words last induction =>
      rw [List.map_append, List.map_singleton, Parser.concat_append_singleton, parse_lift2_eq_ok_iff,
        List.flatten_concat, ← parse_word_append_eq_ok_iff here inside]
      simp only [induction]

end Words

/-- Where an operation makes a monoid of the values that parsers give, nobody can tell a concatenation
from two that are combined, that of one parser from the parser, one bracketing of three from the other,
or a parser from itself combined with the identity. So words read one after another and joined are one
word. -/
theorem concat_monoid (grammar : Grammar) {Member : Value → Prop}
    {combine : Value → Value → Outcome Value} {identity : Value}
    (monoid : IsMonoid Member combine identity) :
    (∀ early late : List Parser, (∀ parser ∈ early ++ late, grammar.GivesOnly Member parser) →
        grammar.Alike (.concat combine identity (early ++ late))
          (.lift2 combine (.concat combine identity early) (.concat combine identity late))) ∧
      (∀ parser, grammar.GivesOnly Member parser →
        grammar.Alike (.concat combine identity [parser]) parser ∧
          grammar.Alike (.lift2 combine (.pure identity) parser) parser ∧
          grammar.Alike (.lift2 combine parser (.pure identity)) parser) ∧
      (∀ first second third, grammar.GivesOnly Member first → grammar.GivesOnly Member second →
        grammar.GivesOnly Member third →
          grammar.Alike (.lift2 combine (.lift2 combine first second) third)
            (.lift2 combine first (.lift2 combine second third))) ∧
      ∀ (words : List (List Char)) (characters : Array Char) (position : Nat),
        position ≤ characters.size → ∀ reply,
          (grammar.parse (.concat Value.add (.text []) (words.map .word))
              ⟨.text characters, position⟩).ending = .ok reply ↔
            (grammar.parse (.word words.flatten) ⟨.text characters, position⟩).ending = .ok reply := by
  refine ⟨?_, ?_, ?_, ?_⟩
  · intro early late give
    rcases List.forall_mem_append.mp give with ⟨giveEarly, giveLate⟩
    exact (sameEffect_concat_append monoid giveEarly giveLate).alike
  · intro parser gives
    have left := (sameEffect_identity_left monoid gives).alike
    exact ⟨left, left, (sameEffect_identity_right monoid gives).alike⟩
  · intro first second third firstGives secondGives thirdGives
    exact (sameEffect_assoc monoid firstGives secondGives thirdGives).alike
  · intro words characters position inside reply
    exact parse_concat_words_eq_ok_iff (Cursor.hasLeft_text characters position) inside words

private def abc : Source := .text #['a', 'b', 'c', '!']

/-- Three words are read and joined alike in one concatenation and in two, and like the one word that
they make. -/
theorem concat_monoid_words :
    empty.Alike (.concat Value.add (.text []) [.word ['a'], .word [], .word ['b', 'c']])
        (.lift2 Value.add (.concat Value.add (.text []) [.word ['a']])
          (.concat Value.add (.text []) [.word [], .word ['b', 'c']])) ∧
      (empty.parse (.concat Value.add (.text []) [.word ['a'], .word [], .word ['b', 'c']])
          ⟨abc, 0⟩).ending = .ok ⟨.text ['a', 'b', 'c'], ⟨abc, 3⟩⟩ := by
  have gives (characters : List Char) : empty.GivesOnly IsText (.word characters) := by
    intro cursor reply matched
    rcases readLiteral_eq_ok matched with ⟨_, _, _, rfl⟩
    exact ⟨characters, rfl⟩
  rcases concat_monoid empty isMonoid_text with ⟨cut, _, _, joined⟩
  constructor
  · apply cut [.word ['a']] [.word [], .word ['b', 'c']]
    intro parser member
    have isWord : parser ∈ [['a'], [], ['b', 'c']].map Parser.word := member
    rcases List.mem_map.mp isWord with ⟨characters, _, rfl⟩
    exact gives characters
  · exact (joined [['a'], [], ['b', 'c']] _ 0 (Nat.zero_le _) _).mpr rfl

end Grammar

end CursorParsing
