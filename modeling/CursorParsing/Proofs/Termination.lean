import CursorParsing.Proofs.Finishing
import CursorParsing.Proofs.Guardedness

/-!
# Guarded grammars finish

A loop ends because each of its rounds but the last reads something. A guarded reference is followed
with less input than there was, an unguarded one leads to a lower rank, and everything else is smaller
than what it is a part of.
-/

namespace CursorParsing.Grammar

variable {grammar : Grammar}

/-! ## Loops -/

section Loops

variable {inner : Parser} {attempt : Cursor → Run Reply} (advances : Advances attempt)

include advances

theorem collects_collect (bound : Nat) (cursor : Cursor) (enough : cursor.length < bound)
    (finishes : ∀ stop, cursor.ReachesTo stop → grammar.Finishes inner stop (attempt stop)) :
    grammar.Collects inner cursor (collect attempt bound cursor) := by
  induction bound generalizing cursor with
  | zero => exact absurd enough (Nat.not_lt_zero _)
  | succ bound induction =>
      rw [collect_succ]
      refine .round (finishes cursor (.refl cursor)) ?_
      intro reply matched moves
      have reaches := advances cursor reply matched
      have shorter := reaches.length_lt moves
      apply induction reply.cursor (by omega)
      intro stop onward
      exact finishes stop (reaches.trans onward)

theorem collects_collectAll (cursor : Cursor)
    (finishes : ∀ stop, cursor.ReachesTo stop → grammar.Finishes inner stop (attempt stop)) :
    grammar.Collects inner cursor (collectAll attempt cursor) :=
  collects_collect advances _ cursor (Nat.lt_succ_self _) finishes

theorem collectsUpTo_collectUpTo (rounds : Nat) (cursor : Cursor)
    (finishes : ∀ stop, cursor.ReachesTo stop → grammar.Finishes inner stop (attempt stop)) :
    grammar.CollectsUpTo inner (some rounds) cursor (collectUpTo attempt rounds cursor) := by
  induction rounds generalizing cursor with
  | zero => exact .enough inner cursor
  | succ rounds induction =>
      rw [collectUpTo_succ]
      refine .round (finishes cursor (.refl cursor)) ?_
      intro reply matched
      have reaches := advances cursor reply matched
      apply induction reply.cursor
      intro stop onward
      exact finishes stop (reaches.trans onward)

end Loops

/-! ## Parsers -/

/-- The references that a parser may follow from a cursor finish: those that are exposed wherever they
are met, the others where something has been read. -/
structure Supports (grammar : Grammar) (depth : Nat) (parser : Parser) (cursor : Cursor) : Prop where
  exposed : ∀ name stop, grammar.Exposes name parser → cursor.ReachesTo stop →
    grammar.Finishes (.reference name) stop (grammar.invoke ⟨.reference name, stop, depth⟩)
  guarded : ∀ name stop, grammar.Mentions name parser → cursor.ReachesTo stop →
    stop.length < cursor.length →
      grammar.Finishes (.reference name) stop (grammar.invoke ⟨.reference name, stop, depth⟩)

namespace Supports

variable {depth : Nat} {cursor : Cursor}

theorem onward {parser : Parser} {stop : Cursor} (supports : grammar.Supports depth parser cursor)
    (reaches : cursor.ReachesTo stop) : grammar.Supports depth parser stop where
  exposed name further exposes onward :=
    supports.exposed name further exposes (reaches.trans onward)
  guarded name further mentions onward shorter :=
    supports.guarded name further mentions (reaches.trans onward)
      (Nat.lt_of_lt_of_le shorter reaches.length_le)

theorem part {part whole : Parser} (supports : grammar.Supports depth whole cursor)
    (exposes : ∀ name, grammar.Exposes name part → grammar.Exposes name whole)
    (mentions : ∀ name, grammar.Mentions name part → grammar.Mentions name whole) :
    grammar.Supports depth part cursor where
  exposed name stop inPart := supports.exposed name stop (exposes name inPart)
  guarded name stop inPart := supports.guarded name stop (mentions name inPart)

/-- If the first parser has to read something, what follows it meets all its references with less
input. -/
theorem next {first : Parser} {next : Value → Parser} {reply : Reply}
    (supports : grammar.Supports depth (.flatMap first next) cursor)
    (matched : (grammar.invoke ⟨first, cursor, depth⟩).ending = .ok reply) :
    grammar.Supports depth (next reply.value) reply.cursor := by
  have given : grammar.Gives first reply.value := ⟨cursor, depth, reply, matched, rfl⟩
  have reaches : cursor.ReachesTo reply.cursor :=
    grammar.advances_step depth first cursor reply matched
  have mentions (name : String) (inNext : grammar.Mentions name (next reply.value)) :
      grammar.Mentions name (.flatMap first next) := .inr ⟨trivial, reply.value, given, inNext⟩
  constructor
  · intro name stop exposes onward
    by_cases consumes : grammar.MustConsume first
    · have moves := Nat.ne_of_gt (consumes.position_lt matched)
      have shorter := reaches.length_lt moves
      have noLonger := onward.length_le
      exact supports.guarded name stop (mentions name exposes.mentions) (reaches.trans onward)
        (by omega)
    · have inWhole : grammar.Exposes name (.flatMap first next) :=
        .inr ⟨consumes, reply.value, given, exposes⟩
      exact supports.exposed name stop inWhole (reaches.trans onward)
  · intro name stop inNext onward shorter
    exact supports.guarded name stop (mentions name inNext) (reaches.trans onward)
      (Nat.lt_of_lt_of_le shorter reaches.length_le)

theorem finishes {parser : Parser} (supports : grammar.Supports depth parser cursor)
    (counted : grammar.Counted parser) :
    grammar.Finishes parser cursor (grammar.invoke ⟨parser, cursor, depth⟩) := by
  have advances := grammar.advances_step depth
  induction parser generalizing cursor with
  | pure value => exact .pure value cursor
  | raise error => exact .raise error cursor
  | symbolThat accepts => exact .symbolThat accepts cursor
  | literal expected => exact .literal expected cursor
  | endOfInput => exact .endOfInput cursor
  | flatMap first next firstFinishes nextFinishes =>
      have inFirst : grammar.Supports depth first cursor :=
        supports.part (fun _ => .inl) (fun _ => .inl)
      refine .flatMap (firstFinishes inFirst counted.1) ?_
      intro reply matched
      have given : grammar.Gives first reply.value := ⟨cursor, depth, reply, matched, rfl⟩
      exact nextFinishes reply.value (supports.next matched) (counted.2 reply.value given)
  | orElse first second firstFinishes secondFinishes =>
      have inFirst : grammar.Supports depth first cursor :=
        supports.part (fun _ => .inl) (fun _ => .inl)
      have inSecond : grammar.Supports depth second cursor :=
        supports.part (fun _ => .inr) (fun _ => .inr)
      exact .orElse (firstFinishes inFirst counted.1) fun _ _ => secondFinishes inSecond counted.2
  | zeroOrMore inner innerFinishes =>
      have inInner : grammar.Supports depth inner cursor := supports.part (fun _ => id) (fun _ => id)
      apply Finishes.zeroOrMore
      apply collects_collectAll (advances inner)
      intro stop reaches
      exact innerFinishes (inInner.onward reaches) counted
  | oneOrMore inner innerFinishes =>
      have inInner : grammar.Supports depth inner cursor := supports.part (fun _ => id) (fun _ => id)
      simp only [invoke, Parser.step, collectSome_eq]
      refine .oneOrMore (innerFinishes inInner counted) ?_
      intro reply matched _
      have reaches := advances inner cursor reply matched
      apply collects_collectAll (advances inner)
      intro stop onward
      exact innerFinishes (inInner.onward (reaches.trans onward)) counted
  | repeated inner count innerFinishes =>
      have inInner : grammar.Supports depth inner cursor := supports.part (fun _ => id) (fun _ => id)
      have collects : grammar.CollectsUpTo inner count.rounds cursor
          (collectCounted (inner.step (grammar.resolve depth)) count.rounds cursor) := by
        rcases rounds : count.rounds with _ | rounds
        · exact absurd rounds counted.1
        · apply collectsUpTo_collectUpTo (advances inner)
          intro stop reaches
          exact innerFinishes (inInner.onward reaches) counted.2
      exact .repeated collects
  | named name inner innerFinishes =>
      have inInner : grammar.Supports depth inner cursor := supports.part (fun _ => id) (fun _ => id)
      exact .named (innerFinishes inInner counted)
  | traced tag inner innerFinishes =>
      have inInner : grammar.Supports depth inner cursor := supports.part (fun _ => id) (fun _ => id)
      exact .traced (innerFinishes inInner counted)
  | reference name => exact supports.exposed name cursor rfl (.refl cursor)

end Supports

/-! ## Grammars -/

/-- The depth that suffices for a name: by its rank, and once more through all definitions for each
symbol that is left. -/
theorem Guarded.finishes_reference (guarded : grammar.Guarded) (depth : Nat) (name : String)
    (cursor : Cursor)
    (enough : grammar.rank name + grammar.definitions.length * cursor.length < depth) :
    grammar.Finishes (.reference name) cursor (grammar.invoke ⟨.reference name, cursor, depth⟩) := by
  induction depth generalizing name cursor with
  | zero => exact absurd enough (Nat.not_lt_zero _)
  | succ depth induction =>
      simp only [invoke, Parser.step, resolve]
      rcases found : grammar.find? name with _ | parser
      · exact .missing cursor found
      · apply Finishes.reference found
        have supports : grammar.Supports depth parser cursor := by
          constructor
          · -- As much may be left as before, but the rank is lower.
            intro other stop exposes reaches
            have lower := guarded.rank_lt ⟨parser, found, exposes⟩
            have noMore := Nat.mul_le_mul_left grammar.definitions.length reaches.length_le
            exact induction other stop (by omega)
          · -- Any rank will do, for a symbol fewer leaves room for all definitions.
            intro other stop _ _ shorter
            have atMost := grammar.rank_le other
            have fewer := Nat.mul_le_mul_left grammar.definitions.length (Nat.succ_le_of_lt shorter)
            have positive := rank_pos found
            rw [Nat.mul_succ] at fewer
            exact induction other stop (by omega)
        exact supports.finishes (guarded.counted name parser found)

/-- In a guarded grammar every parser finishes wherever it begins, and so does a parser without
references in any grammar, whatever its loops repeat. What it finishes with is what parsing gives. -/
theorem finishes_iff (grammar : Grammar) (parser : Parser) (cursor : Cursor)
    (guarded : grammar.Guarded ∨ ∀ name, ¬grammar.Mentions name parser)
    (counted : grammar.Counted parser) (run : Run Reply) :
    grammar.Finishes parser cursor run ↔ run = grammar.parse parser cursor := by
  have supports : grammar.Supports (grammar.depthFrom cursor) parser cursor := by
    rcases guarded with guarded | mentionsNone
    · have follows (name : String) (stop : Cursor) (reaches : cursor.ReachesTo stop) :
          grammar.Finishes (.reference name) stop
            (grammar.invoke ⟨.reference name, stop, grammar.depthFrom cursor⟩) := by
        have atMost := grammar.rank_le name
        have noMore := Nat.mul_le_mul_left grammar.definitions.length reaches.length_le
        apply guarded.finishes_reference
        rw [depthFrom, Nat.mul_succ]
        omega
      exact ⟨fun name stop _ => follows name stop, fun name stop _ reaches _ => follows name stop reaches⟩
    · exact ⟨fun name _ exposes => absurd exposes.mentions (mentionsNone name),
        fun name _ mentions => absurd mentions (mentionsNone name)⟩
  have finishes := supports.finishes counted
  constructor
  · intro other
    exact other.unique finishes
  · rintro rfl
    exact finishes

/-- A list within a list is read to the end. -/
theorem finishes_iff_item :
    Nesting.lists.Finishes (.reference "item") (.start (.text #['[', '[', ']', '1', ']']))
      (Nesting.lists.parse (.reference "item") (.start (.text #['[', '[', ']', '1', ']']))) := by
  have counted : Nesting.lists.Counted (.reference "item") := trivial
  exact (Nesting.lists.finishes_iff _ _ (.inl Nesting.lists_guarded) counted _).mpr rfl

end CursorParsing.Grammar
