import CursorParsing.Proofs.LookingAhead
import CursorParsing.Proofs.Taking
import CursorParsing.Proofs.Utf8Reading

/-!
# Snippets

A snippet shows what is ahead up to a limit, and marks by an ellipsis that there is more. In texts and octets
there is nothing that could not be shown. Of a text it shows the characters themselves. Of octets it shows the text that they spell, which never has more characters than
there are octets; where the limit cuts a character, a replacement stands for its beginning.
-/

namespace CursorParsing.Cursor

open Text

/-- A cursor in octets of either kind, or past their end, with these octets left. -/
def HasLeftOctets (cursor : Cursor) (left : List UInt8) : Prop :=
  cursor.remaining.toValue = .bytes left ∨ cursor.remaining.toValue = .buffer left

variable {cursor : Cursor} (limit : Nat)

theorem hasLeftOctets_iff {left : List UInt8} :
    cursor.HasLeftOctets left ↔
      ∃ octets, (cursor.source = .bytes octets ∨ cursor.source = .buffer octets) ∧
        left = octets.toList.drop cursor.position := by
  rcases cursor with ⟨source, position⟩
  have all (octets : Array UInt8) : (octets.toList.drop position).take (octets.size - position) =
      octets.toList.drop position := List.take_of_length_le (by simp)
  cases source <;>
    simp [HasLeftOctets, remaining, Source.slice, Source.size, Source.toValue, all, eq_comm]

/-! ## What is shown -/

theorem snippet?_natCast (writable : cursor.source.isWritable = true) :
    cursor.snippet? limit =
      .ok (bodyOf (cursor.sliceAhead limit) ++ if limit < cursor.length then ellipsis else []) := by
  have showable : cursor.isShowable limit = true := isShowable_of_isWritable writable
  simp only [snippet?, showable, if_true, snippet, Int.ofNat_lt]

theorem bodyOf_sliceAhead_text {left : List Char} (here : cursor.HasLeft left) :
    bodyOf (cursor.sliceAhead limit) = left.take limit := by
  rcases hasLeft_iff.mp here with ⟨characters, isText, rfl⟩
  simp [sliceAhead_natCast, isText, Source.slice, bodyOf]

theorem bodyOf_sliceAhead_octets {left : List UInt8} (here : cursor.HasLeftOctets left) :
    bodyOf (cursor.sliceAhead limit) = Utf8.decode (left.take limit) := by
  rcases hasLeftOctets_iff.mp here with ⟨octets, areBytes | areBuffer, rfl⟩
  · simp [sliceAhead_natCast, areBytes, Source.slice, bodyOf]
  · simp [sliceAhead_natCast, areBuffer, Source.slice, bodyOf]

theorem HasLeftOctets.length_eq {left : List UInt8} (here : cursor.HasLeftOctets left) :
    left.length = cursor.length := by
  rcases hasLeftOctets_iff.mp here with ⟨octets, areBytes | areBuffer, rfl⟩
  · simp [length, areBytes, Source.size]
  · simp [length, areBuffer, Source.size]

theorem HasLeftOctets.isWritable {left : List UInt8} (here : cursor.HasLeftOctets left) :
    cursor.source.isWritable = true := by
  rcases hasLeftOctets_iff.mp here with ⟨octets, areBytes | areBuffer, _⟩
  · rw [areBytes, Source.isWritable_bytes]
  · rw [areBuffer, Source.isWritable_buffer]

/-- There is a snippet of any text and of any octets. Its body is no longer than the limit, and an ellipsis follows it if and only if more is left
than the limit. In a text the body is made of the first characters that are left; in octets it is the one
text that the first octets spell, so octets that a text is encoded as show that text, if there are no more
of them than the limit. -/
theorem snippet_faithful (cursor : Cursor) (limit : Nat) :
    (∀ left, cursor.HasLeft left →
        ∃ body, cursor.snippet? limit =
            .ok (body ++ (if limit < cursor.length then ['.', '.', '.'] else [])) ∧
          body.length ≤ limit ∧ body = left.take (min limit cursor.length)) ∧
      ∀ left, cursor.HasLeftOctets left →
        (∃ body, cursor.snippet? limit =
            .ok (body ++ (if limit < cursor.length then ['.', '.', '.'] else [])) ∧
          body.length ≤ limit ∧
          ∀ text, Utf8.Spells (left.take (min limit cursor.length)) text ↔ text = body) ∧
        ∀ text, left = Utf8.encode text → left.length ≤ limit → cursor.snippet? limit = .ok text := by
  constructor
  · intro left here
    refine ⟨left.take limit, ?_, List.length_take_le _ _, ?_⟩
    · rw [snippet?_natCast limit here.isWritable, bodyOf_sliceAhead_text limit here]
      rfl
    · rw [← here.length_eq, List.take_eq_take_min]
  · intro left here
    have shown := snippet?_natCast limit here.isWritable
    rw [bodyOf_sliceAhead_octets limit here] at shown
    refine ⟨⟨_, shown, ?_, ?_⟩, ?_⟩
    · have spells := Utf8.decode_eq_iff.mp (Eq.refl (Utf8.decode (left.take limit)))
      exact Nat.le_trans spells.length_le (List.length_take_le _ _)
    · intro text
      rw [← here.length_eq, ← List.take_eq_take_min, ← Utf8.decode_eq_iff, eq_comm]
    · intro text isEncoded within
      have noMore : ¬limit < cursor.length := by
        rw [← here.length_eq]
        omega
      have decoded : Utf8.decode (Utf8.encode text) = text :=
        Utf8.decode_eq_iff.mpr (Utf8.spells_encode text)
      rw [shown, if_neg noMore, List.append_nil, List.take_of_length_le within, isEncoded, decoded]

/-- An `a`, a character of four octets, and a `b`. -/
private def mixedWidths : Source := .bytes #[0x61, 0xF0, 0x9F, 0x98, 0x80, 0x62]

/-- A limit in the middle of a character shows that its beginning was there; with enough room the whole
character is shown, and no replacement. -/
theorem snippet_faithful_cut :
    (⟨mixedWidths, 1⟩ : Cursor).snippet? 3 = .ok [Utf8.replacement, '.', '.', '.'] ∧
      (⟨mixedWidths, 1⟩ : Cursor).snippet? 5 = .ok ['😀', 'b'] := by
  have here : (⟨mixedWidths, 1⟩ : Cursor).HasLeftOctets [0xF0, 0x9F, 0x98, 0x80, 0x62] := .inl rfl
  constructor
  · rcases ((snippet_faithful _ 3).2 _ here).1 with ⟨body, shown, _, spells⟩
    have isBody : [Utf8.replacement] = body :=
      (spells _).mp (Utf8.decode_eq_iff.mp (by decide))
    exact shown.trans (isBody ▸ rfl)
  · exact ((snippet_faithful _ 5).2 _ here).2 ['😀', 'b'] (by decide) (by decide)

end CursorParsing.Cursor
