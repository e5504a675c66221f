/-!
# Reading octets as UTF-8, with replacement

Ill-formed input never stops the reading: every maximal part of a character that turns out not to be
one is replaced by a single U+FFFD, and reading goes on with the octet that broke it.
-/

namespace CursorParsing.Text.Utf8

def replacement : Char := '\uFFFD'

/-- Where a reader stands between two octets: at the start of a character, or inside one that needs
`remaining + 1` more octets, of which the next must lie between `least` and `greatest`. -/
inductive State where
  | start
  | inside (bits remaining least greatest : Nat)
deriving DecidableEq, Repr

/-- What one octet completes, and the state after it. -/
structure Transition where
  characters : List Char
  next : State
deriving DecidableEq, Repr

/-- An octet at the start of a character. The bounds on the second octet leave out overlong forms,
surrogates and numbers above U+10FFFF. -/
def lead (octet : Nat) : Transition :=
  if octet < 0x80 then ⟨[Char.ofNat octet], .start⟩
  else if octet < 0xC2 then ⟨[replacement], .start⟩
  else if octet < 0xE0 then ⟨[], .inside (octet - 0xC0) 0 0x80 0xBF⟩
  else if octet = 0xE0 then ⟨[], .inside 0 1 0xA0 0xBF⟩
  else if octet = 0xED then ⟨[], .inside 0xD 1 0x80 0x9F⟩
  else if octet < 0xF0 then ⟨[], .inside (octet - 0xE0) 1 0x80 0xBF⟩
  else if octet = 0xF0 then ⟨[], .inside 0 2 0x90 0xBF⟩
  else if octet < 0xF4 then ⟨[], .inside (octet - 0xF0) 2 0x80 0xBF⟩
  else if octet = 0xF4 then ⟨[], .inside 4 2 0x80 0x8F⟩
  else ⟨[replacement], .start⟩

def State.step (octet : Nat) : State → Transition
  | .start => lead octet
  | .inside bits remaining least greatest =>
    if least ≤ octet ∧ octet ≤ greatest then
      let extended := bits * 64 + (octet - 0x80)
      match remaining with
      | 0 => ⟨[Char.ofNat extended], .start⟩
      | later + 1 => ⟨[], .inside extended later 0x80 0xBF⟩
    else
      let restart := lead octet
      ⟨replacement :: restart.characters, restart.next⟩

def decodeFrom : State → List UInt8 → List Char
  | .start, [] => []
  | .inside .., [] => [replacement]
  | state, octet :: rest =>
    let transition := state.step octet.toNat
    transition.characters ++ decodeFrom transition.next rest

def decode (octets : List UInt8) : List Char := decodeFrom .start octets

example : decode [0x61, 0xc3, 0xa9] = ['a', 'é'] := by decide
example : decode [0xed, 0xa0, 0x80] = [replacement, replacement, replacement] := by decide
example : decode [0xf0, 0x9f, 0x98] = [replacement] := by decide

end CursorParsing.Text.Utf8
