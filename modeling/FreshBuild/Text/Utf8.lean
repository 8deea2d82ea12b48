/-
# FreshBuild.Text.Utf8 — byte strings and the text they may hold.

Names, arguments and file contents are byte strings. Most of them are UTF-8, none of them has to be.
This module reads a byte string as a sequence of pieces: a character, or one maximal ill-formed
stretch. Two views are taken from that one reading. `decode?` is strict and refuses a byte string
with any ill-formed stretch; `lossy` never refuses and shows each stretch as U+FFFD. Since both come
from `pieces`, they agree on every well-formed byte string.

The reader is a finite automaton over bytes (`State`, `step`), so `pieces` is one structural pass.
-/

namespace FreshBuild

/-- A byte string. -/
abbrev Bytes := List UInt8

namespace Utf8

/-! ## The automaton -/

/-- Where the reader stands: between characters, or inside one. Inside, the next byte must lie in
`lo … hi`, `more` further continuation bytes follow it, and `value` holds the bits read so far. -/
inductive State where
  | start
  | inside (lo hi : UInt8) (more value : Nat)
deriving DecidableEq

/-- The first byte of a character. The ranges keep out over-long forms, surrogates and values above
U+10FFFF already at the second byte, which is what makes an ill-formed stretch maximal. -/
def lead (b : UInt8) : List (Option Char) × State :=
  if b < 0x80 then ([some (Char.ofNat b.toNat)], .start)
  else if b < 0xC2 then ([none], .start)
  else if b < 0xE0 then ([], .inside 0x80 0xBF 0 (b.toNat - 0xC0))
  else if b < 0xF0 then
    ([], .inside (if b = 0xE0 then 0xA0 else 0x80) (if b = 0xED then 0x9F else 0xBF) 1
      (b.toNat - 0xE0))
  else if b < 0xF5 then
    ([], .inside (if b = 0xF0 then 0x90 else 0x80) (if b = 0xF4 then 0x8F else 0xBF) 2
      (b.toNat - 0xF0))
  else ([none], .start)

/-- One byte. A byte that cannot continue the open character closes it as ill-formed and is then
read as a first byte itself. -/
def step : State → UInt8 → List (Option Char) × State
  | .start, b => lead b
  | .inside lo hi more value, b =>
    if lo ≤ b ∧ b ≤ hi then
      match more with
      | 0 => ([some (Char.ofNat (value * 64 + (b.toNat - 0x80)))], .start)
      | more + 1 => ([], .inside 0x80 0xBF more (value * 64 + (b.toNat - 0x80)))
    else
      (none :: (lead b).1, (lead b).2)

/-- The pieces of a byte string read from state `s`; `none` stands for an ill-formed stretch. -/
def pieces : State → Bytes → List (Option Char)
  | .start, [] => []
  | .inside .., [] => [none]
  | s, b :: rest => (step s b).1 ++ pieces (step s b).2 rest

/-! ## The two views, and the way back -/

/-- The characters of a well-formed byte string. -/
def decode? (bytes : Bytes) : Option (List Char) :=
  (pieces .start bytes).mapM id

/-- The byte string as it is shown to a reader: every ill-formed stretch becomes U+FFFD. -/
def lossy (bytes : Bytes) : String :=
  String.ofList ((pieces .start bytes).map (·.getD '\uFFFD'))

/-- The bytes of a character list. -/
def encode (chars : List Char) : Bytes :=
  chars.flatMap String.utf8EncodeChar

/-- The bytes of a string. -/
def ofString (text : String) : Bytes :=
  encode text.toList

end Utf8

end FreshBuild
