/-
# FreshBuild.Text.ByteSet — sets of bytes between brackets.

A set is a list of ranges, or all bytes outside of them. Between brackets a set is written as single
bytes, ranges with a hyphen and classes with a name; a closing bracket that comes first is a member.
-/
import FreshBuild.Text.Utf8

namespace FreshBuild

/-- A set of bytes. -/
structure ByteSet where
  negated : Bool
  ranges : List (UInt8 × UInt8)
deriving DecidableEq

namespace ByteSet

def contains (s : ByteSet) (b : UInt8) : Bool :=
  (s.ranges.any fun (low, high) => low ≤ b && b ≤ high) != s.negated

def single (b : UInt8) : ByteSet := ⟨false, [(b, b)]⟩

/-- The classes of bytes that have a name. -/
def classes : List (String × List (UInt8 × UInt8)) :=
  let lower : UInt8 × UInt8 := (0x61, 0x7A)
  let upper : UInt8 × UInt8 := (0x41, 0x5A)
  let digit : UInt8 × UInt8 := (0x30, 0x39)
  [ ("alpha", [lower, upper]), ("digit", [digit]), ("alnum", [lower, upper, digit])
  , ("upper", [upper]), ("lower", [lower]), ("space", [(0x20, 0x20), (0x09, 0x0D)])
  , ("blank", [(0x20, 0x20), (0x09, 0x09)])
  , ("punct", [(0x21, 0x2F), (0x3A, 0x40), (0x5B, 0x60), (0x7B, 0x7E)])
  , ("print", [(0x20, 0x7E)]), ("graph", [(0x21, 0x7E)]), ("cntrl", [(0x00, 0x1F), (0x7F, 0x7F)])
  , ("xdigit", [digit, (0x41, 0x46), (0x61, 0x66)]) ]

def class? (name : Bytes) : Option (List (UInt8 × UInt8)) :=
  classes.findSome? fun (n, ranges) => if Utf8.ofString n = name then some ranges else none

/-- The bytes of a word. -/
def word : ByteSet := ⟨false, [(0x61, 0x7A), (0x41, 0x5A), (0x30, 0x39), (0x5F, 0x5F)]⟩

/-- Blanks of all sorts. -/
def space : ByteSet := ⟨false, [(0x20, 0x20), (0x09, 0x0D)]⟩

def complement (s : ByteSet) : ByteSet := { s with negated := !s.negated }

/-- The other letter case of a byte. -/
def otherCase (b : UInt8) : UInt8 :=
  if 0x61 ≤ b && b ≤ 0x7A then b - 0x20 else if 0x41 ≤ b && b ≤ 0x5A then b + 0x20 else b

/-- The members between brackets, read up to the closing one; `isFirst` tells that nothing was read
yet. -/
def members : Nat → Bool → Bytes → Option (List (UInt8 × UInt8) × Bytes)
  | 0, _, _ | _, _, [] => none
  | fuel + 1, isFirst, b :: rest =>
    let more (ranges : List (UInt8 × UInt8)) (after : Bytes) :=
      (members fuel false after).map fun (others, after) => (ranges ++ others, after)
    if b = 0x5D && !isFirst then some ([], rest)
    else
      let named : Option (List (UInt8 × UInt8) × Bytes) :=
        if b = 0x5B && rest.head? = some 0x3A then
          let name := rest.tail.takeWhile (· != 0x3A)
          match rest.drop (name.length + 1), class? name with
          | 0x3A :: 0x5D :: after, some ranges => some (ranges, after)
          | _, _ => none
        else none
      match named, rest with
      | some (ranges, after), _ => more ranges after
      | none, 0x2D :: high :: after =>
        if high = 0x5D then more [(b, b)] rest else more [(b, high)] after
      | none, _ => more [(b, b)] rest

/-- A set, read after its opening bracket. One of `marks` right behind the bracket turns the set
around. -/
def read? (marks : Bytes) (s : Bytes) : Option (ByteSet × Bytes) :=
  match s with
  | b :: rest =>
    let negated := marks.contains b
    let body := if negated then rest else s
    (members (body.length + 1) true body).map fun (ranges, after) => (⟨negated, ranges⟩, after)
  | [] => none

end ByteSet

end FreshBuild
