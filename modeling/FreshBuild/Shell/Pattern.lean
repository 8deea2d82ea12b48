/-
# FreshBuild.Shell.Pattern — patterns of words and file names.

A star stands for any text, a question mark for any character and brackets for one of a set. A quoted
character stands for itself. In a file name a pattern stands for all names that it matches, and a dot
at the front of a name has to be spelled out.
-/
import FreshBuild.Disk.Operations
import FreshBuild.Shell.Script
import FreshBuild.Text.ByteSet

namespace FreshBuild.Shell

/-- A character of an expanded word. -/
structure Glyph where
  char : Char
  quoted : Bool
deriving DecidableEq

/-- A character has the meaning that it has without quotes. -/
def Glyph.isSign (g : Glyph) (c : Char) : Bool := g.char == c && !g.quoted

/-- The bytes that glyphs spell. -/
def glyphBytes (gs : List Glyph) : Bytes := gs.map fun g => g.char.toUInt8

/-! ## Sets -/

/-- The members of a set, read up to its closing bracket. -/
def setMembers : Nat → Bool → List Glyph → Option (List (UInt8 × UInt8) × List Glyph)
  | 0, _, _ | _, _, [] => none
  | fuel + 1, isFirst, g :: rest =>
    let more (ranges : List (UInt8 × UInt8)) (after : List Glyph) :=
      (setMembers fuel false after).map fun (others, after) => (ranges ++ others, after)
    if g.isSign ']' && !isFirst then some ([], rest)
    else
      let named : Option (List (UInt8 × UInt8) × List Glyph) :=
        match g.isSign '[', rest with
        | true, ⟨':', _⟩ :: body =>
          let name := body.takeWhile (·.char != ':')
          match body.drop name.length, ByteSet.class? (glyphBytes name) with
          | ⟨':', _⟩ :: ⟨']', _⟩ :: after, some ranges => some (ranges, after)
          | _, _ => none
        | _, _ => none
      let b := g.char.toUInt8
      match named, rest with
      | some (ranges, after), _ => more ranges after
      | none, dash :: high :: after =>
        if dash.isSign '-' && !high.isSign ']' then more [(b, high.char.toUInt8)] after
        else more [(b, b)] rest
      | none, _ => more [(b, b)] rest

/-- A set, read behind its opening bracket. -/
def set? (gs : List Glyph) : Option (ByteSet × List Glyph) :=
  let negated := gs.head?.any (·.isSign '!')
  let body := if negated then gs.tail else gs
  (setMembers (body.length + 1) true body).map fun (ranges, after) => (⟨negated, ranges⟩, after)

/-! ## Matching -/

/-- A pattern matches all of a text. Every step costs one unit of `fuel`. -/
def matchesAll : Nat → List Glyph → Bytes → Bool
  | 0, _, _ => false
  | _, [], s => s.isEmpty
  | fuel + 1, g :: rest, s =>
    if g.isSign '*' then
      matchesAll fuel rest s ||
        match s with
        | [] => false
        | _ :: s => matchesAll fuel (g :: rest) s
    else match s with
      | [] => false
      | b :: s =>
        if g.isSign '?' then matchesAll fuel rest s
        else
          let set := if g.isSign '[' then set? rest else none
          match set with
          | some (set, after) => set.contains b && matchesAll fuel after s
          | none => g.char.toUInt8 == b && matchesAll fuel rest s

/-- A pattern matches all of a text. -/
def Glyph.matches (pattern : List Glyph) (s : Bytes) : Bool :=
  matchesAll (pattern.length + s.length + 1) pattern s

/-- A text without the part at its front or end that a pattern matches. -/
def trimmed (atEnd longest : Bool) (pattern : List Glyph) (s : Bytes) : Bytes :=
  let sizes := List.range (s.length + 1)
  let sizes := if longest then sizes.reverse else sizes
  let fits (n : Nat) : Bool :=
    Glyph.matches pattern (if atEnd then s.drop (s.length - n) else s.take n)
  match sizes.find? fits with
  | some n => if atEnd then s.take (s.length - n) else s.drop n
  | none => s

/-! ## File names -/

/-- A pattern has a sign that could make it stand for something else. -/
def hasSigns (gs : List Glyph) : Bool :=
  gs.any fun g => g.isSign '*' || g.isSign '?' || g.isSign '['

/-- The stretches of a pattern between slashes. -/
def stretchesOf (gs : List Glyph) : List (List Glyph) :=
  gs.foldr (fun g parts => match parts with
    | part :: rest => if g.char = '/' then [] :: part :: rest else (g :: part) :: rest
    | [] => [[g]]) [[]]

/-- The paths that stretches of a pattern stand for behind a path that was found. A stretch without
signs is taken as it is, and only the whole path has to lead somewhere. -/
def pathsOf (d : Disk) (at_ : Location) : Bytes → List (List Glyph) → List Bytes
  | found, [] => if (d.inspect false at_ ⟨found⟩).toOption.isSome then [found] else []
  | found, part :: rest =>
    let slash : Bytes := if rest = [] then [] else [Path.slash]
    if !hasSigns part then pathsOf d at_ (found ++ glyphBytes part ++ slash) rest
    else
      match d.enter at_ (if found = [] then ⟨Path.here⟩ else ⟨found⟩) with
      | .error _ => []
      | .ok l =>
        let showsHidden := part.head?.any (·.char == '.')
        let names := ((d.children l) ++ [Path.here, Path.up]).filter fun n =>
          Glyph.matches part n && (showsHidden || n.head? != some Path.dot)
        names.flatMap fun n =>
          let path := found ++ n
          if rest = [] then [path]
          else if (d.enter at_ ⟨path⟩).toOption.isSome then pathsOf d at_ (path ++ slash) rest
          else []

/-- The file names that a pattern stands for, in order. A pattern without any stands for itself. -/
def fileNames (d : Disk) (at_ : Location) (gs : List Glyph) : List Bytes :=
  if !hasSigns gs then [glyphBytes gs]
  else match pathsOf d at_ [] (stretchesOf gs) with
    | [] => [glyphBytes gs]
    | names => names.mergeSort fun a b => !decide (b < a)

end FreshBuild.Shell
