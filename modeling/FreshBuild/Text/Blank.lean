/-
# FreshBuild.Text.Blank — Unicode white space.

A job count may be surrounded by white space and a program name must not consist of it. Both use the
Unicode property `White_Space`, which is wider than the four ASCII characters of `Char.isWhitespace`.
-/

namespace FreshBuild

namespace Blank

/-- The 25 code points with the Unicode property `White_Space`. -/
def isBlank (c : Char) : Bool :=
  let n := c.toNat
  (0x09 ≤ n && n ≤ 0x0D) || n == 0x20 || n == 0x85 || n == 0xA0 || n == 0x1680 ||
    (0x2000 ≤ n && n ≤ 0x200A) || n == 0x2028 || n == 0x2029 || n == 0x202F || n == 0x205F ||
    n == 0x3000

/-- A character list without the white space at its end. -/
def trimRight (cs : List Char) : List Char :=
  (cs.reverse.dropWhile isBlank).reverse

/-- A character list without the white space at both ends. -/
def trim (cs : List Char) : List Char :=
  trimRight (cs.dropWhile isBlank)

/-- Nothing but white space; the empty text counts. -/
def isBlankText (text : String) : Bool :=
  text.toList.all isBlank

end Blank

end FreshBuild
