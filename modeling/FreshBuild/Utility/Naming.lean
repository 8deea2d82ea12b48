/-
# FreshBuild.Utility.Naming — names as complaints show them.

A complaint shows a file name between quotes, in a spelling that a shell would read back: single
quotes around what can be seen, double quotes if the name holds a single quote and nothing else of
note, and stretches of escapes for bytes that cannot be seen. Some complaints leave the quotes out as
long as nothing in the name asks for them.
-/
import FreshBuild.Task

namespace FreshBuild.Utility

/-- Text where bytes are wanted stands for its bytes. -/
scoped instance : Coe String Bytes := ⟨Utf8.ofString⟩

/-- A number in decimal. -/
def numeral (n : Nat) : Bytes := Utf8.ofString (Digits.text n)

/-- A byte that can be seen. -/
def isShown (b : UInt8) : Bool := 0x20 ≤ b && b < 0x7F

/-- The signs that mean something to a shell wherever they stand. -/
def shellSigns : Bytes := Utf8.ofString " !\"$&()*;<=>[^\x60|\\?'"

/-- The name cannot stand without quotes. -/
def needsQuotes (name : Bytes) : Bool :=
  name = [] || name = [0x7B] || name = [0x7D] ||
    name.head? = some 0x23 || name.head? = some 0x7E ||
    name.any fun b => !isShown b || shellSigns.contains b

/-- A byte that double quotes hide as well as single ones do. -/
def isHidden (b : UInt8) : Bool :=
  b == 0x20 || b == 0x27 ||
    isShown b && !shellSigns.contains b && b != 0x23 && b != 0x7E && b != 0x7B && b != 0x7D

/-- The name may stand between double quotes: it has a single quote, and nothing that double quotes
would not hide. A hash or a tilde at its front is harmless. -/
def suitsDoubleQuotes (name : Bytes) : Bool :=
  name.contains 0x27 &&
    (name.head?.any fun b => isHidden b || b == 0x23 || b == 0x7E) && name.tail.all isHidden

/-- A byte that cannot be seen, as an escape. -/
def escaped (b : UInt8) : Bytes :=
  match [(0x07, 'a'), (0x08, 'b'), (0x0C, 'f'), (0x0A, 'n'), (0x0D, 'r'), (0x09, 't'),
      (0x0B, 'v')].lookup b with
  | some c => [0x5C, c.toUInt8]
  | none => [0x5C, 0x30 + b / 64, 0x30 + b / 8 % 8, 0x30 + b % 8]

/-- The name between the outer single quotes; the flag tells whether a stretch of escapes is open. -/
def quotedBody : Bool → Bytes → Bytes
  | _, [] => []
  | isOpen, b :: rest =>
    if !isShown b then (if isOpen then [] else Utf8.ofString "'$'") ++ escaped b ++ quotedBody true rest
    else if b = 0x27 then Utf8.ofString "'\\''" ++ quotedBody false rest
    else (if isOpen then Utf8.ofString "''" else []) ++ b :: quotedBody false rest

/-- A name between quotes. -/
def quoted (name : Bytes) : Bytes :=
  if suitsDoubleQuotes name then 0x22 :: name ++ [0x22] else 0x27 :: quotedBody false name ++ [0x27]

/-- A name, between quotes only if it needs them. -/
def named (name : Bytes) : Bytes := if needsQuotes name then quoted name else name

/-- An argument between plain quotes, as complaints about arguments show it. -/
def cited (arg : Bytes) : Bytes :=
  0x27 :: arg.flatMap (fun b =>
    if b = 0x27 || b = 0x5C then [0x5C, b] else if isShown b then [b] else escaped b) ++ [0x27]

/-- The words a utility has for a failed operation. -/
def reason : Cause → Bytes
  | .system errno => Utf8.ofString errno.text
  | cause => Utf8.ofString cause.message

end FreshBuild.Utility
