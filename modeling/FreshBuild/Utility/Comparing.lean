/-
# FreshBuild.Utility.Comparing — whether two files are the same.

Files are compared byte by byte from a place in each of them on, and up to a number of bytes. What
differs first is told, or all that differs.
-/
import FreshBuild.Text.Numeral
import FreshBuild.Utility.Lines

namespace FreshBuild.Utility

/-- A size with a suffix for a multiple, and what follows it. -/
def sizeAt? (s : Bytes) : Option (Nat × Bytes) :=
  let digits := Numeral.digits 10 s
  let n := Numeral.value 10 digits
  let power (k : Nat) : Nat := (List.replicate k 1024).foldl (· * ·) 1
  match digits, s.drop digits.length with
  | [], _ => none
  | _, letter :: rest =>
    match (Utf8.ofString "KMGTPEZY").findIdx? fun c => c == letter || letter == 0x6B && c == 0x4B with
    | some k => some (n * power (k + 1), rest)
    | none => some (n, letter :: rest)
  | _, [] => some (n, [])

/-- The bytes to skip in the first and in the second file. -/
def skips? (s : Bytes) : Option (Nat × Nat) :=
  match sizeAt? s with
  | some (n, []) => some (n, n)
  | some (n, 0x3A :: rest) =>
    match sizeAt? rest with
    | some (m, []) => some (n, m)
    | _ => none
  | _ => none

/-- A byte as a complaint shows it: with a caret if it is a control, and a mark if its highest bit is
set. -/
def visible (b : UInt8) : Bytes :=
  let low := b % 128
  (if b ≥ 128 then Utf8.ofString "M-" else []) ++
    if low < 32 then [0x5E, low + 64] else if low = 127 then [0x5E, 0x3F] else [low]

/-- A byte in three octal digits. -/
def octalField (b : UInt8) : Bytes :=
  padded 3 (Utf8.ofString (String.ofList (Nat.toDigits 8 b.toNat)))

/-- What two files are compared for. -/
structure Comparison where
  names : Bytes × Bytes
  contents : Bytes × Bytes
  /-- The bytes that differ are shown. -/
  shown : Bool
  /-- The least of the sizes that are known beforehand. -/
  extent : Option Nat

namespace Comparison

/-- The line of a list of all differences. -/
def row (c : Comparison) (place : Nat) (a b : UInt8) : Bytes :=
  let width := match c.extent with
    | some n => (Digits.decimal n).length
    | none => 19
  let field (x : UInt8) (last : Bool) : Bytes :=
    octalField x ++ if !c.shown then [] else 0x20 :: visible x ++
      if last then [] else List.replicate (4 - (visible x).length) 0x20
  padded width (numeral place) ++ 0x20 :: field a false ++ 0x20 :: field b true ++ [0x0A]

/-- The line about the first difference, with the number of equal bytes before it. -/
def first (c : Comparison) (same : Nat) (a b : UInt8) : Bytes :=
  let line := (c.contents.1.take same).count 0x0A + 1
  c.names.1 ++ 0x20 :: c.names.2 ++ Utf8.ofString (if c.shown then " differ: byte " else " differ: char ") ++
    numeral (same + 1) ++ Utf8.ofString ", line " ++ numeral line ++
    (if c.shown then
      Utf8.ofString " is " ++ octalField a ++ 0x20 :: visible a ++ 0x20 :: octalField b ++
        0x20 :: visible b
    else []) ++ [0x0A]

/-- The complaint about a file that ends before the other one. -/
def early (c : Comparison) (withLine : Bool) : List Bytes :=
  let (name, content) := if c.contents.1.length < c.contents.2.length
    then (c.names.1, c.contents.1) else (c.names.2, c.contents.2)
  let ended := content.getLast? = some 0x0A
  let lines := content.count 0x0A
  let line : List Bytes := if !withLine then []
    else [if ended then ", line " else ", in line ", numeral (if ended then lines else lines + 1)]
  let place : List Bytes := if content = [] then [" which is empty"]
    else " after byte " :: numeral content.length :: line
  "EOF on " :: name :: place

end Comparison

/-- Compares two files that have been read. -/
def compareFiles (c : Comparison) (silent all : Bool) (w : Work) : Finish :=
  let (a, b) := c.contents
  let pairs := (a.zip b).zipIdx 1
  let differing := pairs.filter fun ((x, y), _) => x != y
  let ended (w : Work) : Finish :=
    if a.length = b.length then w.finishAtOnce
    else ((w.complain (c.early !all)).fail 1).finishAtOnce
  if a = b then w.finish
  else if silent then (w.fail 1).finish
  else match differing with
    | [] => ended w
    | ((x, y), n) :: _ =>
      if all then
        ended ((w.print (differing.flatMap fun ((x, y), n) => c.row n x y)).fail 1)
      else ((w.print (c.first (n - 1) x y)).fail 1).finish

/-- A size that is all of a text. -/
def wholeSize? (s : Bytes) : Option Nat :=
  match sizeAt? s with
  | some (n, []) => some n
  | _ => none

/-- The size that an operand behind the files gives, at least as large as the one an option gave. -/
def skipOperand (g : Given) (place standard : Nat) : Except (List Bytes) Nat :=
  match g.operands[place]? with
  | none => .ok standard
  | some text => match wholeSize? text with
    | some n => .ok (max n standard)
    | none => .error ["invalid --ignore-initial value ", cited text]

/-- The two files with the bytes to skip in each, and how many bytes are compared at most. -/
def comparedParts (t : Task) (g : Given) :
    Except (List Bytes) ((Bytes × Nat) × (Bytes × Nat) × Option Nat) := do
  let limit ← match g.value? 'n' with
    | none => .ok none
    | some text => match wholeSize? text with
      | some n => .ok (some n)
      | none => .error ["invalid --bytes value ", cited text]
  let (m, n) ← match g.value? 'i' with
    | none => .ok (0, 0)
    | some text => match skips? text with
      | some both => .ok both
      | none => .error ["invalid --ignore-initial value ", cited text]
  if g.has 'l' && g.has 's' then .error ["options -l and -s are incompatible"]
  match g.operands with
  | [] => .error ["missing operand after ", cited (t.args.getLast?.getD t.zero)]
  | a :: others =>
    let m ← skipOperand g 2 m
    let n ← skipOperand g 3 n
    match others[3]? with
    | some extra => .error ["extra operand ", cited extra]
    | none => return ((a, m), (others.head?.getD [0x2D], n), limit)

/-- What an operand leads to: its location, or nothing for the input, and its size if that is known. -/
def placeOf (t : Task) (operand : Bytes) : Except Cause (Option Location × Option Nat) :=
  if operand = [0x2D] then .ok (none, if t.fromFile then some t.input.length else none)
  else (t.disk.inspect true t.at_ ⟨operand⟩).map fun
    | (l, .file content _) => (some l, some content.length)
    | (l, _) => (some l, none)

/-- The program `cmp`. Its hint to the help is a complaint of its own. -/
def cmp (t : Task) : Finish :=
  let k : Known := ⟨"bls", "in", [("bytes", 'n', .value), ("ignore-initial", 'i', .value),
    ("print-bytes", 'b', .nothing), ("quiet", 's', .nothing), ("silent", 's', .nothing),
    ("verbose", 'l', .nothing)], false⟩
  match (readOptions k 0 t.args).bind fun g => (comparedParts t g).map fun parts => (g, parts) with
  | .error parts =>
    (((t.begin.complain parts).complain ["Try '", t.zero, " --help' for more information."]).fail
      2).finish
  | .ok (g, (a, m), (b, n), limit) =>
    let unread (w : Work) (name : Bytes) (cause : Cause) : Finish :=
      ((if g.has 's' && cause.isAbsence then w
        else w.complain [name, ": ", reason cause]).fail 2).finish
    let part (skipped : Nat) (content : Bytes) : Bytes :=
      let rest := content.drop skipped
      (limit.map rest.take).getD rest
    match placeOf t a, placeOf t b with
    | .error cause, _ => unread t.begin a cause
    | .ok _, .error cause => unread t.begin b cause
    | .ok (place, size), .ok (other, otherSize) =>
      if place == other && m = n then t.begin.finish
      else
        let (first, w) := t.begin.readOperand a
        let (second, w) := w.readOperand b
        match first, second with
        | .error cause, _ => unread w a cause
        | _, .error cause => unread w b cause
        | .ok x, .ok y =>
          let sizes := [size.map (· - m), otherSize.map (· - n), limit].filterMap id
          let c : Comparison := ⟨(a, b), (part m x, part n y), g.has 'b', sizes.min?⟩
          compareFiles c (g.has 's') (g.has 'l') w

end FreshBuild.Utility
