/-
# FreshBuild.Utility.Sorting — lines in order.

Lines are compared by keys, each a part of the line with a manner of comparing it; lines that all keys
find equal are compared as a whole. A manner is a set of letters. Some of them say what a part is read
as, a number or a month, and of those there may be one only.
-/
import FreshBuild.Text.Numeral
import FreshBuild.Utility.Lines

namespace FreshBuild.Utility

/-- A byte that separates fields unless another one does. -/
def isBlank (b : UInt8) : Bool := b == 0x20 || b == 0x09

/-- A letter in upper case. -/
def upperCase (b : UInt8) : UInt8 := if 0x61 ≤ b && b ≤ 0x7A then b - 0x20 else b

/-! ## Parts as numbers and months -/

/-- A decimal at the front of a text: its digits, and how many of them are places. -/
def decimalAt (s : Bytes) : Int × Nat :=
  let body := s.dropWhile isBlank
  let (negative, digits) : Bool × Bytes := match body with
    | 0x2D :: rest => (true, rest)
    | body => (false, body)
  let whole := Numeral.digits 10 digits
  let places := match digits.drop whole.length with
    | 0x2E :: rest => Numeral.digits 10 rest
    | _ => []
  (Numeral.signed negative (Numeral.value 10 (whole ++ places)), places.length)

/-- Decimals by value. -/
def compareDecimals (a b : Bytes) : Ordering :=
  let (x, p) := decimalAt a
  let (y, q) := decimalAt b
  let power (n : Nat) : Int := Int.ofNat (Nat.pow 10 n)
  compare (x * power q) (y * power p)

/-- Reals by value: behind what is no real come those that are no numbers, and then the numbers. -/
def compareReals (a b : Bytes) : Ordering :=
  let read (s : Bytes) := (Numeral.real? s).map Prod.fst
  let rank : Option Numeral.Real → Nat
    | none => 0
    | some (.nan _) => 1
    | some (.infinite negative) => if negative then 2 else 4
    | some (.finite ..) => 3
  match read a, read b with
  | some (.finite m p), some (.finite n q) =>
    compare (Numeral.signed m (p.num * q.den)) (Numeral.signed n (q.num * p.den))
  | x, y => compare (rank x) (rank y)

/-- The place of a size among the sizes, told by its sign and the letter behind its digits. -/
def sizeOrder (s : Bytes) : Int :=
  let body := s.dropWhile isBlank
  let negative := body.head? = some 0x2D
  let number := (if negative then body.tail else body).takeWhile fun b =>
    Numeral.isDigit b || b == 0x2E
  let letter := (if negative then body.tail else body).drop number.length |>.head?
  let order := (letter.bind fun b => (Utf8.ofString "kMGTPEZYRQ").findIdx? fun c =>
    c == b || b == 0x4B && c == 0x6B).map (· + 1)
  if number.all fun b => b == 0x30 || b == 0x2E then 0
  else Numeral.signed negative (order.getD 0)

/-- The number of the month that a text begins with. -/
def monthAt (s : Bytes) : Nat :=
  let name := ((s.dropWhile isBlank).take 3).map upperCase
  let months := ["JAN", "FEB", "MAR", "APR", "MAY", "JUN", "JUL", "AUG", "SEP", "OCT", "NOV", "DEC"]
  (months.findIdx? fun month => Utf8.ofString month = name).elim 0 (· + 1)

/-! ## Keys -/

/-- How parts of lines are compared: the letters, and whether blanks are skipped where a part starts
and where it ends. -/
structure Manner where
  letters : List Char
  skipsFirst : Bool
  skipsLast : Bool

namespace Manner

def plain : Manner := ⟨[], false, false⟩

def has (m : Manner) (c : Char) : Bool := m.letters.contains c

/-- The manner with more letters, written at the start or the end of a part. -/
def add (m : Manner) (atStart atEnd : Bool) (letters : List Char) : Manner where
  letters := m.letters ++ letters.filter (· != 'b')
  skipsFirst := m.skipsFirst || atStart && letters.contains 'b'
  skipsLast := m.skipsLast || atEnd && letters.contains 'b'

/-- Nothing is said about the comparison but perhaps its direction. -/
def isPlain (m : Manner) : Bool := !m.skipsFirst && !m.skipsLast && m.letters.all (· == 'r')

/-- The letters of a manner that asks for two things at once, in their order. -/
def conflict? (m : Manner) : Option (List Char) :=
  let asked := (['n', 'g', 'h', 'M'].filter m.has).length
  let shown := ['d', 'f', 'g', 'h', 'i', 'M', 'n', 'R', 'V'].filter fun c =>
    m.has c && !(c == 'i' && m.has 'd')
  if asked + (if ['V', 'R', 'd', 'i'].any m.has then 1 else 0) > 1 then some shown else none

/-- What counts of a part that is compared as text. -/
def counted (m : Manner) (s : Bytes) : Bytes :=
  let isCounted (b : UInt8) : Bool :=
    if m.has 'd' then isBlank b || Numeral.isDigit b || 0x41 ≤ upperCase b && upperCase b ≤ 0x5A
    else !m.has 'i' || isShown b
  (s.filter isCounted).map fun b => if m.has 'f' then upperCase b else b

def compare (m : Manner) (a b : Bytes) : Ordering :=
  let order :=
    if m.has 'n' then compareDecimals a b
    else if m.has 'g' then compareReals a b
    else if m.has 'h' then
      match Ord.compare (sizeOrder a) (sizeOrder b) with
      | .eq => compareDecimals a b
      | order => order
    else if m.has 'M' then Ord.compare (monthAt a) (monthAt b)
    else compareOfLessAndEq (m.counted a) (m.counted b)
  if m.has 'r' then order.swap else order

end Manner

/-- A key: the fields and bytes to skip, where it ends, and its manner. -/
structure Key where
  field : Nat
  byte : Nat
  stop : Option (Nat × Nat)
  manner : Manner

/-- The fields of a line. Without a separator a field is blanks and what follows them. -/
def sortFields (separator : Option UInt8) (line : Bytes) : List Bytes :=
  match separator with
  | some sep =>
    line.foldr (fun b fields => match fields with
      | field :: rest => if b = sep then [] :: field :: rest else (b :: field) :: rest
      | [] => [[b]]) [[]]
  | none => line.splitBy fun a b => isBlank a || !isBlank b

/-- The part of a line that a key names. -/
def Key.part (k : Key) (separator : Option UInt8) (line : Bytes) : Bytes :=
  let fields := sortFields separator line
  let width := if separator.isSome then 1 else 0
  let startOf (n : Nat) : Nat :=
    min line.length ((fields.take n).foldl (fun total field => total + field.length + width) 0)
  let blanksAt (skips : Bool) (place : Nat) : Nat :=
    if skips then ((line.drop place).takeWhile isBlank).length else 0
  let start := startOf k.field
  let start := start + blanksAt k.manner.skipsFirst start + k.byte
  let stop := match k.stop with
    | none => line.length
    | some (last, 0) => startOf last + ((fields[last]?).getD []).length
    | some (last, n) => startOf last + blanksAt k.manner.skipsLast (startOf last) + n
  (line.drop start).take (min line.length stop - start)

/-- A count in a key, and what follows it. -/
def keyCount (place : String) (s : Bytes) : Except (List Bytes) (Nat × Bytes) :=
  match Numeral.digits 10 s with
  | [] => .error ["invalid number ", place, ": invalid count at start of ", cited s]
  | ds => .ok (Numeral.value 10 ds, s.drop ds.length)

/-- The letters at the front of a text, and what follows them. -/
def keyLetters (s : Bytes) : List Char × Bytes :=
  let letters := s.takeWhile (Utf8.ofString "bdfghiMnRrV").contains
  (letters.map fun b => Char.ofNat b.toNat, s.drop letters.length)

/-- A key as an option writes it: a field, a byte in it and letters, and the same for its end. -/
def Key.read (s : Bytes) : Except (List Bytes) Key := do
  let senseless {α : Type} (what : String) : Except (List Bytes) α :=
    .error [what, ": invalid field specification ", cited s]
  let (field, rest) ← keyCount "at field start" s
  if field = 0 then senseless "field number is zero"
  let (byte, rest) ← match rest with
    | 0x2E :: rest => keyCount "after '.'" rest
    | rest => .ok (1, rest)
  if byte = 0 then senseless "character offset is zero"
  let (letters, rest) := keyLetters rest
  let manner := Manner.plain.add true false letters
  match rest with
  | [] => return ⟨field - 1, byte - 1, none, manner⟩
  | 0x2C :: rest =>
    let (last, rest) ← keyCount "after ','" rest
    if last = 0 then senseless "field number is zero"
    let (lastByte, rest) ← match rest with
      | 0x2E :: rest => keyCount "after '.'" rest
      | rest => .ok (0, rest)
    let (letters, rest) := keyLetters rest
    if rest != [] then senseless "stray character in field spec"
    return ⟨field - 1, byte - 1, some (last - 1, lastByte), manner.add false true letters⟩
  | _ => senseless "stray character in field spec"

/-! ## The order -/

/-- What decides about the order of lines. -/
structure Sorting where
  separator : Option UInt8
  keys : List Key
  /-- Lines that the keys find equal are not compared any further. -/
  isSettled : Bool
  reversed : Bool

/-- Lines by the keys alone. -/
def Sorting.byKeys (s : Sorting) (a b : Bytes) : Ordering :=
  s.keys.foldl (fun order k => match order with
    | .eq => k.manner.compare (k.part s.separator a) (k.part s.separator b)
    | order => order) .eq

def Sorting.compare (s : Sorting) (a b : Bytes) : Ordering :=
  match s.byKeys a b with
  | .eq =>
    if s.isSettled && !s.keys.isEmpty then .eq
    else if s.reversed then compareOfLessAndEq b a else compareOfLessAndEq a b
  | order => order

/-- The lines of several lists in one: always the least of the first ones. -/
def Sorting.merge (s : Sorting) (lists : List (List Bytes)) : List Bytes :=
  lists.foldl (fun merged lines => merged.merge lines fun a b => s.compare a b != .gt) []

/-- Of lines that are equal the first one. -/
def Sorting.firsts (s : Sorting) (lines : List Bytes) : List Bytes :=
  lines.foldr (fun line kept => match kept with
    | next :: rest => if s.compare line next == .eq then line :: rest else line :: kept
    | [] => [line]) []

/-- The first line that is out of order, with its number. -/
def Sorting.disorder? (s : Sorting) (strict : Bool) (lines : List Bytes) : Option (Bytes × Nat) :=
  ((lines.zip lines.tail).zipIdx.find? fun ((a, b), _) =>
    let order := s.compare a b
    order == .gt || strict && order == .eq).map fun ((_, b), n) => (b, n + 2)

/-! ## The program -/

/-- The order that options ask for. -/
def Sorting.ofOptions (g : Given) : Except (List Bytes) Sorting := do
  let words := [("general-numeric", 'g'), ("human-numeric", 'h'), ("month", 'M'), ("numeric", 'n'),
    ("random", 'R'), ("version", 'V')]
  let letters := g.options.filterMap fun (c, value) =>
    if c = '1' then words.lookup (Utf8.lossy (value.getD []))
    else if "bdfghiMnRrV".contains c then some c else none
  let general := Manner.plain.add true true letters
  let separator ← match g.value? 't' with
    | none => .ok none
    | some [] => .error ["empty tab"]
    | some [b] => .ok (some b)
    | some text =>
      if text = [0x5C, 0x30] then .ok (some 0) else .error ["multi-character tab ", cited text]
  let given ← (g.options.filterMap fun (c, v) => if c = 'k' then v else none).mapM Key.read
  let own := given.map fun k => if k.manner.isPlain && !k.manner.has 'r' then
    { k with manner := general } else k
  let keys := if own.isEmpty && !general.isPlain then [⟨0, 0, none, general⟩] else own
  match keys.findSome? fun k => k.manner.conflict? with
  | some letters => .error ["options '-", String.ofList letters, "' are incompatible"]
  | none => return ⟨separator, keys, g.has 's' || g.has 'u', general.has 'r'⟩

/-- Ends with a complaint. -/
def sortFails (w : Work) (parts : List Bytes) : Finish := ((w.complain parts).fail 2).finish

/-- Tells whether one file is in order. -/
def sortCheck (s : Sorting) (strict quiet : Bool) (lineEnd : UInt8) (operand : Bytes) (w : Work) :
    Finish :=
  match w.readOperand operand with
  | (.error cause, w) =>
    sortFails w [if cause == .system .isDirectory then "read failed: " else "open failed: ",
      named operand, ": ", reason cause]
  | (.ok content, w) =>
    match s.disorder? strict (contentsUpTo lineEnd content) with
    | none => w.finish
    | some (line, n) =>
      ((if quiet then w
        else w.complain [operand, ":", numeral n, ": disorder: ", line]).fail 1).finish

/-- Reads the operands, each as a list of lines. The first one that cannot be read ends the work. -/
def sortInputs (lineEnd : UInt8) (w : Work) : List Bytes → Except Finish (List (List Bytes) × Work)
  | [] => .ok ([], w)
  | operand :: rest =>
    match w.readOperand operand with
    | (.error cause, w) => .error (sortFails w ["read failed: ", named operand, ": ", reason cause])
    | (.ok content, w) =>
      (sortInputs lineEnd w rest).map fun (more, w) => (contentsUpTo lineEnd content :: more, w)

/-- Puts the lines of all files in order. -/
def sortAll (s : Sorting) (g : Given) (lineEnd : UInt8) (operands : List Bytes) (w : Work) : Finish :=
  let lost? := operands.findSome? fun operand =>
    if operand = [0x2D] then none
    else match w.task.disk.inspect true w.task.at_ ⟨operand⟩ with
      | .error cause => some (operand, cause)
      | .ok _ => none
  let store (w : Work) (file : Bytes) (change : Bytes → Bytes) : Except Cause Work :=
    (w.task.disk.writeFile w.task.at_ ⟨file⟩ change false).map w.withDisk
  let opened : Except (Bytes × Cause) Work := match g.value? 'o' with
    | none => .ok w
    | some file => (store w file id).mapError fun cause => (file, cause)
  match lost?, opened with
  | some (operand, cause), _ => sortFails w ["cannot read: ", named operand, ": ", reason cause]
  | none, .error (file, cause) => sortFails w ["open failed: ", named file, ": ", reason cause]
  | none, .ok w =>
    match sortInputs lineEnd w operands with
    | .error finish => finish
    | .ok (lists, w) =>
      let sorted := if g.has 'm' then s.merge lists
        else lists.flatten.mergeSort fun a b => s.compare a b != .gt
      let text := (if g.has 'u' then s.firsts sorted else sorted).flatMap (· ++ [lineEnd])
      match g.value? 'o' with
      | none => (w.print text).finish
      | some file => ((store w file fun _ => text).toOption.getD w).finish

def sort : Task → Finish :=
  withOptions ⟨"bcCdfghiMmnRrsuVz", "koStT", [("check", 'c', .perhaps), ("debug", 'D', .nothing),
      ("dictionary-order", 'd', .nothing), ("field-separator", 't', .value),
      ("general-numeric-sort", 'g', .nothing), ("human-numeric-sort", 'h', .nothing),
      ("ignore-case", 'f', .nothing), ("ignore-leading-blanks", 'b', .nothing),
      ("ignore-nonprinting", 'i', .nothing), ("key", 'k', .value), ("merge", 'm', .nothing),
      ("month-sort", 'M', .nothing), ("numeric-sort", 'n', .nothing), ("output", 'o', .value),
      ("parallel", 'P', .value), ("random-sort", 'R', .nothing), ("reverse", 'r', .nothing),
      ("sort", '1', .value), ("stable", 's', .nothing), ("unique", 'u', .nothing),
      ("version-sort", 'V', .nothing), ("zero-terminated", 'z', .nothing)], false⟩ 2 fun g t =>
    let operands := if g.operands = [] then [[0x2D]] else g.operands
    let isQuiet := g.has 'C' || (g.value? 'c').any fun word =>
      word = Utf8.ofString "quiet" || word = Utf8.ofString "silent"
    let lineEnd : UInt8 := if g.has 'z' then 0 else 0x0A
    let letter : Bytes := if isQuiet then "C" else "c"
    match Sorting.ofOptions g with
    | .error complaint => sortFails t.begin complaint
    | .ok s =>
      if !g.has 'c' && !g.has 'C' then sortAll s g lineEnd operands t.begin
      else match operands, g.has 'o' with
        | _ :: extra :: _, _ =>
          sortFails t.begin ["extra operand ", cited extra, " not allowed with -", letter]
        | _, true => sortFails t.begin ["options '-", letter, "o' are incompatible"]
        | operand :: _, false => sortCheck s (g.has 'u') isQuiet lineEnd operand t.begin
        | [], false => t.begin.finish

end FreshBuild.Utility
