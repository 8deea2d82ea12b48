/-
# FreshBuild.Utility.Lines — utilities that pass text on.

A text is a list of lines, each with the line break that ends it; the last one may lack it. What these
utilities keep they keep as it is.
-/
import FreshBuild.Utility.Files

namespace FreshBuild.Utility

/-- The lines of a text, each with the byte that ends it. -/
def linesUpTo (lineEnd : UInt8) (text : Bytes) : List Bytes :=
  text.foldr (fun b lines => match lines with
    | line :: rest => if b = lineEnd then [b] :: line :: rest else (b :: line) :: rest
    | [] => [[b]]) [] |>.filter (· != [])

/-- The lines of a text without the bytes that end them. -/
def contentsUpTo (lineEnd : UInt8) (text : Bytes) : List Bytes :=
  (linesUpTo lineEnd text).map fun line =>
    if line.getLast? = some lineEnd then line.dropLast else line

/-- The lines of a text, each with its line break. -/
def linesOf (text : Bytes) : List Bytes := linesUpTo 0x0A text

/-- The lines of a text without their line breaks. -/
def contentLines (text : Bytes) : List Bytes := contentsUpTo 0x0A text

/-- Works through files. Without an operand the input is the only one. -/
def eachFile (w : Work) (operands : List Bytes) (act : Work → Bytes → Bytes → Work)
    (refused : Work → Bytes → Cause → Work) : Work :=
  each w (if operands = [] then [[0x2D]] else operands) fun w operand =>
    match w.readOperand operand with
    | (.ok content, w) => act w operand content
    | (.error cause, w) => refused w operand cause

/-- A complaint that names a file and the reason. -/
def unreadable (w : Work) (operand : Bytes) (cause : Cause) : Work :=
  (w.complain [named operand, ": ", reason cause]).fail 1

/-- How a file is called in headlines and complaints. -/
def fileTitle (operand : Bytes) : Bytes :=
  if operand = [0x2D] then Utf8.ofString "standard input" else operand

/-! ## Copying through -/

/-- What `cat` adds to a line. -/
structure Marks where
  numbers : Bool
  numbersFilled : Bool
  ends : Bool
  tabs : Bool
  squeeze : Bool

/-- A number right-aligned in a field. -/
def padded (width : Nat) (text : Bytes) : Bytes :=
  List.replicate (width - text.length) 0x20 ++ text

/-- Marks lines. The state holds the number of the last numbered line and whether the last line was
empty. -/
def Marks.apply (m : Marks) : Nat × Bool → List Bytes → Bytes × (Nat × Bool)
  | state, [] => ([], state)
  | (n, wasEmpty), line :: rest =>
    let isEmpty := line = [0x0A]
    if m.squeeze && isEmpty && wasEmpty then m.apply (n, wasEmpty) rest
    else
      let isNumbered := m.numbersFilled && !isEmpty || m.numbers && !m.numbersFilled
      let front := if isNumbered then padded 6 (numeral (n + 1)) ++ [0x09] else []
      let body := line.flatMap fun b =>
        if b = 0x0A then (if m.ends then [0x24, b] else [b])
        else if b = 0x09 && m.tabs then [0x5E, 0x49] else [b]
      let (more, state) := m.apply (if isNumbered then n + 1 else n, isEmpty) rest
      (front ++ body ++ more, state)

def cat : Task → Finish :=
  withOptions (.ofFlags "AbeEnstTuv" [("number", 'n'), ("number-nonblank", 'b'), ("show-ends", 'E'),
      ("show-tabs", 'T'), ("show-all", 'A'), ("squeeze-blank", 's')]) 1 fun g t =>
    let m : Marks := ⟨g.has 'n', g.has 'b', g.has 'E' || g.has 'e' || g.has 'A',
      g.has 'T' || g.has 't' || g.has 'A', g.has 's'⟩
    let isPlain := !(m.numbers || m.numbersFilled || m.ends || m.tabs || m.squeeze)
    let start : Work × (Nat × Bool) := (t.begin, (0, false))
    ((if g.operands = [] then [[0x2D]] else g.operands).foldl (fun (w, state) operand =>
      match w.readOperand operand with
      | (.ok content, w) =>
        if isPlain then (w.print content, state)
        else
          let (out, state) := m.apply state (linesOf content)
          (w.print out, state)
      | (.error cause, w) => (unreadable w operand cause, state)) start).1.finish

def tac : Task → Finish :=
  withOptions ⟨"br", "s", [("before", 'b', .nothing), ("separator", 's', .value)], false⟩ 1 fun g t =>
    (eachFile t.begin g.operands (fun w _ content => w.print (linesOf content).reverse.flatten)
      fun w operand cause => match cause with
        | .system errno =>
          if errno = .isDirectory then
            (w.complain [named operand, ": read error: ", reason cause]).fail 1
          else (w.complain ["failed to open ", quoted operand, " for reading: ", reason cause]).fail 1
        | _ => unreadable w operand cause).finishAtOnce

/-- Copies the input to the output and into files. -/
def tee : Task → Finish :=
  withOptions (.ofFlags "aip" [("append", 'a'), ("ignore-interrupts", 'i')]) 1 fun g t =>
    let (content, w) := t.begin.readInput
    (each (w.print content) g.operands fun w operand =>
      match w.task.disk.writeFile w.task.at_ ⟨operand⟩
          (fun old => if g.has 'a' then old ++ content else content) false with
      | .ok d =>
        match d.readFile w.task.at_ ⟨operand⟩ with
        | .ok [] =>
          w.withDisk ((d.writeFile w.task.at_ ⟨operand⟩ (fun _ => content) false).toOption.getD d)
        | _ => w.withDisk d
      | .error cause => unreadable w operand cause).finishAtOnce

/-! ## Counting -/

/-- What there is to count in a text. -/
structure Counts where
  lines : Nat
  words : Nat
  bytes : Nat
  longest : Nat

/-- A byte between words. -/
def isSpace (b : UInt8) : Bool := b == 0x20 || 0x09 ≤ b && b ≤ 0x0D

/-- The words of a text. -/
def wordsOf (text : Bytes) : List Bytes :=
  (text.splitBy fun a b => !isSpace a && !isSpace b).filter fun w => !w.all isSpace

/-- The column behind a byte in a column: tabs go to the next multiple of eight, and what cannot be
seen takes no room. -/
def columnAfter (column : Nat) (b : UInt8) : Nat :=
  if b = 0x0D || b = 0x0C then 0
  else if b = 0x09 then column + 8 - column % 8
  else if isShown b then column + 1
  else column

/-- The room that a line takes. -/
def lineWidth (line : Bytes) : Nat :=
  (line.foldl (fun (column, widest) b =>
    let column := columnAfter column b
    (column, max widest column)) (0, 0)).2

/-- The counts of a text. A word has something in it that can be seen. -/
def Counts.of (text : Bytes) : Counts where
  lines := text.count 0x0A
  words := (wordsOf text).countP fun w => w.any isShown
  bytes := text.length
  longest := (contentLines text).foldl (fun n line => max n (lineWidth line)) 0

def Counts.add (a b : Counts) : Counts :=
  ⟨a.lines + b.lines, a.words + b.words, a.bytes + b.bytes, max a.longest b.longest⟩

/-- The counts that were asked for, in their fixed order. -/
def Counts.shown (c : Counts) (g : Given) : List Nat :=
  let asked := g.has 'l' || g.has 'w' || g.has 'm' || g.has 'c' || g.has 'L'
  (if g.has 'l' || !asked then [c.lines] else []) ++ (if g.has 'w' || !asked then [c.words] else []) ++
    (if g.has 'm' then [c.bytes] else []) ++ (if g.has 'c' || !asked then [c.bytes] else []) ++
    if g.has 'L' then [c.longest] else []

/-- The width of the counts: that of the total size of all files, and at least seven if something else
than a file is among them. A single count of a single file is as narrow as it can be. -/
def countWidth (t : Task) (g : Given) : Nat :=
  let operands := if g.operands = [] then [[0x2D]] else g.operands
  if operands.length = 1 && ((Counts.of []).shown g).length = 1 then 1
  else
    let sizes := operands.map fun operand =>
      if operand = [0x2D] then (t.input.length, t.fromFile)
      else match t.disk.inspect true t.at_ ⟨operand⟩ with
        | .ok (_, .file content _) => (content.length, true)
        | .ok _ => (0, false)
        | .error _ => (0, true)
    let total := sizes.foldl (fun n (size, isFile) => if isFile then n + size else n) 0
    max (Digits.decimal total).length (if sizes.all Prod.snd then 1 else 7)

def wc : Task → Finish :=
  withOptions ⟨"clLmw", "", [("bytes", 'c', .nothing), ("chars", 'm', .nothing),
      ("lines", 'l', .nothing), ("words", 'w', .nothing), ("max-line-length", 'L', .nothing)], false⟩ 1
    fun g t =>
    let width := countWidth t g
    let row (c : Counts) (title : Bytes) : Bytes :=
      (((c.shown g).map fun n => padded width (numeral n)).intersperse [0x20]).flatten ++
        (if title = [] then [] else 0x20 :: named title) ++ [0x0A]
    let none : Counts := .of []
    let (w, total) := (if g.operands = [] then [[0x2D]] else g.operands).foldl
      (fun ((w, total) : Work × Counts) operand =>
        match w.readOperand operand with
        | (.ok content, w) =>
          (w.print (row (.of content) (if g.operands = [] then [] else operand)),
            total.add (.of content))
        | (.error cause, w) =>
          let w := unreadable w operand cause
          (if cause == .system .isDirectory then w.print (row none operand) else w, total))
      (t.begin, none)
    (if g.operands.length > 1 then w.print (row total (Utf8.ofString "total")) else w).finishAtOnce

/-! ## The two ends of a text -/

/-- A count with its sign, and a suffix for a multiple. -/
def signedCount? (text : Bytes) : Option (Option UInt8 × Nat) := do
  let (sign, digits) : Option UInt8 × Bytes := match text with
    | 0x2B :: rest => (some 0x2B, rest)
    | 0x2D :: rest => (some 0x2D, rest)
    | rest => (none, rest)
  let chars ← Utf8.decode? digits
  let number := chars.takeWhile Char.isDigit
  let n ← Digits.value? 10 number
  let factor ← match chars.drop number.length with
    | [] => some 1
    | ['b'] => some 512
    | ['K'] | ['k'] | ['K', 'i', 'B'] => some 1024
    | ['k', 'B'] | ['K', 'B'] => some 1000
    | ['M'] | ['M', 'i', 'B'] => some 1048576
    | ['M', 'B'] => some 1000000
    | _ => none
  return (sign, n * factor)

/-- The part of a text that `head` or `tail` keeps. -/
inductive Cut where
  | first (n : Nat)
  | allButLast (n : Nat)
  | last (n : Nat)
  | from (n : Nat)

def Cut.of {α : Type} (cut : Cut) (xs : List α) : List α :=
  match cut with
  | .first n => xs.take n
  | .allButLast n => xs.take (xs.length - n)
  | .last n => xs.drop (xs.length - n)
  | .from n => xs.drop (n - 1)

/-- Options in the old manner, a number right behind the sign, in the new one. -/
def renewed (args : List Bytes) : List Bytes :=
  match args with
  | (sign :: digits) :: rest =>
    let number := digits.takeWhile fun b => 0x30 ≤ b && b ≤ 0x39
    if number = [] || sign != 0x2D && sign != 0x2B then args
    else
      let value := if sign = 0x2B then sign :: number else number
      match digits.drop number.length with
      | [] => [Utf8.ofString "-n", value] ++ rest
      | [0x63] => [Utf8.ofString "-c", value] ++ rest
      | [0x6C] => [Utf8.ofString "-n", value] ++ rest
      | _ => args
  | args => args

/-- Prints the kept part of each file, with a headline if there are several. -/
def printEnds (g : Given) (cut : Cut) (byBytes : Bool) (t : Task) : Finish :=
  let headed := (g.operands.length > 1 || g.has 'v') && !g.has 'q'
  let start : Work × Bool := (t.begin, true)
  ((if g.operands = [] then [[0x2D]] else g.operands).foldl (fun (w, isFirst) operand =>
    let headline := (if isFirst then [] else [0x0A]) ++ Utf8.ofString "==> " ++ fileTitle operand ++
      Utf8.ofString " <==\n"
    match w.readOperand operand with
    | (.ok content, w) =>
      let w := if headed then w.print headline else w
      (w.print (if byBytes then cut.of content else (cut.of (linesOf content)).flatten), false)
    | (.error cause, w) =>
      if cause == .system .isDirectory then
        let w := if headed then w.print headline else w
        ((w.complain ["error reading ", quoted operand, ": ", reason cause]).fail 1, false)
      else
        ((w.complain ["cannot open ", quoted operand, " for reading: ", reason cause]).fail 1, isFirst))
    start).1.finishAtOnce

/-- Reads the option that tells how much to keep. -/
def endsUtility (makeCut : Option UInt8 → Nat → Cut) (k : Known) (t : Task) : Finish :=
  withOptions k 1 (fun g t =>
    let byBytes := g.last? ['n', 'c'] == some 'c'
    match (if byBytes then g.value? 'c' else g.value? 'n') with
    | none => printEnds g (makeCut none 10) false t
    | some text =>
      match signedCount? text with
      | some (sign, n) => printEnds g (makeCut sign n) byBytes t
      | none =>
        ((t.begin.complain ["invalid number of ", if byBytes then "bytes" else "lines", ": ",
          cited text]).fail 1).finish) { t with args := renewed t.args }

def head : Task → Finish :=
  endsUtility (fun sign n => if sign = some 0x2D then .allButLast n else .first n)
    ⟨"qvz", "cn", [("bytes", 'c', .value), ("lines", 'n', .value), ("quiet", 'q', .nothing),
      ("silent", 'q', .nothing), ("verbose", 'v', .nothing), ("zero-terminated", 'z', .nothing)], false⟩

def tail : Task → Finish :=
  endsUtility (fun sign n => if sign = some 0x2B then .from n else .last n)
    ⟨"fFqvz", "cns", [("bytes", 'c', .value), ("lines", 'n', .value), ("quiet", 'q', .nothing),
      ("silent", 'q', .nothing), ("verbose", 'v', .nothing), ("zero-terminated", 'z', .nothing)], false⟩

end FreshBuild.Utility
