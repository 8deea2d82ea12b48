/-
# FreshBuild.Utility.Words — utilities that only look at their arguments.

They print text, names and numbers, or wait. None of them touches the disk.
-/
import FreshBuild.Utility.Copies
import FreshBuild.Utility.Format

namespace FreshBuild.Utility

/-- Succeeds, whatever the arguments are. -/
def succeed (t : Task) : Finish := t.exit [] [] 0

/-- Fails, whatever the arguments are. -/
def fail (t : Task) : Finish := t.exit [] [] 1

/-! ## Text -/

/-- The leading arguments of `echo` that are options: a hyphen and letters it knows. -/
def isEchoOption (arg : Bytes) : Bool :=
  match arg with
  | 0x2D :: b :: rest => (b :: rest).all (Utf8.ofString "neE").contains
  | _ => false

def echo (t : Task) : Finish :=
  let options := t.args.takeWhile isEchoOption
  let letters := options.flatten.filter (· != 0x2D)
  let words := ((t.args.drop options.length).intersperse [0x20]).flatten
  let escapes := (letters.reverse.find? (· != 0x6E)) == some 0x65
  let (text, stop) : Bytes × Stop :=
    if escapes then (⟨true, false, true, true, false⟩ : Escapes).apply words else (words, .done)
  t.exit (text ++ if stop = .ended || letters.contains 0x6E then [] else [0x0A]) [] 0

def printf (t : Task) : Finish :=
  match (if t.args.head? = some [0x2D, 0x2D] then t.args.tail else t.args) with
  | [] => refuse t 1 ["missing operand"]
  | format :: args =>
    let (p, stop) := printFormat .program format args
    let w := p.complaints.foldl (fun (w : Work) c => w.complain [c]) (t.begin.print p.out)
    let w := if p.failed then w.fail 1 else w
    (match stop with
      | .senseless complaint => (w.complain [complaint]).fail 1
      | .ended => w
      | .done => match p.args with
        | excess :: _ =>
          w.complain ["warning: ignoring excess arguments, starting with ", cited excess]
        | [] => w).finishAtOnce

/-! ## Names -/

/-- A path leads to a directory, is absolute, and has no special names: then it may stand for the
current directory if that is where it leads. -/
def isPlainPathTo (d : Disk) (at_ : Location) (path : Bytes) : Bool :=
  (⟨path⟩ : Path).isAbsolute &&
    (Path.names ⟨path⟩).all (fun n => n != Path.here && n != Path.up) &&
    (d.enter at_ ⟨path⟩).toOption == some at_

def pwd : Task → Finish :=
  withOptions (.ofFlags "LP" [("logical", 'L'), ("physical", 'P')]) 1 fun g t =>
    let w := if g.operands = [] then t.begin else t.begin.complain ["ignoring non-option arguments"]
    let logical := (t.environment.value? "PWD").filter (isPlainPathTo t.disk t.at_)
    if !t.disk.hasDirectory t.at_ then
      ((w.complain ["couldn't find directory entry in '..' with matching i-node"]).fail 1).finishAtOnce
    else
      (w.print ((match g.last? ['L', 'P'], logical with
        | some 'L', some path => path
        | _, _ => (Location.path t.at_).bytes) ++ [0x0A])).finishAtOnce

/-- A name without an ending, unless there would be nothing left. -/
def withoutEnding (ending name : Bytes) : Bytes :=
  if ending.length < name.length && ending.isSuffixOf name then name.take (name.length - ending.length)
  else name

def basename : Task → Finish :=
  withOptions ⟨"az", "s", [("multiple", 'a', .nothing), ("suffix", 's', .value),
      ("zero", 'z', .nothing)], true⟩ 1 fun g t =>
    let lineEnd : Bytes := if g.has 'z' then [0] else [0x0A]
    let shown (ending : Bytes) (operand : Bytes) : Bytes :=
      withoutEnding ending (lastName operand) ++ lineEnd
    match g.operands with
    | [] => refuse t 1 ["missing operand"]
    | operands =>
      if g.has 'a' || g.has 's' then
        t.exit (operands.flatMap (shown ((g.value? 's').getD []))) [] 0
      else match operands with
        | _ :: _ :: extra :: _ => refuse t 1 ["extra operand ", cited extra]
        | operand :: ending :: _ => t.exit (shown ending operand) [] 0
        | operand :: _ => t.exit (shown [] operand) [] 0
        | [] => t.exit [] [] 0

/-- The directory part of a path. -/
def directoryPart (operand : Bytes) : Bytes :=
  let dropSlashes (s : Bytes) : Bytes := s.dropWhile (· == Path.slash)
  let front := dropSlashes ((dropSlashes operand.reverse).dropWhile (· != Path.slash))
  if front != [] then front.reverse
  else if operand.head? = some Path.slash then [Path.slash] else Path.here

def dirname : Task → Finish :=
  withOptions ⟨"z", "", [("zero", 'z', .nothing)], true⟩ 1 fun g t =>
    if g.operands = [] then refuse t 1 ["missing operand"]
    else
      let lineEnd : Bytes := if g.has 'z' then [0] else [0x0A]
      t.exit (g.operands.flatMap fun operand => directoryPart operand ++ lineEnd) [] 0

/-! ## Numbers -/

/-- A decimal number with a number of places. -/
structure Placed where
  digits : Int
  places : Nat

/-- A decimal number that is all of a text. -/
def placed? (s : Bytes) : Option Placed := do
  let (negative, body) := Numeral.sign (s.dropWhile Numeral.isSpace)
  let (whole, places, rest) ← Numeral.pointed? 10 body
  let (e, rest) := Numeral.exponent 'e' rest
  if rest != [] || e.natAbs > 1000 then none
  else
    let n := Numeral.signed negative (Numeral.value 10 (whole ++ places))
    let shift := e - (places.length : Int)
    if 0 ≤ shift then some ⟨n * Int.ofNat (Nat.pow 10 shift.toNat), 0⟩
    else some ⟨n, (-shift).toNat⟩

/-- The digits of a number taken with more places. -/
def Placed.with (p : Placed) (places : Nat) : Int :=
  p.digits * Int.ofNat (Nat.pow 10 (places - p.places))

/-- A number with places, behind its sign. -/
def placedText (digits : Int) (places : Nat) : Bytes :=
  (if digits < 0 then [0x2D] else []) ++
    Utf8.encode (Decimal.pointedDigits digits.natAbs places false)

/-- The numbers from `first` to `last` in steps, at most `fuel` of them. -/
def numbersFrom : Nat → Int → Int → Int → List Int
  | 0, _, _, _ => []
  | fuel + 1, first, step, last =>
    if if 0 < step then last < first else first < last then []
    else first :: numbersFrom fuel (first + step) step last

/-- A number widened by zeros behind its sign. -/
def widened (width : Nat) (s : Bytes) : Bytes :=
  let (negative, body) := Numeral.sign s
  (if negative then [0x2D] else []) ++
    List.replicate (width - s.length) 0x30 ++ body

/-- The most numbers in a row. -/
def maxRow : Nat := 1000000

/-- The numbers of a row as text. -/
def rowText (g : Given) (first step last : Placed) : List Bytes :=
  let places := max first.places step.places
  let all := max places last.places
  let count := min maxRow (((last.with all - first.with all) / step.with all).toNat + 1)
  let numbers := numbersFrom count (first.with all) (step.with all) (last.with all)
  let texts := numbers.map fun n => placedText (n / Int.ofNat (Nat.pow 10 (all - places))) places
  match g.value? 'f' with
  | some format => texts.map fun s => (printFormat .program format [s]).1.out
  | none =>
    if g.has 'w' then
      let ends := [placedText (first.with all / Int.ofNat (Nat.pow 10 (all - places))) places,
        placedText (last.with all / Int.ofNat (Nat.pow 10 (all - places))) places]
      let width := ends.foldl (fun n s => max n s.length) 0
      texts.map (widened width)
    else texts

/-- Ends the options in front of a negative number. -/
def guardNumbers : List Bytes → List Bytes
  | [] => []
  | arg :: rest =>
    match arg with
    | 0x2D :: b :: _ =>
      if Numeral.isDigit b || b = Path.dot then [0x2D, 0x2D] :: arg :: rest
      else if arg = [0x2D, 0x2D] then arg :: rest
      else if ["-f", "-s", "--format", "--separator"].any fun o => Utf8.ofString o = arg then
        match rest with
        | value :: rest => arg :: value :: guardNumbers rest
        | [] => [arg]
      else arg :: guardNumbers rest
    | _ => arg :: rest

def seq (t : Task) : Finish :=
  withOptions ⟨"w", "fs", [("equal-width", 'w', .nothing), ("format", 'f', .value),
      ("separator", 's', .value)], true⟩ 1 (fun g t =>
    match g.operands with
    | [] => refuse t 1 ["missing operand"]
    | _ :: _ :: _ :: extra :: _ => refuse t 1 ["extra operand ", cited extra]
    | operands =>
      match operands.find? fun s => (placed? s).isNone with
      | some wrong => refuse t 1 ["invalid floating point argument: ", cited wrong]
      | none =>
        let between := (g.value? 's').getD [0x0A]
        let one : Placed := ⟨1, 0⟩
        let print (first step last : Placed) : Finish :=
          match rowText g first step last with
          | [] => t.exit [] [] 0
          | texts => t.exit ((texts.intersperse between).flatten ++ [0x0A]) [] 0
        match operands.filterMap placed? with
        | [last] => print one one last
        | [first, last] => print first one last
        | [first, step, last] =>
          if step.digits = 0 then
            refuse t 1 ["invalid Zero increment value: ", cited (operands[1]?.getD [])]
          else print first step last
        | _ => t.exit [] [] 0) { t with args := guardNumbers t.args }

/-! ## Time -/

/-- A length of time in milliseconds: a number of seconds, or of what a letter behind it says. One
without end is longer than anything that waits for it. -/
def interval? (s : Bytes) : Option Nat := do
  let (x, rest) ← Numeral.real? s
  let unit ← match rest with
    | [] | [0x73] => some 1000
    | [0x6D] => some 60000
    | [0x68] => some 3600000
    | [0x64] => some 86400000
    | _ => none
  match x with
  | .finite false r => some ((r.num * unit + r.den - 1) / r.den)
  | .finite true r => if r.num = 0 then some 0 else none
  | .infinite false => some (Nat.pow 10 18)
  | _ => none

/-- A process that waits. -/
def Task.wait (t : Task) (millis : Nat) : Finish :=
  { t.begin.finish with
    spent := millis
    ending := if t.isOver millis then .expired else .exited 0 }

def sleep : Task → Finish :=
  withOptions ⟨"", "", [], false⟩ 1 fun g t =>
    match g.operands, g.operands.filter fun s => (interval? s).isNone with
    | [], _ => refuse t 1 ["missing operand"]
    | operands, [] => Task.wait t ((operands.filterMap interval?).foldl (· + ·) 0)
    | _, wrong =>
      ((suggestHelp (each t.begin wrong fun w s =>
        w.complain ["invalid time interval ", cited s])).fail 1).finish

end FreshBuild.Utility
