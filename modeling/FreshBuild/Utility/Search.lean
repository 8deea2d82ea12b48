/-
# FreshBuild.Utility.Search — lines that match.

A line is selected if one of several expressions matches in it, or if none does. What is printed for
the selected lines is a matter of the options: the lines, the parts that match, their number, or only
the names of the files they are in.
-/
import FreshBuild.Text.Regex
import FreshBuild.Utility.Listing
import FreshBuild.Utility.Lines

namespace FreshBuild.Utility

/-- What to look for, and how. -/
structure Search where
  patterns : List Regex
  wholeWords : Bool
  wholeLines : Bool
  inverted : Bool

/-- A match has no byte of a word right before or behind it. -/
def standsAlone (text : Bytes) (start stop : Nat) : Bool :=
  let isWordAt (n : Nat) : Bool := (text[n]?).any ByteSet.word.contains
  !(0 < start && isWordAt (start - 1)) && !isWordAt stop

namespace Search

/-- The longest match that begins at a place and is fit for the search. -/
def matchAt? (s : Search) (text : Bytes) (place : Nat) : Option (Nat × Nat) :=
  let start : Regex.State := ⟨if place = 0 then none else text[place - 1]?, text.drop place, place, []⟩
  let ends := (s.patterns.flatMap fun r => (Regex.run text r start).map (·.passed)).filter fun stop =>
    (!s.wholeLines || place = 0 && stop = text.length) &&
      (!s.wholeWords || standsAlone text place stop)
  match ends with
  | [] => none
  | stop :: others => some (place, others.foldl max stop)

/-- The first match from a place on. -/
def find? (s : Search) (text : Bytes) (place : Nat) : Option (Nat × Nat) :=
  (List.range (text.length + 1 - place)).findSome? fun n => s.matchAt? text (place + n)

def selects (s : Search) (line : Bytes) : Bool := (s.find? line 0).isSome != s.inverted

/-- The parts of a line that match and are not empty, from a place on. -/
def parts (s : Search) (line : Bytes) : Nat → Nat → List Bytes
  | 0, _ => []
  | fuel + 1, place =>
    match s.find? line place with
    | none => []
    | some (start, stop) =>
      if stop ≤ start then parts s line fuel (start + 1)
      else (line.drop start).take (stop - start) :: parts s line fuel stop

end Search

/-! ## Printing -/

/-- How selected lines are printed. -/
structure LineReport where
  names : Bool
  numbers : Bool
  partsOnly : Bool
  most : Option Nat
  before : Nat
  after : Nat

/-- The front of a printed line: file name and line number, each with a sign behind it. -/
def LineReport.front (r : LineReport) (title : Bytes) (n : Nat) (sign : UInt8) : Bytes :=
  (if r.names then title ++ [sign] else []) ++ if r.numbers then numeral n ++ [sign] else []

/-- The numbers of the selected lines, counted from one, as many as are wanted. -/
def selectedNumbers (s : Search) (r : LineReport) (lines : List Bytes) : List Nat :=
  let all := (lines.zipIdx 1).filterMap fun (line, n) => if s.selects line then some n else none
  match r.most with
  | some most => all.take most
  | none => all

/-- The printed lines. A gap between lines that are shown with their surroundings has a mark. -/
def selectedText (s : Search) (r : LineReport) (title : Bytes) (lines : List Bytes) : Bytes :=
  let selected := selectedNumbers s r lines
  let isNear (n : Nat) : Bool := selected.any fun m => m ≤ n + r.before && n ≤ m + r.after
  let hasContext := 0 < r.before || 0 < r.after
  ((lines.zipIdx 1).foldl (fun ((out, last) : Bytes × Nat) (line, n) =>
    if !isNear n then (out, last)
    else
      let gap : Bytes :=
        if hasContext && 0 < last && last + 1 < n then [0x2D, 0x2D, 0x0A] else []
      let shown : Bytes :=
        if selected.contains n then
          if r.partsOnly then
            (if s.inverted then [] else s.parts line (line.length + 1) 0).flatMap fun part =>
              r.front title n 0x3A ++ part ++ [0x0A]
          else r.front title n 0x3A ++ line ++ [0x0A]
        else if r.partsOnly then []
        else r.front title n 0x2D ++ line ++ [0x0A]
      (out ++ gap ++ shown, n)) ([], 0)).1

/-! ## The utility -/

/-- The lines that point to the help. -/
def suggestUsage (usage : String) (w : Work) : Work :=
  suggestHelp (w.write .err (Utf8.ofString "Usage: " ++ lastName w.task.zero ++
    Utf8.ofString (" " ++ usage ++ "\n")))

/-- The files below a directory, with their paths. -/
def filesBelow (t : Task) (operand : Bytes) : List Bytes :=
  match t.disk.enter t.at_ ⟨operand⟩ with
  | .error _ => [operand]
  | .ok l => (t.disk.listing l).filterMap fun (below, e) =>
      match e with
      | .file .. => some ((below.foldl (fun (p : Path) name => p.join ⟨name⟩) ⟨operand⟩).bytes)
      | _ => none

/-- The file names that a search has to look into. -/
def searchOperands (g : Given) (t : Task) (operands : List Bytes) : List Bytes :=
  if g.has 'r' || g.has 'R' then
    if operands = [] then
      (filesBelow t Path.here).map fun path => path.drop 2
    else operands.flatMap (filesBelow t)
  else if operands = [] then [[0x2D]] else operands

/-- Looks into one file. The flag tells whether anything was selected so far. -/
def searchFile (g : Given) (s : Search) (r : LineReport) (state : Work × Bool) (operand : Bytes) :
    Work × Bool :=
  let (w, found) := state
  if g.has 'q' && found then (w, found)
  else
    let failed (w : Work) (words : Bytes) : Work :=
      (if g.has 's' then w else w.complain [operand, ": ", words]).fail 2
    let isDirectory := operand != [0x2D] && (w.task.disk.enter w.task.at_ ⟨operand⟩).toOption.isSome
    match (if isDirectory then (Except.error (.system .isDirectory), w) else w.readOperand operand) with
    | (.error cause, w) => (failed w (reason cause), found)
    | (.ok content, w) =>
      let title := if operand = [0x2D] then Utf8.ofString "(standard input)" else operand
      let lines := contentLines content
      let selected := selectedNumbers s r lines
      let any := selected != []
      if g.has 'q' then (w, found || any)
      else if g.has 'l' then
        (if any then w.print (title ++ [0x0A]) else w, found || any)
      else if g.has 'L' then
        (if any then w else w.print (title ++ [0x0A]), found || !any)
      else if g.has 'c' then
        (w.print ((if r.names then title ++ [0x3A] else []) ++ numeral selected.length ++ [0x0A]),
          found || any)
      else if content.contains 0 && !g.has 'a' && any then
        (w.print (w.task.zero ++ Utf8.ofString ": " ++ title ++
          Utf8.ofString ": binary file matches\n"), true)
      else (w.print (selectedText s r title lines), found || any)

/-- Reads the patterns of a search. -/
def patternsOf (g : Given) (extended fixed : Bool) (texts : List Bytes) :
    Except Regex.Flaw (List Regex) :=
  (texts.flatMap fun text => if text = [] then [[]] else contentLines text).mapM fun pattern => do
    let r ← if fixed then .ok (Regex.literal pattern) else Regex.ofBytes extended pattern
    return if g.has 'i' || g.has 'y' then r.foldCase else r

/-- Prints the lines of files that match. The grammar of the patterns can be set by a letter. -/
def grep (standard : Char) (t : Task) : Finish :=
  let k : Known := ⟨"EFGPivwxclLqsnhHobrRzaIUZTy", "efmABCD",
    [("regexp", 'e', .value), ("ignore-case", 'i', .nothing), ("invert-match", 'v', .nothing),
      ("count", 'c', .nothing), ("quiet", 'q', .nothing), ("silent", 'q', .nothing),
      ("line-number", 'n', .nothing), ("files-with-matches", 'l', .nothing),
      ("files-without-match", 'L', .nothing), ("word-regexp", 'w', .nothing),
      ("line-regexp", 'x', .nothing), ("extended-regexp", 'E', .nothing),
      ("fixed-strings", 'F', .nothing), ("only-matching", 'o', .nothing),
      ("no-messages", 's', .nothing), ("recursive", 'r', .nothing), ("max-count", 'm', .value),
      ("no-filename", 'h', .nothing), ("with-filename", 'H', .nothing)], false⟩
  let usage := "[OPTION]... PATTERNS [FILE]..."
  match readOptions k 0 t.args with
  | .error parts => ((suggestUsage usage (t.begin.complain parts)).fail 2).finish
  | .ok g =>
    let given := g.options.filterMap fun (c, v) => if c = 'e' then v else none
    let grammar := (g.last? ['E', 'F', 'G', 'P']).getD standard
    match (if given = [] then g.operands.take 1 else given), g.operands with
    | [], _ => ((suggestUsage usage t.begin).fail 2).finish
    | texts, all =>
      let operands := if given = [] then all.tail else all
      let number (c : Char) : Option Nat := (g.value? c).bind fun v => (Numeral.decimal? v).map Int.toNat
      match patternsOf g (grammar == 'E' || grammar == 'P') (grammar == 'F') texts with
      | .error flaw => ((t.begin.complain [flaw.text]).fail 2).finish
      | .ok patterns =>
        let s : Search := ⟨patterns, g.has 'w', g.has 'x', g.has 'v'⟩
        let files := searchOperands g t operands
        let isRecursive := g.has 'r' || g.has 'R'
        let r : LineReport :=
          { names := match g.last? ['h', 'H'] with
              | some c => c == 'H'
              | none => operands.length > 1 || isRecursive
            numbers := g.has 'n'
            partsOnly := g.has 'o'
            most := number 'm'
            before := ((number 'B') <|> (number 'C')).getD 0
            after := ((number 'A') <|> (number 'C')).getD 0 }
        let (w, found) := files.foldl (searchFile g s r) (t.begin, false)
        let code := if found && g.has 'q' then 0 else if w.code = 2 then 2 else if found then 0 else 1
        (w.fail code).finishAtOnce

end FreshBuild.Utility
