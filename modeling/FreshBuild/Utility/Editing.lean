/-
# FreshBuild.Utility.Editing — editing a stream of lines.

An editing script is a list of commands. For every line of the input the whole list is carried out on
it, then the line is printed. A command applies to all lines, to one that its address names, or to
those from one address to another. Blocks and labels are places in the list, so a jump is a number.
-/
import FreshBuild.Utility.Search

namespace FreshBuild.Utility

/-! ## Scripts -/

/-- What an address names. -/
inductive Address where
  | line (n : Nat)
  | last
  | pattern (r : Regex)
  | every (first step : Nat)
  /-- So many lines after the first address. -/
  | later (n : Nat)
deriving DecidableEq

/-- What replaces a match. -/
inductive Filling where
  | text (b : UInt8)
  /-- What a group holds; the match itself is group zero. -/
  | group (n : Nat)
deriving DecidableEq

/-- What a command does. -/
inductive Edit where
  | substitute (r : Regex) (fillings : List Filling) (every print : Bool) (nth : Nat)
  | exchange (pairs : List (UInt8 × UInt8))
  | delete
  | deleteFirst
  | print
  | printFirst
  | next
  | append
  | hold (append : Bool)
  | get (append : Bool)
  | swap
  | number
  | quit (print : Bool) (code : Nat)
  | insert (text : Bytes)
  | after (text : Bytes)
  | change (text : Bytes)
  /-- A block starts; it ends at a place in the list. -/
  | enter (stop : Nat)
  | label (name : Bytes)
  | jump (name : Bytes)
  | jumpIf (name : Bytes)
  | nothing
deriving DecidableEq

/-- A command with its addresses. -/
structure EditCommand where
  start : Option Address
  stop : Option Address
  negated : Bool
  edit : Edit
deriving DecidableEq

/-! ## Reading -/

/-- A complaint about a script: the words and the bytes that were left when it arose. -/
abbrev ScriptFlaw := String × Nat

abbrev ScriptReader (α : Type) := Bytes → Except ScriptFlaw (α × Bytes)

/-- A text up to a delimiter. A backslash before the delimiter or before an `n` stands for it, any
other stays; in an expression the delimiter may stand between brackets. -/
def delimited (delimiter : UInt8) (isRegex : Bool) : Nat → Bool → Bytes → Option (Bytes × Bytes)
  | 0, _, _ | _, _, [] => none
  | fuel + 1, inSet, b :: rest =>
    let more (front : Bytes) (inSet : Bool) (rest : Bytes) :=
      (delimited delimiter isRegex fuel inSet rest).map fun (body, after) => (front ++ body, after)
    if inSet then more [b] (b != 0x5D) rest
    else if b = delimiter then some ([], rest)
    else if b = 0x5C then
      match rest with
      | c :: rest =>
        if c = delimiter then more [c] false rest
        else if c = 0x6E && isRegex then more [0x0A] false rest
        else more [b, c] false rest
      | [] => none
    else if b = 0x5B && isRegex then
      match rest with
      | 0x5E :: 0x5D :: after => more [b, 0x5E, 0x5D] true after
      | 0x5D :: after => more [b, 0x5D] true after
      | 0x5E :: after => more [b, 0x5E] true after
      | after => more [b] true after
    else more [b] false rest

/-- The bytes an escape in a replacement stands for. -/
def fillings : Bytes → List Filling
  | [] => []
  | 0x5C :: c :: rest =>
    (if Numeral.isDigit c then .group (c - 0x30).toNat
      else match c with
        | 0x6E => .text 0x0A
        | 0x74 => .text 0x09
        | c => .text c) :: fillings rest
  | b :: rest => (if b = 0x26 then .group 0 else .text b) :: fillings rest

/-- An expression with letters behind it that say how to read it. -/
def scriptRegex (extended : Bool) (folded : Bool) (body : Bytes) (left : Nat) :
    Except ScriptFlaw Regex :=
  match Regex.ofBytes extended body with
  | .ok r => .ok (if folded then r.foldCase else r)
  | .error flaw => .error (flaw.text, left)

/-- The number at the front of a text. -/
def numberAt (s : Bytes) : Nat × Bytes :=
  let ds := Numeral.digits 10 s
  (Numeral.value 10 ds, s.drop ds.length)

/-- The address at the front of a text, if there is one. -/
def address? (extended : Bool) : ScriptReader (Option Address) := fun s =>
  let regexAddress (delimiter : UInt8) (rest : Bytes) : Except ScriptFlaw (Option Address × Bytes) :=
    match delimited delimiter true (rest.length + 1) false rest with
    | none => .error ("unterminated address regex", 0)
    | some (body, after) =>
      let folded := after.head? == some 0x49
      let after := if folded then after.tail else after
      (scriptRegex extended folded body after.length).map fun r => (some (.pattern r), after)
  match s with
  | 0x24 :: rest => .ok (some .last, rest)
  | 0x2F :: rest => regexAddress 0x2F rest
  | 0x5C :: d :: rest => regexAddress d rest
  | b :: _ =>
    if Numeral.isDigit b then
      let (n, rest) := numberAt s
      match rest with
      | 0x7E :: rest =>
        let (step, rest) := numberAt rest
        .ok (some (.every n step), rest)
      | rest => .ok (some (.line n), rest)
    else .ok (none, s)
  | [] => .ok (none, s)

def skipBlanks (s : Bytes) : Bytes := s.dropWhile fun b => b == 0x20 || b == 0x09

/-- The second address of a command, behind a comma. -/
def secondAddress? (extended : Bool) : ScriptReader (Option Address) := fun s =>
  match skipBlanks s with
  | 0x2C :: rest =>
    match skipBlanks rest with
    | 0x2B :: rest =>
      let (n, rest) := numberAt rest
      .ok (some (.later n), rest)
    | rest =>
      match address? extended rest with
      | .error e => .error e
      | .ok (none, rest) => .error ("unexpected \x60,'", rest.length)
      | .ok found => .ok found
  | _ => .ok (none, s)

/-- The letters behind a substitution. -/
structure SubstituteFlags where
  every : Bool
  print : Bool
  folded : Bool
  nth : Nat

def substituteFlags : Nat → SubstituteFlags → Bytes → SubstituteFlags × Bytes
  | 0, f, s => (f, s)
  | fuel + 1, f, s =>
    match s with
    | [] => (f, [])
    | b :: rest =>
      if b = 0x67 then substituteFlags fuel { f with every := true } rest
      else if b = 0x70 then substituteFlags fuel { f with print := true } rest
      else if b = 0x69 || b = 0x49 then substituteFlags fuel { f with folded := true } rest
      else if Numeral.isDigit b then
        let (n, rest) := numberAt s
        substituteFlags fuel { f with nth := n } rest
      else (f, s)

/-- A substitution, read behind its letter. -/
def substitution (extended : Bool) : ScriptReader Edit := fun s =>
  let unterminated : Except ScriptFlaw (Edit × Bytes) :=
    .error ("unterminated \x60s' command", 0)
  match s with
  | [] => unterminated
  | delimiter :: rest =>
    match delimited delimiter true (rest.length + 1) false rest with
    | none => unterminated
    | some (body, rest) =>
      match delimited delimiter false (rest.length + 1) false rest with
      | none => unterminated
      | some (filling, rest) =>
        let (flags, after) := substituteFlags (rest.length + 1) ⟨false, false, false, 1⟩ rest
        let isEnd := after.head?.all fun b => isSpace b || b == 0x3B || b == 0x7D || b == 0x23
        if !isEnd then .error ("unknown option to \x60s'", after.length - 1)
        else (scriptRegex extended flags.folded body after.length).map fun r =>
          (.substitute r (fillings filling) flags.every flags.print flags.nth, after)

/-- The pairs of an exchange of bytes, read behind its letter. -/
def exchangePairs : ScriptReader Edit := fun s =>
  let unterminated : Except ScriptFlaw (Edit × Bytes) :=
    .error ("unterminated \x60y' command", 0)
  let plain (body : Bytes) : Bytes := (fillings body).filterMap fun
    | .text b => some b
    | .group 0 => some 0x26
    | .group _ => none
  match s with
  | [] => unterminated
  | delimiter :: rest =>
    match delimited delimiter false (rest.length + 1) false rest with
    | none => unterminated
    | some (a, rest) =>
      match delimited delimiter false (rest.length + 1) false rest with
      | none => unterminated
      | some (b, rest) =>
        if (plain a).length = (plain b).length then .ok (.exchange ((plain a).zip (plain b)), rest)
        else .error ("strings for \x60y' command are different lengths", rest.length)

/-- A text that a command prints: the rest of the line. A backslash before the end of a line takes
another line in. -/
def scriptText : Nat → Bytes → Bytes × Bytes
  | 0, s => ([], s)
  | _, [] => ([], [])
  | fuel + 1, b :: rest =>
    if b = 0x0A then ([], b :: rest)
    else if b = 0x5C then
      match rest with
      | c :: rest =>
        let (more, after) := scriptText fuel rest
        (c :: more, after)
      | [] => ([], [])
    else
      let (more, after) := scriptText fuel rest
      (b :: more, after)

/-- The text of a command, read behind its letter. -/
def commandText (make : Bytes → Edit) : ScriptReader Edit := fun s =>
  let body := match skipBlanks s with
    | 0x5C :: rest =>
      match skipBlanks rest with
      | 0x0A :: rest => rest
      | rest => rest
    | rest => rest
  if body = [] then .error ("expected \\ after \x60a', \x60c' or \x60i'", 0)
  else
    let (text, rest) := scriptText (body.length + 1) body
    .ok (make (text ++ [0x0A]), rest)

/-- A label, read behind its letter. -/
def labelName (make : Bytes → Edit) : ScriptReader Edit := fun s =>
  let body := skipBlanks s
  let name := body.takeWhile fun b => !isSpace b && b != 0x3B && b != 0x7D
  .ok (make name, body.drop name.length)

/-- What a command does, read from its letter on. -/
def editAt (extended : Bool) : ScriptReader Edit := fun s =>
  match s with
  | [] => .error ("missing command", 0)
  | letter :: rest =>
    let plain (e : Edit) : Except ScriptFlaw (Edit × Bytes) := .ok (e, rest)
    match Char.ofNat letter.toNat with
    | 's' => substitution extended rest
    | 'y' => exchangePairs rest
    | 'd' => plain .delete
    | 'D' => plain .deleteFirst
    | 'p' => plain .print
    | 'P' => plain .printFirst
    | 'n' => plain .next
    | 'N' => plain .append
    | 'h' => plain (.hold false)
    | 'H' => plain (.hold true)
    | 'g' => plain (.get false)
    | 'G' => plain (.get true)
    | 'x' => plain .swap
    | '=' => plain .number
    | 'q' | 'Q' =>
      let (n, after) := numberAt (skipBlanks rest)
      .ok (.quit (letter == 0x71) n, after)
    | 'i' => commandText .insert rest
    | 'a' => commandText .after rest
    | 'c' => commandText .change rest
    | '\x7b' => plain (.enter 0)
    | ':' => labelName .label rest
    | 'b' => labelName .jump rest
    | 't' => labelName .jumpIf rest
    | c => .error ("unknown command: \x60" ++ c.toString ++ "'", rest.length)

/-- Reads commands. `opened` holds the places of the blocks that are open. -/
def readCommands (extended : Bool) : Nat → List Nat → List EditCommand → Bytes →
    Except ScriptFlaw (List EditCommand)
  | 0, _, done, _ => .ok done
  | fuel + 1, opened, done, s =>
    match s.dropWhile fun b => isSpace b || b == 0x3B with
    | [] => if opened = [] then .ok done else .error ("unmatched \x60\x7b'", s.length + 1000000)
    | 0x23 :: rest => readCommands extended fuel opened done (rest.dropWhile (· != 0x0A))
    | 0x7D :: rest =>
      match opened with
      | [] => .error ("unexpected \x60\x7d'", rest.length)
      | start :: opened =>
        let closed := done.zipIdx.map fun (c, n) =>
          if n = start then { c with edit := .enter done.length } else c
        readCommands extended fuel opened closed rest
    | s =>
      match address? extended s with
      | .error e => .error e
      | .ok (start, rest) =>
        match (if start.isNone then .ok (none, rest) else secondAddress? extended rest) with
        | .error e => .error e
        | .ok (stop, rest) =>
          let rest := skipBlanks rest
          let negated := rest.head? == some 0x21
          let rest := if negated then skipBlanks (rest.dropWhile (· == 0x21)) else rest
          match editAt extended rest with
          | .error e => .error e
          | .ok (edit, rest) =>
            let place := done.length
            let done := done ++ [⟨start, stop, negated, edit⟩]
            match edit with
            | .enter _ => readCommands extended fuel (place :: opened) done rest
            | _ =>
              match skipBlanks rest with
              | [] => readCommands extended fuel opened done []
              | b :: after =>
                if b = 0x0A || b = 0x3B then readCommands extended fuel opened done after
                else if b = 0x7D || b = 0x23 then readCommands extended fuel opened done (b :: after)
                else .error ("extra characters after command", after.length)

/-- The script a text holds, or the complaint about it with the place it arose at. -/
def readScript (extended : Bool) (text : Bytes) : Except (String × Nat) (List EditCommand) :=
  (readCommands extended (text.length + 1) [] [] text).mapError fun (words, left) =>
    (words, text.length - left)

/-! ## Running -/

/-- An editor at work. -/
structure Editor where
  /-- The line in work, and whether a line break belongs behind it. -/
  space : Bytes
  broken : Bool
  held : Bytes
  /-- The lines that were not read, each with its line break. -/
  ahead : List Bytes
  line : Nat
  out : Bytes
  /-- The last line of the output lacks its line break. -/
  unbroken : Bool
  /-- Text that follows the line. -/
  queue : Bytes
  /-- The ranges that are open, by command, with the line they end at if that is known. -/
  open_ : List (Nat × Option Nat)
  substituted : Bool

namespace Editor

/-- Prints a text that ends in a line break of its own. -/
def put (e : Editor) (text : Bytes) : Editor :=
  if text = [] then e
  else { e with out := e.out ++ (if e.unbroken then [0x0A] else []) ++ text, unbroken := false }

/-- Prints a line with the line break that belongs behind it. -/
def putLine (e : Editor) (text : Bytes) : Editor :=
  { e with
    out := e.out ++ (if e.unbroken then [0x0A] else []) ++ text ++ (if e.broken then [0x0A] else [])
    unbroken := !e.broken }

/-- Reads the next line into an empty space or behind what is there. -/
def read (e : Editor) (behind : Bool) : Option Editor :=
  match e.ahead with
  | [] => none
  | line :: ahead =>
    let broken := line.getLast? == some 0x0A
    let content := if broken then line.dropLast else line
    some { e with
      space := if behind then e.space ++ 0x0A :: content else content
      broken
      ahead
      line := e.line + 1 }

def flush (e : Editor) : Editor := { (e.put e.queue) with queue := [] }

def isAt (e : Editor) : Address → Bool
  | .line n => e.line == n
  | .last => e.ahead.isEmpty
  | .pattern r => (r.find? e.space 0).isSome
  | .every first step =>
    if step = 0 then e.line == first else first ≤ e.line && (e.line - first) % step == 0
  | .later _ => false

/-- A command applies to the line in work. Ranges that start or end here are noted. -/
def applies (e : Editor) (place : Nat) (c : EditCommand) : Bool × Editor :=
  match c.start, c.stop with
  | none, _ => (true, e)
  | some start, none => (e.isAt start, e)
  | some start, some stop =>
    let close (e : Editor) : Editor := { e with open_ := e.open_.filter (·.1 != place) }
    match e.open_.lookup place with
    | some known =>
      let isOver : Bool := match stop, known with
        | _, some last => last ≤ e.line
        | .line n, none => n ≤ e.line
        | address, none => e.isAt address
      let beyond : Bool := match stop, known with
        | .line n, none => n < e.line
        | _, _ => false
      if beyond then (e.isAt start, close e)
      else (true, if isOver then close e else e)
    | none =>
      if !e.isAt start then (false, e)
      else
        let entry : Option (Option Nat) := match stop with
          | .later 0 => none
          | .later n => some (some (e.line + n))
          | .line n => if n ≤ e.line then none else some none
          | _ => some none
        (true, match entry with
          | some known => { e with open_ := (place, known) :: e.open_ }
          | none => e)

/-- The text that replaces a match. -/
def filled (text : Bytes) (m : Regex.Match) (fs : List Filling) : Bytes :=
  fs.flatMap fun
    | .text b => [b]
    | .group 0 => (text.drop m.start).take (m.stop - m.start)
    | .group n => Regex.groupText text m.state n

/-- Replaces matches from a place on: the one with a number, or it and all behind it. An empty match
right behind another one does not count. -/
def replaced (r : Regex) (fs : List Filling) (every : Bool) (text : Bytes) :
    Nat → Nat → Option Nat → Nat → Bytes × Bool
  | 0, _, place, _ => (text.drop (place.getD 0), false)
  | fuel + 1, nth, lastStop, place =>
    match r.find? text place with
    | none => (text.drop place, false)
    | some m =>
      let before := (text.drop place).take (m.start - place)
      if m.stop = m.start && lastStop = some m.start then
        let (more, done) := replaced r fs every text fuel nth none (place + 1)
        (if place < text.length then ((text.drop place).take 1 ++ more, done) else (more, done))
      else if 1 < nth then
        let kept := (text.drop m.start).take (m.stop - m.start)
        let (more, done) := replaced r fs every text fuel (nth - 1) (some m.stop) m.stop
        (before ++ kept ++ more, done)
      else
        let new := filled text m fs
        if every && (m.stop < text.length || m.start < m.stop) then
          (before ++ new ++ (replaced r fs every text fuel 1 (some m.stop) m.stop).1, true)
        else (before ++ new ++ text.drop m.stop, true)

/-- How a pass through the commands ends. -/
inductive Pass where
  | finished
  | deleted
  /-- The commands start again without a new line. -/
  | again
  | quit (print : Bool) (code : Nat)

/-- The place of a label; without a name it is the end. -/
def placeOf (commands : List EditCommand) (name : Bytes) : Nat :=
  if name = [] then commands.length
  else (commands.findIdx fun c => c.edit == .label name)

/-- Carries out the commands from a place on. -/
def run (quiet : Bool) (commands : List EditCommand) : Nat → Nat → Editor → Editor × Pass
  | 0, _, e => (e, .finished)
  | fuel + 1, place, e =>
    match commands[place]? with
    | none => (e, .finished)
    | some c =>
      let (applies, e) := e.applies place c
      let go (e : Editor) := run quiet commands fuel (place + 1) e
      if applies = c.negated then
        match c.edit with
        | .enter stop => run quiet commands fuel stop e
        | _ => go e
      else match c.edit with
        | .substitute r fs every print nth =>
          let (space, done) := replaced r fs every e.space (e.space.length + 2) nth none 0
          if done then
            let e := { e with space, substituted := true }
            go (if print then e.putLine e.space else e)
          else go e
        | .exchange pairs =>
          go { e with space := e.space.map fun b => (pairs.lookup b).getD b }
        | .delete => (e, .deleted)
        | .deleteFirst =>
          if e.space.contains 0x0A then
            ({ e with space := (e.space.dropWhile (· != 0x0A)).tail }, .again)
          else (e, .deleted)
        | .print => go (e.putLine e.space)
        | .printFirst => go (e.put (e.space.takeWhile (· != 0x0A) ++ [0x0A]))
        | .next =>
          if e.ahead = [] then (e, .quit true 0)
          else
            let e := if quiet then e else e.putLine e.space
            go ((e.flush.read false).getD e)
        | .append =>
          if e.ahead = [] then (e, .quit true 0) else go ((e.flush.read true).getD e)
        | .hold behind =>
          go { e with held := if behind then e.held ++ 0x0A :: e.space else e.space }
        | .get behind =>
          go { e with space := if behind then e.space ++ 0x0A :: e.held else e.held }
        | .swap => go { e with space := e.held, held := e.space }
        | .number => go (e.put (numeral e.line ++ [0x0A]))
        | .quit print code => (e, .quit print code)
        | .insert text => go (e.put text)
        | .after text => go { e with queue := e.queue ++ text }
        | .change text =>
          let isOpen := (e.open_.lookup place).isSome && !c.negated
          (if isOpen then e else e.put text, .deleted)
        | .jump name => run quiet commands fuel (placeOf commands name) e
        | .jumpIf name =>
          if e.substituted then
            run quiet commands fuel (placeOf commands name) { e with substituted := false }
          else go e
        | _ => go e

/-- Edits all lines. Answers the editor at the end and the code to exit with. -/
def runAll (quiet : Bool) (commands : List EditCommand) : Nat → Editor → Editor × Nat
  | 0, e => (e, 0)
  | fuel + 1, e =>
    let finish (e : Editor) : Editor := (if quiet then e else e.putLine e.space).flush
    match e.read false with
    | none => (e, 0)
    | some e =>
      match run quiet commands (1000 + 40 * commands.length * (e.ahead.length + 1)) 0 e with
      | (e, .finished) => runAll quiet commands fuel { finish e with substituted := false }
      | (e, .deleted) => runAll quiet commands fuel { e.flush with substituted := false }
      | (e, .again) =>
        let line := e.space ++ if e.broken then [0x0A] else []
        runAll quiet commands fuel { e.flush with ahead := line :: e.ahead, line := e.line - 1 }
      | (e, .quit print code) => (if print then finish e else e, code)

/-- An editor before the first of some lines. -/
def ofLines (lines : List Bytes) : Editor :=
  ⟨[], true, [], lines, 0, [], false, [], [], false⟩

end Editor

/-! ## The utility -/

/-- Edits each file and writes the result back into it. -/
def editInPlace (quiet : Bool) (commands : List EditCommand) (w : Work) (operand : Bytes) : Work :=
  match w.task.disk.inspect true w.task.at_ ⟨operand⟩ with
  | .error cause => (w.complain ["can't read ", operand, ": ", reason cause]).fail 1
  | .ok (l, .file content x) =>
    let (e, code) := Editor.runAll quiet commands (2 * content.length + 2) (.ofLines (linesOf content))
    let w := w.withDisk (w.task.disk.put l (.file e.out x))
    if code = 0 then w else w.fail code
  | .ok _ => (w.complain ["couldn't edit ", operand, ": not a regular file"]).fail 4

/-- The lines of all operands one after the other. -/
def linesOfOperands (w : Work) (operands : List Bytes) : Work × List Bytes :=
  operands.foldl (fun ((w, lines) : Work × List Bytes) operand =>
    match w.readOperand operand with
    | (.ok content, w) => (w, lines ++ linesOf content)
    | (.error (.system errno), w) =>
      if errno = .isDirectory then
        ((w.complain ["couldn't edit ", operand, ": not a regular file"]).fail 2, lines)
      else ((w.complain ["can't read ", operand, ": ", errno.text]).fail 2, lines)
    | (.error cause, w) => ((w.complain ["can't read ", operand, ": ", reason cause]).fail 2, lines))
    (w, [])

/-- The options that may have a value at the end of their own argument: the suffix of copies. -/
def withoutSuffix (args : List Bytes) : List Bytes :=
  args.map fun arg =>
    if (Utf8.ofString "-i").isPrefixOf arg || (Utf8.ofString "--in-place").isPrefixOf arg then
      Utf8.ofString "-i"
    else arg

def sed (t : Task) : Finish :=
  let k : Known := ⟨"nErsuzi", "efl", [("quiet", 'n', .nothing), ("silent", 'n', .nothing),
    ("expression", 'e', .value), ("file", 'f', .value), ("regexp-extended", 'E', .nothing),
    ("separate", 's', .nothing), ("in-place", 'i', .perhaps)], false⟩
  let usage := "[OPTION]... \x7bscript-only-if-no-other-script\x7d [input-file]..."
  let usageLine (w : Work) : Finish :=
    ((w.write .err (Utf8.ofString "Usage: " ++ w.task.zero ++
      Utf8.ofString (" " ++ usage ++ "\n"))).fail 1).finish
  match readOptions k 0 (withoutSuffix t.args) with
  | .error parts => usageLine (t.begin.complain parts)
  | .ok g =>
    let given := g.options.filterMap fun (c, v) =>
      if c = 'e' then v
      else if c = 'f' then (t.disk.readFile t.at_ ⟨v.getD []⟩).toOption
      else none
    match (if given = [] then g.operands.take 1 else given) with
    | [] => usageLine t.begin
    | scripts =>
      let operands := if given = [] then g.operands.tail else g.operands
      let script := (scripts.intersperse [0x0A]).flatten
      match readScript (g.has 'E' || g.has 'r') script with
      | .error (words, place) =>
        ((t.begin.complain ["-e expression #1, char ", numeral place, ": ", words]).fail 1).finish
      | .ok commands =>
        if g.has 'i' then
          (each t.begin operands (editInPlace (g.has 'n') commands)).finishAtOnce
        else
          let (w, lines) := linesOfOperands t.begin (if operands = [] then [[0x2D]] else operands)
          let (e, code) := Editor.runAll (g.has 'n') commands (2 * lines.flatten.length + 2)
            (.ofLines lines)
          let w := w.print e.out
          (if code = 0 then w else w.fail code).finishAtOnce

end FreshBuild.Utility
