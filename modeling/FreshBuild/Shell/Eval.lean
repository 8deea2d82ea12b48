/-
# FreshBuild.Shell.Eval — running commands.

A simple command is run in five steps: its words are expanded, its redirections are carried out, its
assignments are made, and then the function, the shell's own command or the program that its first
word names is run; at the end redirections and passing assignments are taken back. All other commands
are made of commands.

Commands and texts contain each other, so both are run by an evaluator that knows how to run what is one
level further in. The evaluator of a depth is built from the one below it, and a script that goes
deeper than the last of them ends like a process whose stack is full.
-/
import FreshBuild.Shell.Copy

namespace FreshBuild.Shell

open FreshBuild.Utility

/-! ## Ways out -/

/-- The status of a command is settled. Traps of signals that have come run now. A failure that
nobody looks at ends the shell if it was told to stop at failures and the command is one of those that
count. -/
def settled (e : Evaluator) (c : Setting) (counts : Bool) (status : Nat) : Run Nat := do
  modify fun s => { s with status }
  let s ← get
  if s.world.pending != [] && !s.isCopy then
    set { s with world := { s.world with pending := [] } }
    for signal in s.world.pending.reverse do
      match Builtin.trap? (← get) signal with
      | some action =>
        if action != [] then
          let _ ← e.text false action
        modify fun s => { s with status }
      | none => if Builtin.isHarmless signal then pure () else throw (.over (.signalled signal))
  if counts && !c.tested && status != 0 && (← get).hasOption 'e' then throw .exit
  else return status

/-- The end of a round of a loop: the loop is left. -/
def leavesLoop : Run Bool := do
  let s ← get
  match s.leaving with
  | none => return false
  | some (.loops n) =>
    set { s with leaving := if n ≤ 1 then none else some (.loops (n - 1)) }
    return true
  | some (.next n) =>
    set { s with leaving := if n ≤ 1 then none else some (.next (n - 1)) }
    return 1 < n
  | some .function => return true

/-- Runs the rounds of a loop, which count as one loop more around their commands. -/
def asLoop (rounds : Run Nat) : Run Nat :=
  Run.around (do
    modify fun s => { s with loops := s.loops + 1 }
    rounds) fun before after => { after with loops := before.loops }

/-! ## Programs -/

/-- A path that no search can be made for. -/
def spelledOut (path : Bytes) : Bytes :=
  if path.contains Path.slash then path else Path.here ++ Path.slash :: path

/-- The shell itself. -/
def shellPath : Bytes := "/bin/sh"

/-- Starts the first of some programs that can be started. A file that is no program is a script. -/
def startFirst (start : Starter) (t : Task) : Errno → List Bytes → Except Errno Finish
  | errno, [] => .error errno
  | errno, path :: rest =>
    match start (spelledOut path) t with
    | .ok f => .ok f
    | .error errno' =>
      if errno' = .execFormat then
        start shellPath { t with
          zero := shellPath
          args := path :: t.args }
      else
        startFirst start t
          (if errno' = .noEntry || errno' = .notDirectory then errno else errno') rest

/-- The task that a program is started with. -/
def State.task (s : State) (name : Bytes) (args : List Bytes) : Task :=
  let (input, fromFile) := s.input 0
  ⟨s.world.disk, s.here, s.environment, name, args, input, fromFile,
    s.world.limit.map (· - s.world.spent)⟩

/-- Takes over what a program has left behind. -/
def takeOver (name : Bytes) (f : Finish) : Run Ending := do
  Run.changeDisk f.disk
  modify fun s => s.consume 0 f.rest.length
  let isOpen ← Run.isWritable 1
  for (port, bytes) in f.written do
    match port with
    | .out => Run.write 1 bytes
    | .err => Run.write 2 bytes
  Run.spend f.spent
  if !isOpen && (f.output .out) != [] && f.ending = .exited 0 then
    Run.write 2 (name ++ Utf8.ofString (": write error: " ++ Errno.badDescriptor.text ++ "\n"))
    return .exited 1
  else return f.ending

/-- The status of a shell whose program did not start. -/
def notStartedStatus (errno : Errno) : Nat :=
  if [Errno.noEntry, .notDirectory, .loop, .nameTooLong].contains errno then 127 else 126

/-- Runs a program, at the first of some paths at which there is one. If nothing comes after it, it
takes the place of the shell. -/
def runProgram (e : Evaluator) (inPlace : Bool) (paths : List Bytes) (name : Bytes)
    (args : List Bytes) : Run Nat := do
  match startFirst e.start ((← get).task name args) .noEntry paths with
  | .error errno =>
    Run.warn [name, ": ", programReason errno]
    return notStartedStatus errno
  | .ok f =>
    let ending ← takeOver name f
    if inPlace then throw (.over ending) else Builtin.reap ending

/-! ## Functions -/

/-- Runs a function with arguments of its own. -/
def runFunction (e : Evaluator) (c : Setting) (body : Node) (args : List Bytes) : Run Nat :=
  Run.around (do
    modify fun s => { s with
      args
      loops := 0
      optionIndex := 1
      optionOffset := none }
    let status ← e.node { c with last := false } body
    modify fun s => { s with leaving := if s.leaving = some .function then none else s.leaving }
    return status) fun before after => { after with
      args := before.args
      loops := before.loops
      optionIndex := before.optionIndex
      optionOffset := before.optionOffset }

/-! ## The shell's own commands -/

/-- The path of a script that is to be read into the shell. -/
def sourcePath (name : Bytes) : Run Bytes := do
  if name.contains Path.slash then return name
  else
    let s ← get
    match (searchPaths s.searchPath name).find? fun path =>
        match Spot.at s path with
        | .program => true
        | _ => false with
    | some path => return path
    | none => Run.fail [name, ": not found"]

/-- Runs a script in the shell itself. -/
def runSource (e : Evaluator) (args : List Bytes) : Run Nat := do
  match ← Builtin.operandsOf args with
  | [] => return (← get).status
  | name :: _ =>
    let path ← sourcePath name
    let s ← get
    let content ← match s.world.disk.inspect true s.here ⟨path⟩ with
      | .ok (_, .file content _) => pure content
      | .ok _ => pure []
      | .error cause => notOpened false path cause
    modify fun s => { s with command := some path }
    let status ← e.text false content
    modify fun s => { s with leaving := if s.leaving = some .function then none else s.leaving }
    return status

/-- Becomes a program. Without one there is nothing to do. -/
def runInstead (e : Evaluator) : List Bytes → Run Nat
  | [] => return 0
  | name :: args => do
    let s ← get
    let paths := if name.contains Path.slash then [name] else searchPaths s.searchPath name
    let status ← runProgram e true paths name args
    modify fun s => { s with status }
    throw .exit

/-- Describes a command, as far as that was asked for. -/
def runDescription (args : List Bytes) : Run Nat := do
  match ← Builtin.commandOptions args with
  | (some wording, isStandard, name :: _) =>
    let s ← get
    Builtin.describe wording (if isStandard then standardPath else s.searchPath) name
  | _ => return 0

/-- Prints what a command of the shell's own has kept back. -/
def flush (name : Bytes) (status : Nat) : Run Nat := do
  let bytes := (← get).printed.reverse.flatten
  modify fun s => { s with printed := [] }
  if bytes = [] then return status
  else if ← Run.isWritable 1 then
    Run.write 1 bytes
    return status
  else
    Run.warn [name, ": I/O error"]
    return Nat.lor status 1

/-- Runs a command of the shell's own. Its error is an error of the shell only if it is special. -/
def runOwn (e : Evaluator) (c : Setting) (isSpecial : Bool) (name : Bytes) (args : List Bytes) :
    Run Nat :=
  let act : Run Nat := match Utf8.lossy name with
    | "eval" => e.text c.tested ((args.intersperse [0x20]).flatten)
    | "." => runSource e args
    | "exec" => runInstead e args
    | "command" => runDescription args
    | known => (Builtin.run? known args).getD (return 127)
  let isCaught : Abort → Bool
    | .error => !isSpecial
    | _ => false
  Run.around (fun s =>
    let s := { s with command := some name }
    match act s with
    | .ok status s => flush name status s
    | .error cut s =>
      match flush name s.status s with
      | .ok status s => if isCaught cut then .ok status s else .error cut s
      | failed => failed) fun before after => { after with command := before.command }

/-! ## The words of a command -/

/-- The front of a command while it is expanded. -/
structure Front where
  /-- What has been passed over: `command` and its options. -/
  passed : List Bytes
  fields : List Bytes
  words : List Word
  /-- The name stands behind `command`. -/
  isGuarded : Bool
  /-- The standard path counts. -/
  isStandard : Bool

/-- Expands words until there is a field. -/
def firstFields (output : Output) : List Word → Run (List Bytes × List Word)
  | [] => return ([], [])
  | w :: rest => do
    match ← wordFields output w with
    | [] => firstFields output rest
    | fields => return (fields, rest)

/-- Passes over the first field. None if there is no other. -/
def Front.pass (output : Output) (f : Front) : Run (Option Front) := do
  match f.fields with
  | name :: [] =>
    match ← firstFields output f.words with
    | ([], _) => return none
    | (fields, words) => return some { f with
        passed := f.passed ++ [name]
        fields
        words }
  | name :: rest => return some { f with
      passed := f.passed ++ [name]
      fields := rest }
  | [] => return none

/-- Passes over `command` and those of its options that do not ask for a description. None if it was
no more than that. -/
def Front.beyondOptions (output : Output) : Nat → Front → Run (Option Front)
  | 0, f => return some f
  | fuel + 1, f => do
    match f.fields with
    | [0x2D, 0x2D] :: _ => f.pass output
    | (0x2D :: b :: letters) :: _ =>
      if (b :: letters).all (· == 0x70) then
        match ← f.pass output with
        | some f => Front.beyondOptions output fuel { f with isStandard := true }
        | none => return none
      else return none
    | _ => return some f

/-- Passes over `command`, as often as it stands in front. The answer still has a `command` in front
if that is what has to be run. The number of steps is that of the words. -/
def Front.beyondGuards (output : Output) : Nat → Front → Run Front
  | 0, f => return f
  | fuel + 1, f => do
    let s ← get
    let isGuard := f.fields.head? == some (Utf8.ofString "command") &&
      (f.isGuarded || (s.functions.lookup "command").isNone)
    if !isGuard then return f
    else
      let whole (g : Front) : Front := { g with
        passed := []
        fields := g.passed ++ g.fields
        isGuarded := true }
      match ← f.pass output with
      | none => return whole f
      | some g =>
        match ← g.beyondOptions output (g.fields.length + g.words.length + 1) with
        | none =>
          return { f with
            fields := f.fields.take 1 ++ g.fields
            words := g.words
            isGuarded := true }
        | some g => Front.beyondGuards output fuel { g with isGuarded := true }

/-- Expands a word of a command that takes assignments. The value of an assignment stays whole. -/
def assignmentFields (output : Output) (w : Word) : Run (List Bytes) := do
  match assignment? w with
  | some (name, value) =>
    return [Text.bytes name ++ 0x3D :: (← wordValue output .everywhere value)]
  | none => wordFields output w

/-! ## Simple commands -/

/-- Takes back the passing assignments down to a number of frames. -/
def unwind (depth : Nat) : Run Unit :=
  modify fun s =>
    let count := s.locals.length - depth
    let variables_ := ((s.locals.take count).flatten).foldl (fun (vs : Variables) (name, old) =>
      match old with
      | none => vs.filter (·.1 != name)
      | some v =>
        if (vs.lookup name).isSome then vs.map fun (n, w) => (n, if n = name then v else w)
        else vs ++ [(name, v)]) s.variables_
    { s with
      variables_
      locals := s.locals.drop count }

/-- Makes an assignment. One that passes is exported, and what was before is noted. -/
def makeAssignment (passes exports : Bool) (name : String) (value : Bytes) : Run Unit := do
  if passes then
    modify fun s => { s with
      locals := match s.locals with
        | frame :: frames =>
          (if (frame.lookup name).isSome then frame
            else (name, s.variables_.lookup name) :: frame) :: frames
        | [] => [] }
  Run.assign name value
  if passes || exports then
    modify (·.modifyVariable name fun v => { v with exported := true })

/-- Shows a command before it runs, where complaints went before its redirections. -/
def trace (stream : Option Nat) (assignments fields : List Bytes) : Run Unit := do
  let s ← get
  if s.hasOption 'x' then
    match stream with
    | some n =>
      let line := ((assignments ++ fields).intersperse [0x20]).flatten
      let mark := (s.lookup? "PS4").getD []
      set { s with world := s.world.write n (mark ++ line ++ [0x0A]) }
    | none => return

/-- Runs what the name of a command stands for. -/
def runNamed (e : Evaluator) (c : Setting) (isSpecial : Bool) (f : Front) (name : Bytes)
    (args : List Bytes) : Run Nat := do
  let s ← get
  let path := if f.isStandard then standardPath else s.searchPath
  match Found.of s path (!f.isGuarded) name with
  | .function _ body => runFunction e c body args
  | .own _ => runOwn e c isSpecial name args
  | .program paths => runProgram e (c.last && s.isUntrapped) paths name args
  | .missing errno =>
    Run.warn [name, ": ", programReason errno]
    return 127

/-- Runs a simple command. -/
def runSimple (e : Evaluator) (c : Setting) (line : Nat) (assignments : List (Text × Word))
    (words : List Word) (redirections : List Redirection) : Run Nat := do
  modify fun s => { s with
    line
    lastOutput := 0 }
  let output := outputOf e
  let (fields, rest) ← firstFields output words
  let f ← Front.beyondGuards output (words.length + fields.length) ⟨[], fields, rest, false, false⟩
  let name := f.fields.head?.getD []
  let s ← get
  let isFunction := !f.isGuarded && (s.functions.lookup (Utf8.lossy name)).isSome
  let isOwn := !isFunction && isOwnName name
  let more ← f.words.mapM fun w =>
    if isOwn && takesAssignments name then assignmentFields output w else wordFields output w
  let fields := f.fields ++ more.flatten
  let isSpecial := isOwn && !f.isGuarded && isSpecialName name
  let passes := fields != [] && !isSpecial
  let before ← get
  if passes then set { before with locals := [] :: before.locals }
  let depth := before.locals.length
  let turns ← redirections.mapM (Turn.of output)
  let isKept := isOwn && name = Utf8.ofString "exec"
  Run.around (do
    if ← Run.attempt (turns.forM (Turn.apply output)) then
      let shown ← assignments.mapM fun (name, w) => do
        let value ← wordValue output .everywhere w
        makeAssignment passes (isKept && fields.length > 1) (String.ofList name) value
        return Text.bytes name ++ 0x3D :: value
      trace (before.descriptors.lookup 2) shown (f.passed ++ fields)
      let status ← match fields with
        | [] => pure (← get).lastOutput
        | name :: args => runNamed e c isSpecial f name args
      unwind depth
      return status
    else
      let status := (← get).status
      unwind depth
      if isSpecial then throw .error else return status) fun before after =>
    if isKept then after else after.withDescriptorsOf before turns

/-! ## Commands made of commands -/

/-- Runs commands one after the other until one is left. -/
def runSequence (e : Evaluator) (c : Setting) : List Node → Run Nat
  | [] => return 0
  | [n] => e.node c n
  | n :: rest => do
    let status ← e.node { c with last := false } n
    if (← get).leaving.isSome then return status else runSequence e c rest

/-- Runs a command behind another one, unless something is being left. -/
def runSecond (e : Evaluator) (c : Setting) (first second : Node) (goesOn : Nat → Bool) : Run Nat := do
  let status ← e.node ⟨true, false⟩ first
  if (← get).leaving.isSome || !goesOn status then return status else e.node c second

/-- The rounds of a loop with a test. -/
def testedRounds (e : Evaluator) (c : Setting) (until_ : Bool) (test body : Node) : Nat → Nat → Run Nat
  | 0, status => return status
  | fuel + 1, status => do
    Run.step
    let tested ← e.node ⟨true, false⟩ test
    let isLeaving := (← get).leaving
    let leaves ← leavesLoop
    if isLeaving.isSome then
      let status := if isLeaving = some .function then tested else status
      if leaves then return status else testedRounds e c until_ test body fuel status
    else if (tested == 0) == until_ then return status
    else
      let status ← e.node { c with last := false } body
      if ← leavesLoop then return status else testedRounds e c until_ test body fuel status

/-- The rounds of a loop over values. -/
def eachRounds (e : Evaluator) (c : Setting) (name : String) (body : Node) : List Bytes → Nat → Run Nat
  | [], status => return status
  | value :: rest, _ => do
    Run.step
    Run.assign name value
    let status ← e.node { c with last := false } body
    if ← leavesLoop then return status else eachRounds e c name body rest status

/-- One of some patterns matches. -/
def matchesOne (output : Output) (value : Bytes) : List Word → Run Bool
  | [] => return false
  | w :: rest => do
    if Glyph.matches (← wordPattern output w) value then return true else matchesOne output value rest

/-- Runs the first arm of a selection that has a pattern for the value. -/
def runArm (e : Evaluator) (c : Setting) (value : Bytes) :
    List (List Word × Option Node) → Run Nat
  | [] => return 0
  | (patterns, body) :: rest => do
    if ← matchesOne (outputOf e) value patterns then
      match body with
      | some n => e.node c n
      | none => return 0
    else runArm e c value rest

/-- Runs commands with redirections around them. The answer tells whether the redirections failed. -/
def runRedirected (e : Evaluator) (c : Setting) (body : Node) (redirections : List Redirection) :
    Run (Bool × Nat) := do
  let turns ← redirections.mapM (Turn.of (outputOf e))
  Run.around (do
    if ← Run.attempt (turns.forM (Turn.apply (outputOf e))) then
      return (false, ← e.node { c with last := false } body)
    else return (true, (← get).status)) fun before after => after.withDescriptorsOf before turns

def atLine (line : Nat) : Run Unit := modify fun s => { s with line }

/-- Runs a command. -/
def evalNode (e : Evaluator) (c : Setting) (n : Node) : Run Nat := do
  if (← get).hasOption 'n' then return (← get).status
  else match n with
    | .simple line assignments words redirections =>
      settled e c true (← runSimple e c line assignments words redirections)
    | .pipe parts => settled e c true (← runPipeline e c parts)
    | .not body =>
      let status ← e.node ⟨true, false⟩ body
      if (← get).leaving.isSome then settled e c false status
      else settled e c false (if status = 0 then 1 else 0)
    | .and left right => settled e c false (← runSecond e c left right (· == 0))
    | .or left right => settled e c false (← runSecond e c left right (· != 0))
    | .sequence items => settled e c false (← runSequence e c items)
    | .background body =>
      inBackground e (e.node ⟨false, true⟩ body)
      settled e c true 0
    | .redirected line body redirections =>
      atLine line
      let (failed, status) ← runRedirected e c body redirections
      settled e c failed status
    | .subshell line body redirections =>
      atLine line
      let turns ← redirections.mapM (Turn.of (outputOf e))
      settled e c true (← aside e c do
        turns.forM (Turn.apply (outputOf e))
        e.node { c with last := true } body)
    | .choice test body other =>
      let tested ← e.node ⟨true, false⟩ test
      if (← get).leaving.isSome then settled e c false tested
      else match (if tested = 0 then some body else other) with
        | some n => settled e c false (← e.node c n)
        | none => settled e c false 0
    | .loop until_ test body =>
      let fuel := (← get).world.budget + 1
      settled e c false (← asLoop (testedRounds e c until_ test body fuel 0))
    | .each line name words body =>
      atLine line
      let values ← match words with
        | some words => pure (← words.mapM (wordFields (outputOf e))).flatten
        | none => pure (← get).args
      settled e c false (← asLoop (eachRounds e c (String.ofList name) body values 0))
    | .select line word arms =>
      atLine line
      let value ← wordValue (outputOf e) .first word
      settled e c false (← runArm e c value arms)
    | .define line name body =>
      let name := String.ofList name
      modify fun s => { s with
        functions := (name, line, body) :: s.functions.filter (·.1 != name) }
      settled e c false 0

/-! ## Texts of commands -/

/-- Runs the commands that are left of a script, line by line. -/
def runLines (e : Evaluator) (tested : Bool) : Nat → Source → Nat → Run Nat
  | 0, _, status => return status
  | fuel + 1, source, status => do
    let s ← get
    let aliases := s.aliases.map fun (name, value) => (Text.ofBytes name, Text.ofBytes value)
    match readLine.run { source with
        aliases
        documents := []
        nextDocument := s.world.nextDocument } with
    | .error flaw source =>
      set { s with sourceLine := source.line }
      Run.failSyntax flaw.text
    | .ok none _ => return status
    | .ok (some node) source =>
      set { s with
        sourceLine := source.line
        world := { s.world with
          documents := source.documents ++ s.world.documents
          nextDocument := source.nextDocument } }
      match node with
      | none => runLines e tested fuel source status
      | some n =>
        let status ← e.node ⟨tested, false⟩ n
        if (← get).leaving.isSome then return status else runLines e tested fuel source status

/-- Runs a text of commands. -/
def evalText (e : Evaluator) (tested : Bool) (text : Bytes) : Run Nat :=
  Run.around (runLines e tested (text.length + 2) (Source.ofText (Text.ofBytes text) 0 []) 0)
    fun before after => { after with sourceLine := before.sourceLine }

/-! ## Evaluators -/

/-- The evaluator of a depth. -/
def Evaluator.ofDepth (start : Starter) : Nat → Evaluator
  | 0 => ⟨start, fun _ _ => throw (.over (.signalled 11)), fun _ _ => throw (.over (.signalled 11))⟩
  | depth + 1 =>
    let e := Evaluator.ofDepth start depth
    ⟨start, evalNode e, evalText e⟩

/-- How deep commands may contain each other while they run. -/
def maxDepth : Nat := 2000

end FreshBuild.Shell
