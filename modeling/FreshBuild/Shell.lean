/-
# FreshBuild.Shell — the shell as a program.

A shell is started with a text of commands, with the name of a script, or with neither; then its input
is the script, and there is no input left for the commands in it.
-/
import FreshBuild.Shell.Eval

namespace FreshBuild.Shell

open FreshBuild.Utility

/-! ## The start -/

/-- The number of the process, which differs from that of every process it starts. -/
def firstProcess : Nat := 1000

/-- The variables of a shell in an environment. The shell's own ones come first; names that no variable
can have are dropped. -/
def startVariables (env : Environment) : Variables :=
  let own : List (String × Bytes) :=
    [("IFS", " \t\n"), ("PATH", standardPath), ("PS1", "# "), ("PS2", "> "), ("PS4", "+ "),
      ("OPTIND", "1"), ("PPID", numeral (firstProcess - 1))]
  let fixed := ["IFS", "OPTIND", "PPID"]
  env.foldl (fun vs (name, value) =>
    if !isName name.toList then vs
    else if (vs.lookup name).isSome then vs.map fun (n, v) =>
      if n != name then (n, v)
      else if fixed.contains n then (n, { v with exported := true })
      else (n, ⟨some value, true, false⟩)
    else vs ++ [(name, ⟨some value, true, false⟩)])
    (own.map fun (name, value) => (name, ⟨some value, false, false⟩))

/-- A shell at its start. -/
def State.ofTask (t : Task) : State :=
  { world := {
      disk := t.disk
      written := []
      streams := #[.source t.input t.fromFile, .port .out, .port .err]
      spent := 0
      limit := t.limit
      budget := 100000
      documents := []
      nextDocument := 0
      nextProcess := firstProcess + 1
      pending := [] }
    station := Station.enter t.disk t.at_
    directory := []
    descriptors := [(0, 0), (1, 1), (2, 2)]
    variables_ := startVariables t.environment
    functions := []
    zero := t.zero
    args := []
    status := 0
    options := []
    traps := []
    aliases := []
    jobs := []
    lastJob := none
    process := firstProcess
    line := 0
    sourceLine := 1
    isArgument := false
    leaving := none
    loops := 0
    locals := []
    command := none
    lastOutput := 0
    optionIndex := 1
    optionOffset := none
    printed := []
    mask := 18
    isCopy := false }

/-- The shell finds out where it is. A path in the environment counts if it leads there. -/
def findPlace : Run Unit := do
  let s ← get
  let given := (s.lookup? "PWD").filter fun path =>
    path.head? = some Path.slash && (s.world.disk.enter s.here ⟨path⟩).toOption == some s.here
  let directory ← match given, Builtin.physical? s with
    | some path, _ | none, some path => pure path
    | none, none =>
      Builtin.noPlace
      pure []
  modify fun s =>
    { (s.assign "PWD" directory).modifyVariable "PWD" fun v => { v with exported := true } with
      directory }

/-! ## Arguments -/

/-- Where the commands come from. -/
inductive Origin where
  | text (commands : Bytes)
  | script (path : Bytes)
  | input

/-- The options in front of the arguments: whether the commands are an argument, and the arguments
that are left. -/
def readOptions : List Bytes → Bool → Run (Bool × List Bytes)
  | [], isText => return (isText, [])
  | arg :: rest, isText => do
    let isPlus := arg.head? == some 0x2B
    if arg = [0x2D] || arg = [0x2D, 0x2D] then return (isText, rest)
    else if !(isPlus || arg.head? == some 0x2D) then return (isText, arg :: rest)
    else
      let letters := arg.tail
      let names ← Builtin.switchAll (!isPlus) (letters.filter fun b => b != 0x63 && b != 0x6C)
      let isText := isText || letters.contains 0x63
      if names = 0 then readOptions rest isText
      else
        Builtin.switchNamed (!isPlus) rest.head?
        match rest with
        | [] => return (isText, [])
        | _ :: rest => readOptions rest isText

/-- Reads the arguments of the shell. -/
def readArguments (args : List Bytes) : Run Origin := do
  let (isText, rest) ← readOptions args false
  let named (rest : List Bytes) : Run Unit := modify fun s => { s with
    zero := rest.head?.getD s.zero
    args := rest.tail }
  match isText, rest with
  | true, [] => Run.fail ["-c requires an argument"]
  | true, commands :: rest =>
    named rest
    return .text commands
  | false, [] =>
    Builtin.switch true 's'
    return .input
  | false, path :: rest => do
    if (← get).hasOption 's' then
      modify fun s => { s with args := path :: rest }
      return .input
    else
      modify fun s => { s with args := rest }
      return .script path

/-- The content of a script. -/
def scriptContent (path : Bytes) : Run Bytes := do
  let s ← get
  match s.world.disk.inspect true s.here ⟨path⟩ with
  | .ok (_, .file content _) => return content
  | .ok _ => return []
  | .error cause => notOpened false path cause

/-- All of the input, which is then empty. -/
def takeInput : Run Bytes := do
  let s ← get
  let (content, _) := s.input 0
  set (s.consume 0 0)
  return content

/-- Runs the commands that the arguments name. Complaints about the arguments name no line. -/
def runArguments (e : Evaluator) (args : List Bytes) : Run Nat := do
  findPlace
  let origin ← readArguments args
  let _ ← flush (← get).zero 0
  match origin with
  | .text commands =>
    modify fun s => { s with isArgument := true }
    let status ← e.text false commands
    if (← get).hasOption 's' then e.text false (← takeInput) else return status
  | .input => e.text false (← takeInput)
  | .script path =>
    let content ← scriptContent path
    modify fun s => { s with zero := path }
    e.text false content

/-! ## The program -/

/-- The shell, with a way to start programs. -/
def run (start : Starter) (t : Task) : Finish :=
  let e := Evaluator.ofDepth start maxDepth
  let (ending, s) := ending e (runArguments e t.args) (State.ofTask t)
  { disk := s.world.disk
    written := s.world.written.reverse
    rest := (s.input 0).1
    ending := match ending with
      | .exited code => .exited (code % 256)
      | other => other
    spent := s.world.spent }

end FreshBuild.Shell
