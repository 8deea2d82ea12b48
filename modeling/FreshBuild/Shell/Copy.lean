/-
# FreshBuild.Shell.Copy — shells inside of shells.

A part of a script that must not change its shell runs in a copy of it. The copy starts with the state
of the shell, without its traps and jobs, and when it is over only what the two share is kept: the
disk, what was written, and the time that went by.

What runs a command is a parameter here, because commands and copies contain each other.
-/
import FreshBuild.Shell.Builtin
import FreshBuild.Shell.Opening

namespace FreshBuild.Shell

open FreshBuild.Utility

/-- In what circumstances a command runs. -/
structure Setting where
  /-- Somebody looks at its status, so a failure is no reason to stop. -/
  tested : Bool
  /-- Nothing comes after it in its shell. -/
  last : Bool

/-- What runs programs, commands and texts of commands. -/
structure Evaluator where
  start : Starter
  node : Setting → Node → Run Nat
  text : (tested : Bool) → Bytes → Run Nat

namespace Run

/-- Runs something and puts things back afterwards, however it ended. -/
def around {α : Type} (act : Run α) (back : State → State → State) : Run α := fun s =>
  match act s with
  | .ok a s' => .ok a (back s s')
  | .error cut s' => .error cut (back s s')

/-- Runs something that may end in an error of the shell; the answer tells whether it did not. -/
def attempt (act : Run Unit) : Run Bool := fun s =>
  match act s with
  | .ok () s' => .ok true s'
  | .error .error s' => .ok false s'
  | .error cut s' => .error cut s'

end Run

/-! ## The end of a shell -/

/-- Runs something as all that is left of a shell: how the shell ends. An error or an exit lets the
trap for the end run, and the death of the process does not. -/
def ending (e : Evaluator) (act : Run Nat) (s : State) : Ending × State :=
  let (cut, s) : Abort × State := match act s with
    | .ok _ s => (.exit, s)
    | .error cut s => (cut, s)
  match cut, Builtin.trap? s 0 with
  | .over ending, _ => (ending, s)
  | _, none | _, some [] => (.exited s.status, s)
  | _, some action =>
    let status := s.status
    let s := { s with
      traps := s.traps.filter (·.signal != 0)
      leaving := none }
    match e.text false action s with
    | .ok _ s => (.exited status, s)
    | .error .exit s | .error .error s => (.exited s.status, s)
    | .error (.over ending) s => (ending, s)

/-- The shell has no trap that would have something to do. -/
def State.isUntrapped (s : State) : Bool := s.traps.all (·.action = [])

/-- A signal that the first shell was sent and has no trap for ends it. -/
def dieOfSignals : Run Unit := do
  let s ← get
  if s.isCopy then return
  else match s.world.pending.reverse.find? fun n =>
      (Builtin.trap? s n).isNone && !Builtin.isHarmless n with
    | some signal => throw (.over (.signalled signal))
    | none => return

/-- Runs something in a copy of the shell: how the copy ends. -/
def inCopy (e : Evaluator) (act : Run Nat) : Run Ending := do
  let s ← get
  let (ending, after) := ending e act { s with
    isCopy := true
    traps := s.traps.filter (·.action = [])
    sourceLine := if s.isArgument then 1 else s.sourceLine
    jobs := [] }
  set { s with world := after.world }
  dieOfSignals
  return ending

/-- Runs something in a copy of the shell, or in the shell itself if nothing else is left to do. -/
def aside (e : Evaluator) (c : Setting) (act : Run Nat) : Run Nat := do
  let s ← get
  if c.last && s.isUntrapped then
    let (ending, after) := ending e act s
    set after
    throw (.over ending)
  else Builtin.reap (← inCopy e act)

/-! ## The output of commands -/

/-- What was written to a stream. -/
def gathered (stream : Nat) : Run Bytes := do
  match (← get).world.streams[stream]? with
  | some (.gathered pieces) => return pieces.reverse.flatten
  | _ => return []

/-- The output of a command. -/
def outputOf (e : Evaluator) : Output
  | none => return []
  | some node => do
    let stream ← Run.newStream (.gathered [])
    let ending ← inCopy e do
      Run.point 1 stream
      e.node ⟨false, true⟩ node
    let status ← Builtin.reap ending
    modify fun s => { s with lastOutput := status }
    gathered stream

/-! ## Pipelines -/

/-- The steps that are left to the reader of a pipe whose writer would never stop. -/
def readerBudget : Nat := 10000

/-- Sets the clock of what shells share. -/
def setClock (spent : Nat) : Run Unit :=
  modify fun s => { s with world := { s.world with spent } }

/-- Runs one part of a pipeline, which starts at a time, with its input and its output. A writer
that would never stop is stopped once nobody reads any more. -/
def pipePart (e : Evaluator) (c : Setting) (began : Nat) (input output : Option Nat) (part : Node) :
    Run (Ending × Nat) := do
  setClock began
  let ending ← inCopy e do
    match input with
    | some stream => Run.point 0 stream
    | none => pure ()
    match output with
    | some stream => Run.point 1 stream
    | none => pure ()
    e.node { c with last := true } part
  let s ← get
  if ending = .expired && s.world.budget = 0 && output.isSome then
    set { s with world := { s.world with budget := readerBudget } }
    return (.signalled 13, began)
  else return (ending, s.world.spent)

/-- Runs the parts of a pipeline, each with the output of the one before as its input. The answer has
the endings and the time at which the last of them came. -/
def runParts (e : Evaluator) (c : Setting) (began : Nat) : Option Nat → List Node →
    Run (List Ending × Nat)
  | _, [] => return ([], began)
  | input, [part] => do
    let (ending, ended) ← pipePart e c began input none part
    return ([ending], ended)
  | input, part :: rest => do
    let output ← Run.newStream (.gathered [])
    let (ending, ended) ← pipePart e c began input (some output) part
    let next ← Run.newStream (.source (← gathered output) false)
    let (endings, last) ← runParts e c began (some next) rest
    return (ending :: endings, max ended last)

/-- Runs a pipeline: the status of its last part. -/
def runPipeline (e : Evaluator) (c : Setting) (parts : List Node) : Run Nat := do
  let (endings, ended) ← runParts e c (← get).world.spent none parts
  setClock ended
  let statuses ← endings.mapM Builtin.reap
  return statuses.getLast?.getD 0

/-! ## The background -/

/-- Runs something in the background: it takes time of its own. -/
def inBackground (e : Evaluator) (act : Run Nat) : Run Unit := do
  let s ← get
  let ending ← inCopy e do
    Run.point 0 (← Run.newStream .null)
    act
  let after := (← get).world
  let finished := if ending = .expired then after.limit.getD after.spent + 1 else after.spent
  let process := after.nextProcess
  set { s with
    world := { after with
      spent := s.world.spent
      budget := s.world.budget
      nextProcess := process + 1 }
    jobs := s.jobs ++ [(⟨process, ending, finished⟩ : Job)]
    lastJob := some process }

end FreshBuild.Shell
