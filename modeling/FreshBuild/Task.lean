/-
# FreshBuild.Task — what a process gets and what it leaves.

A process is a function: it gets a disk, a directory, an environment, arguments, an input and the time
it may take, and leaves a disk, what it has written, an ending and the time it took. Time is counted
and never measured, so running the same process twice gives the same finish.

The two outputs are kept as one list of pieces, because a process may have both of them sent to one
place, and then their order shows.
-/
import FreshBuild.Disk.Operations
import FreshBuild.Environment

namespace FreshBuild

/-- The two outputs of a process. -/
inductive Port where
  | out
  | err
deriving DecidableEq

/-- How a process ended. One that outlives its time is stopped where it stands. -/
inductive Ending where
  | exited (code : Nat)
  | signalled (signal : Nat)
  | expired
deriving DecidableEq

/-- The status a shell sees. -/
def Ending.status : Ending → Nat
  | .exited code => code
  | .signalled signal => 128 + signal
  | .expired => 128

/-- What a process is started with. -/
structure Task where
  disk : Disk
  at_ : Location
  environment : Environment
  /-- The name it is started under. -/
  zero : Bytes
  args : List Bytes
  input : Bytes
  /-- The input is a file, and not what another process writes. -/
  fromFile : Bool
  /-- The milliseconds it may take; none is no limit. -/
  limit : Option Nat

/-- What a process leaves behind. -/
structure Finish where
  disk : Disk
  written : List (Port × Bytes)
  /-- The input that was not read. -/
  rest : Bytes
  ending : Ending
  /-- The milliseconds it took. -/
  spent : Nat

/-- All that was written to one output. -/
def Finish.output (f : Finish) (port : Port) : Bytes :=
  f.written.flatMap fun (p, bytes) => if p = port then bytes else []

/-- The time is up once more than the limit is spent. -/
def Task.isOver (t : Task) (spent : Nat) : Bool :=
  t.limit.any (· < spent)

/-- The machine's way to start a program by its name. -/
abbrev Starter := Bytes → Task → Except Errno Finish

/-- A program of the machine. -/
abbrev Program := Starter → Task → Finish

/-! ## A process at work -/

/-- A process at work: its task with the disk as it has become, what it has written, latest first,
and the code it will exit with. -/
structure Work where
  task : Task
  written : List (Port × Bytes)
  code : Nat

/-- A process that has done nothing yet. -/
def Task.begin (t : Task) : Work := ⟨t, [], 0⟩

namespace Work

def write (w : Work) (port : Port) (bytes : Bytes) : Work :=
  if bytes = [] then w else { w with written := (port, bytes) :: w.written }

def print (w : Work) (bytes : Bytes) : Work := w.write .out bytes

/-- A line on the error output, opened by the name of the process. -/
def complain (w : Work) (parts : List Bytes) : Work :=
  w.write .err (w.task.zero ++ Utf8.ofString ": " ++ parts.flatten ++ [0x0A])

/-- The process will exit with a code, unless it fails again. -/
def fail (w : Work) (code : Nat) : Work := { w with code }

def withDisk (w : Work) (disk : Disk) : Work := { w with task := { w.task with disk } }

/-- Reads all of the input. -/
def readInput (w : Work) : Bytes × Work :=
  (w.task.input, { w with task := { w.task with input := [] } })

/-- Reads a file. A lone hyphen is the input. -/
def readOperand (w : Work) (operand : Bytes) : Except Cause Bytes × Work :=
  if operand = [0x2D] then (.ok w.readInput.1, w.readInput.2)
  else (w.task.disk.readFile w.task.at_ ⟨operand⟩, w)

/-- The process ends. What it has written appears in order. -/
def finish (w : Work) : Finish :=
  ⟨w.task.disk, w.written.reverse, w.task.input, .exited w.code, 0⟩

/-- The process ends. Its standard output appears all at once at the end, as that of a program that
writes to no terminal. -/
def finishAtOnce (w : Work) : Finish :=
  let pieces := w.written.reverse
  { w.finish with
    written := pieces.filter (·.1 = .err) ++ pieces.filter (·.1 = .out) }

end Work

/-- A process that does one thing and exits. -/
def Task.exit (t : Task) (out err : Bytes) (code : Nat) : Finish :=
  (((t.begin.write .err err).write .out out).fail code).finish

end FreshBuild
