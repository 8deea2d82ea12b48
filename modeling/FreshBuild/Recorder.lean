/-
# FreshBuild.Recorder — a runner that starts nothing.

A recorder answers every call from a script and writes down what it was asked and what it saw in the
working directory. After the end of the script every further call succeeds. It leaves the disk alone,
so whatever it saw in a directory was put there by somebody else.
-/
import FreshBuild.Run

namespace FreshBuild

/-- One entry of a script: an outcome, or a program that does not exist. -/
inductive Scripted where
  | outcome (o : Outcome)
  | notFound
deriving DecidableEq

/-- A call as the recorder saw it. -/
structure Record where
  invocation : Invocation
  /-- The names in the working directory, as text and in order. -/
  entries : List String
deriving DecidableEq

/-- The script that is left and the calls so far. -/
structure Recorder where
  script : List Scripted
  calls : List Record
deriving DecidableEq

namespace Recorder

/-- A recorder at the start of its script. -/
def ofScript (script : List Scripted) : Recorder := ⟨script, []⟩

/-- The names in a directory, as text and in order; none if it cannot be read. -/
def visibleNames (d : Disk) (at_ : Location) (p : Path) : List String :=
  match d.enter at_ p with
  | .ok dir => ((d.children dir).map Utf8.lossy).mergeSort fun a b => !decide (b < a)
  | .error _ => []

/-- The answer to a call. -/
def answer (i : Invocation) : Option Scripted → Except Fault Outcome
  | some (.outcome o) => .ok o
  | some .notFound => .error (.toolNotFound i.step i.program)
  | none => .ok .succeeded

/-- The recorder as a runner in the current directory `at_`. -/
def run (at_ : Location) : Runner Recorder := fun d r i =>
  { disk := d
    state := ⟨r.script.tail, r.calls ++ [⟨i, visibleNames d at_ i.workdir⟩]⟩
    answer := answer i r.script.head? }

/-- The number of calls for a step. -/
def count (r : Recorder) (step : Step) : Nat :=
  r.calls.countP fun c => c.invocation.step = step

end Recorder

end FreshBuild
