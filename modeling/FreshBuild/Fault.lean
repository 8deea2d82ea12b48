/-
# FreshBuild.Fault — what can stop a run.

Faults fall into three families with an exit code each: the build directory could not be reset, a
tool could not be started or awaited, or a tool ran without success while success was demanded. The
wording has a head of its own and, where another operation was to blame, that operation's cause.
-/
import FreshBuild.Cause
import FreshBuild.Outcome
import FreshBuild.Path

namespace FreshBuild

/-- What stopped a run. -/
inductive Fault where
  /-- A file operation, named by `action`, failed on `path`. -/
  | filesystem (action : String) (path : Path) (cause : Cause)
  /-- Something that is no directory stands at the build path. -/
  | notADirectory (path : Path)
  /-- The program of a step does not exist. -/
  | toolNotFound (step : Step) (program : String)
  /-- The program of a step could not be started, awaited or stopped. -/
  | toolInvocation (step : Step) (action : String) (program : String) (cause : Cause)
  /-- A tool ran without success and success was demanded. -/
  | buildFailure (step : Step) (outcome : Outcome)
deriving DecidableEq

/-! ## Exit codes -/

namespace ExitCode

/-- The run went through; tools may have failed unless success was demanded. -/
def ok : Nat := 0
/-- The configuration or the output was at fault. -/
def invalid : Nat := 1
/-- The command line was not understood. -/
def usage : Nat := 2
/-- A tool did not succeed although success was demanded. -/
def buildFailure : Nat := 3
/-- The build directory could not be reset. -/
def filesystem : Nat := 4
/-- A tool could not be found, started or awaited. -/
def toolInvocation : Nat := 5

end ExitCode

namespace Fault

def isFilesystem : Fault → Bool
  | .filesystem .. | .notADirectory _ => true
  | _ => false

def isToolInvocation : Fault → Bool
  | .toolNotFound .. | .toolInvocation .. => true
  | _ => false

def exitCode (fault : Fault) : Nat :=
  if fault.isFilesystem then ExitCode.filesystem
  else if fault.isToolInvocation then ExitCode.toolInvocation
  else ExitCode.buildFailure

/-! ## Wording -/

/-- A name between back quotes, as messages show programs and values. -/
def quoted (text : String) : String := "\x60" ++ text ++ "\x60"

/-- The fault's own words. -/
def head : Fault → String
  | .filesystem action path _ => action ++ " " ++ path.display
  | .notADirectory path => path.display ++ " exists but is not a directory"
  | .toolNotFound step program => step.name ++ " tool " ++ quoted program ++ " not found"
  | .toolInvocation step action program _ => action ++ " " ++ step.name ++ " tool " ++ quoted program
  | .buildFailure step outcome => step.name ++ " step failed: " ++ outcome.text

/-- The operation that was to blame, if another one was. -/
def cause? : Fault → Option Cause
  | .filesystem _ _ cause | .toolInvocation _ _ _ cause => some cause
  | _ => none

/-- The whole message: the head, then the cause's words. -/
def message (fault : Fault) : String :=
  match fault.cause? with
  | some cause => fault.head ++ ": " ++ cause.message
  | none => fault.head

end Fault

end FreshBuild
