/-
# FreshBuild.Outcome — the two steps of a run and how each can end.

A run has two tool steps. Each ends in one of three ways, and only the first is a success; a tool
that was killed by a signal has no exit code to show.
-/
import FreshBuild.Digits

namespace FreshBuild

/-- The two tool steps of a run, in their order. -/
inductive Step where
  | configure
  | build
deriving DecidableEq

def Step.name : Step → String
  | .configure => "configure"
  | .build => "build"

/-- How a tool ended. A failure without a code was a death by signal. -/
inductive Outcome where
  | succeeded
  | failed (code : Option Int)
  | timedOut
deriving DecidableEq

namespace Outcome

/-- The outcome of a finished process. Success wins over whatever code came with it. -/
def ofExit (success : Bool) (code : Option Int) : Outcome :=
  if success then .succeeded else .failed code

def isSuccess : Outcome → Bool
  | .succeeded => true
  | _ => false

def text : Outcome → String
  | .succeeded => "ok"
  | .failed (some code) => "exit " ++ Digits.signedText code
  | .failed none => "killed by signal"
  | .timedOut => "timed out"

end Outcome

end FreshBuild
