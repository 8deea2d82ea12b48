/-
# FreshBuild.Run — carrying out a plan.

A run resets the build directory, runs the configure tool in it and then, unless an unsuccessful
configure step forbids it, the build tool. How a tool is run is left open: a runner is any function
from the disk and an invocation to a new disk and an answer, with a state of its own. The transcript
of a run keeps every call together with the disk it found.
-/
import FreshBuild.BuildDir
import FreshBuild.Plan
import FreshBuild.Report

namespace FreshBuild

/-- The root of a project as an absolute path, by spelling alone. A relative one starts at the
current directory `at_`, which must still be there. -/
def resolveRoot (d : Disk) (at_ : Location) (root : Path) : Except Fault Path :=
  match root.absolute? (Location.path at_) with
  | none => .error (.filesystem "resolve" root .emptyPath)
  | some p =>
    if root.isAbsolute || d.hasDirectory at_ then .ok p
    else .error (.filesystem "resolve" root (.system .noEntry))

/-- What a runner leaves behind after one call. -/
structure Reply (σ : Type) where
  disk : Disk
  state : σ
  answer : Except Fault Outcome

/-- A way to run tools. -/
abbrev Runner (σ : Type) := Disk → σ → Invocation → Reply σ

/-- One call of a runner, with the disk it found. -/
structure Call where
  disk : Disk
  invocation : Invocation

/-- A run from its first step to its last. -/
structure Transcript (σ : Type) where
  disk : Disk
  state : σ
  calls : List Call
  result : Except Fault Report

namespace Plan

/-- Carries out a plan in the current directory `at_`. -/
def execute {σ : Type} (p : Plan) (at_ : Location) (runner : Runner σ) (d : Disk) (s : σ) :
    Transcript σ :=
  match BuildDir.reset d at_ p.buildDir with
  | (d₀, .error fault) => ⟨d₀, s, [], .error fault⟩
  | (d₀, .ok ()) =>
    let first := runner d₀ s p.configure
    let configured : Call := ⟨d₀, p.configure⟩
    match first.answer with
    | .error fault => ⟨first.disk, first.state, [configured], .error fault⟩
    | .ok configure =>
      if configure.isSuccess || p.keepGoing then
        let second := runner first.disk first.state p.build
        ⟨second.disk, second.state, [configured, ⟨first.disk, p.build⟩],
          second.answer.map fun build => ⟨p.buildDir, configure, some build⟩⟩
      else
        ⟨first.disk, first.state, [configured], .ok ⟨p.buildDir, configure, none⟩⟩

end Plan

end FreshBuild
