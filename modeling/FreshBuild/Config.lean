/-
# FreshBuild.Config — the settings of a project.

A configuration has a value for every setting; what a file leaves out keeps its standard value. A
configuration may be anything the types allow. `validate` then says whether it can be run: the build
directory must be one name, a time limit must be positive, and both programs must have a name.
-/
import FreshBuild.Fault
import FreshBuild.Jobs
import FreshBuild.Path

namespace FreshBuild

/-- A tool: its program followed by the arguments that precede the generated one. -/
structure Tool where
  command : List String
deriving DecidableEq

namespace Tool

/-- The program, or nothing at all if the command is empty. -/
def program (tool : Tool) : String := tool.command.head?.getD ""

def extraArgs (tool : Tool) : List String := tool.command.tail

/-- The program has a name that can be seen. -/
def isBlank (tool : Tool) : Bool := Blank.isBlankText tool.program

end Tool

/-- The settings of a project. -/
structure Config where
  /-- The directory under the project root that every run starts afresh. -/
  buildDir : String
  jobs : Jobs
  /-- Run the build step even after an unsuccessful configure step. -/
  keepGoing : Bool
  /-- Treat a tool without success as a failure of the run. -/
  checkStatus : Bool
  /-- The time limit of each tool; none is no limit. -/
  timeoutSecs : Option UInt64
  configure : Tool
  build : Tool
deriving DecidableEq

namespace Config

/-- The settings of a project that sets nothing. -/
def standard : Config where
  buildDir := "build"
  jobs := Jobs.standard
  keepGoing := true
  checkStatus := false
  timeoutSecs := none
  configure := ⟨["cmake"]⟩
  build := ⟨["make"]⟩

/-! ## Validation -/

/-- Why a configuration cannot be run. -/
inductive Defect where
  | buildDir (name : String)
  | zeroTimeout
  | blankProgram (step : Step)
deriving DecidableEq

def Defect.message : Defect → String
  | .buildDir name => "build_dir must be a single directory name, got " ++ Fault.quoted name
  | .zeroTimeout => "timeout_secs must be > 0"
  | .blankProgram step => step.name ++ ".command must be a non-empty array"

/-- One normal component and nothing else. The judgement is by components, so `a/` and `a/.` pass
and keep their spelling. -/
def isSingleName (name : String) : Bool :=
  match (Path.ofString name).components with
  | [.normal _] => true
  | _ => false

/-- The first defect, in the order build directory, time limit, configure tool, build tool. -/
def validate (c : Config) : Except Defect Unit :=
  if !isSingleName c.buildDir then .error (.buildDir c.buildDir)
  else if c.timeoutSecs = some 0 then .error .zeroTimeout
  else if c.configure.isBlank then .error (.blankProgram .configure)
  else if c.build.isBlank then .error (.blankProgram .build)
  else .ok ()

end Config

end FreshBuild
