/-
# FreshBuild.Plan — a run, resolved before anything is touched.

A plan fixes the build directory, both tool invocations and the job count. It is a function of the
root, the configuration and the machine's thread count, so a dry run can describe exactly what a
real run would do.
-/
import FreshBuild.Config

namespace FreshBuild

/-- One start of a tool. -/
structure Invocation where
  step : Step
  program : String
  args : List Bytes
  /-- The directory the tool is started in, always the build directory. -/
  workdir : Path
  /-- The time limit in milliseconds. -/
  timeoutMillis : Option Nat
deriving DecidableEq

namespace Invocation

/-- The command line as it is shown: program and arguments with a space between them, unquoted. -/
def commandLine (i : Invocation) : String :=
  " ".intercalate (i.program :: i.args.map Utf8.lossy)

end Invocation

/-- Everything a run needs. -/
structure Plan where
  root : Path
  buildDir : Path
  jobs : Nat
  configure : Invocation
  build : Invocation
  keepGoing : Bool
  checkStatus : Bool
deriving DecidableEq

namespace Plan

/-- The plan for `root`, which the tools see verbatim. The configure tool gets the root as its last
argument, the build tool the job count. -/
def make (threads : Nat) (root : Path) (c : Config) : Plan :=
  let buildDir := root.join (Path.ofString c.buildDir)
  let jobs := c.jobs.resolve threads
  let invoke (step : Step) (tool : Tool) (lastArg : Bytes) : Invocation :=
    { step
      program := tool.program
      args := tool.extraArgs.map Utf8.ofString ++ [lastArg]
      workdir := buildDir
      timeoutMillis := c.timeoutSecs.map (·.toNat * 1000) }
  { root
    buildDir
    jobs
    configure := invoke .configure c.configure root.bytes
    build := invoke .build c.build (Utf8.ofString ("-j" ++ Digits.text jobs))
    keepGoing := c.keepGoing
    checkStatus := c.checkStatus }

/-- The line that announces one tool start. -/
def runLine (commandLine : String) (workdir : Path) : String :=
  "run " ++ Fault.quoted commandLine ++ " in " ++ workdir.display

/-- The four lines of a dry run. -/
def describe (p : Plan) : List String :=
  [ "remove " ++ p.buildDir.display
  , "create " ++ p.buildDir.display
  , runLine p.configure.commandLine p.buildDir
  , runLine p.build.commandLine p.buildDir ]

end Plan

end FreshBuild
