/-
# FreshBuild.CommandLine.Options — what a command line can ask for.

A command line asks for a run with certain options, for help, or for the version. This module holds
the options, the ways a command line can be wrong, and the texts for both.
-/
import FreshBuild.Environment
import FreshBuild.Jobs
import FreshBuild.Path
import FreshBuild.Text.Terminal

namespace FreshBuild

/-- The options of a run. -/
structure Options where
  root : Path
  /-- The configuration file; none is the standard file in the root, which need not exist. -/
  config : Option Path
  /-- Overrides the configured job count. -/
  jobs : Option Jobs
  /-- Demands success of the tools, in addition to what the configuration demands. -/
  check : Bool
  dryRun : Bool
  json : Bool
deriving DecidableEq

/-- The options of a run that is asked for without any. -/
def Options.standard : Options where
  root := ⟨Path.here⟩
  config := none
  jobs := none
  check := false
  dryRun := false
  json := false

namespace CommandLine

/-- What a command line asks for. -/
inductive Request where
  | run (options : Options)
  | help
  | version
deriving DecidableEq

/-- The options that take a value. -/
inductive Setting where
  | root
  | config
  | jobs
deriving DecidableEq

/-- The options that are given or not. -/
inductive Flag where
  | check
  | dryRun
  | json
deriving DecidableEq

def Setting.usage : Setting → String
  | .root => "--root <ROOT>"
  | .config => "--config <CONFIG>"
  | .jobs => "--jobs <JOBS>"

def Flag.usage : Flag → String
  | .check => "--check"
  | .dryRun => "--dry-run"
  | .json => "--json"

/-! ## Wrong command lines -/

/-- What is wrong with a command line. -/
inductive UsageError where
  /-- An unknown option, or an argument that belongs to no option. -/
  | unexpected (arg : Bytes)
  /-- A value for an option that takes none. -/
  | needless (option : String) (value : Bytes)
  | repeated (option : String)
  /-- The value is left out or empty. -/
  | missing (setting : Setting)
  | notText
  | invalidJobs (text : String) (reason : JobsError)
deriving DecidableEq

namespace UsageError

/-- The fault of a command line in words. -/
def summary : UsageError → Terminal.Styled
  | .unexpected arg =>
    [(.plain, "unexpected argument '"), (.doubtful, Utf8.lossy arg), (.plain, "' found")]
  | .needless option value =>
    [(.plain, "unexpected value '"), (.doubtful, Utf8.lossy value), (.plain, "' for '"),
      (.strong, option), (.plain, "' found; no more were expected")]
  | .repeated option =>
    [(.plain, "the argument '"), (.strong, option),
      (.plain, "' cannot be used multiple times")]
  | .missing setting =>
    [(.plain, "a value is required for '"), (.strong, setting.usage),
      (.plain, "' but none was supplied")]
  | .notText => [(.plain, "invalid UTF-8 was detected in one or more arguments")]
  | .invalidJobs text reason =>
    [(.plain, "invalid value '"), (.doubtful, text), (.plain, "' for '"),
      (.strong, Setting.jobs.usage), (.plain, "': " ++ reason.message)]

/-- The message of a wrong command line. -/
def message (e : UsageError) : Terminal.Styled :=
  [(.alarm, "error:"), (.plain, " ")] ++ e.summary ++
    [(.plain, "\n\nFor more information, try '"), (.strong, "--help"), (.plain, "'.\n")]

end UsageError

/-! ## Texts that can be asked for -/

def versionText : Terminal.Styled := [(.plain, "rebuild 0.1.0\n")]

/-- The variable that stands in for a root that is not given. -/
def rootVariable : String := "REBUILD_ROOT"

/-- The variable that stands in for a job count that is not given. -/
def jobsVariable : String := "REBUILD_JOBS"

/-- The column in which the help explains an option. -/
def helpColumn : Nat := 25

/-- The blanks between an option that takes `width` columns and its explanation. -/
def gap (width : Nat) : String := String.ofList (List.replicate (helpColumn - width) ' ')

/-- A variable and its value, as the help shows them. A value of several lines stays in the column
of the explanations. -/
def variableNote (env : Environment) (name : String) : String :=
  let value := (Utf8.lossy ((env.value? name).getD [])).replace "\n" ("\n" ++ gap 0)
  "[env: " ++ name ++ "=" ++ value ++ "]"

/-- A line of the help: an option with its letter and its value, if it has them, and what it does. -/
def helpLine (letter : Option String) (name : String) (value : String) (purpose : String) :
    Terminal.Styled :=
  let front := match letter with
    | some c => [(.plain, "  "), (.strong, c), (.plain, ", ")]
    | none => [(.plain, "      ")]
  front ++ [(.strong, name), (.plain, value ++ gap (6 + name.length + value.length) ++ purpose),
    (.plain, "\n")]

/-- The help, which shows what the environment says. -/
def helpText (env : Environment) : Terminal.Styled :=
  [(.plain, "Reset the build directory, then run the configure and build tools in it\n\n"),
    (.heading, "Usage:"), (.plain, " "), (.strong, "rebuild"), (.plain, " [OPTIONS]\n\n"),
    (.heading, "Options:"), (.plain, "\n")] ++
  helpLine none "--root" " <ROOT>"
    ("Project root containing the top-level build configuration " ++
      variableNote env rootVariable ++ " [default: .]") ++
  helpLine none "--config" " <CONFIG>" "Config file to use instead of \x60<root>/rebuild.toml\x60" ++
  helpLine (some "-j") "--jobs" " <JOBS>"
    ("Parallel build jobs: a positive integer or \x60auto\x60 " ++ variableNote env jobsVariable) ++
  helpLine none "--check" "" "Exit non-zero when a tool does not succeed" ++
  helpLine none "--dry-run" "" "Print the steps without touching the filesystem or running tools" ++
  helpLine none "--json" "" "Print the final report as JSON" ++
  helpLine (some "-h") "--help" "" "Print help" ++
  helpLine (some "-V") "--version" "" "Print version"

end CommandLine

end FreshBuild
