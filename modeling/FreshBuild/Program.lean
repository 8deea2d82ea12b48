/-
# FreshBuild.Program — the program from its options to its exit code.

A run of the program resolves the root, loads the configuration, applies the command line's
overrides and makes a plan. A dry run describes the plan and stops. Any other run carries it out and
prints the report before it judges it, so a report is seen even if the verdict is bad.

Tools are run by any runner; `answer` is the whole program with the machine's own.
-/
import FreshBuild.CommandLine.Reader
import FreshBuild.Config.Load
import FreshBuild.Launch

namespace FreshBuild

/-! ## Failures -/

/-- Why the program fails. -/
inductive Failure where
  | fault (f : Fault)
  | load (e : LoadError)
  /-- The build directory is no text, and JSON was asked for. -/
  | unprintable
deriving DecidableEq

namespace Failure

def message : Failure → String
  | .fault f => f.message
  | .load e => e.message
  | .unprintable => "serialize report: path contains invalid UTF-8 characters"

def exitCode : Failure → Nat
  | .fault f => f.exitCode
  | .load _ | .unprintable => ExitCode.invalid

end Failure

/-! ## Planning -/

namespace Options

/-- The name of the configuration file in a root. -/
def configName : Path := Path.ofString "rebuild.toml"

/-- The configuration for a root that is already absolute. -/
def loadConfig (o : Options) (d : Disk) (at_ : Location) (root : Path) : Except LoadError Config :=
  match o.config with
  | some path => Config.loadRequired d at_ path
  | none => Config.load d at_ (root.join configName)

/-- A configuration with the command line's overrides. -/
def override (o : Options) (c : Config) : Config :=
  { c with jobs := o.jobs.getD c.jobs, checkStatus := o.check || c.checkStatus }

/-- The plan of a run on a machine with `threads` hardware threads. -/
def plan (o : Options) (threads : Nat) (d : Disk) (at_ : Location) : Except Failure Plan :=
  match resolveRoot d at_ o.root with
  | .error fault => .error (.fault fault)
  | .ok root =>
    match o.loadConfig d at_ root with
    | .error e => .error (.load e)
    | .ok c => .ok (Plan.make threads root (o.override c))

/-- The report in the asked form, which ends in a line break. -/
def render? (o : Options) (r : Report) : Option String :=
  if o.json then r.toJson?.map fun json => json.pretty 0 ++ "\n" else some (r.summary ++ "\n")

end Options

/-! ## Running -/

/-- A finished run of the program. -/
structure Finished (σ : Type) where
  disk : Disk
  state : σ
  calls : List Call
  /-- What the program itself prints. -/
  printed : String
  result : Except Failure Unit

/-- The exit code of a finished run. -/
def Finished.exitCode {σ : Type} (f : Finished σ) : Nat :=
  match f.result with
  | .ok () => ExitCode.ok
  | .error failure => failure.exitCode

namespace Options

/-- The lines of a dry run. -/
def dryRunText (p : Plan) : String :=
  String.join (p.describe.map fun line => "dry-run: " ++ line ++ "\n")

/-- Runs the program in the current directory `at_`. -/
def run {σ : Type} (o : Options) (threads : Nat) (at_ : Location) (runner : Runner σ) (d : Disk)
    (s : σ) : Finished σ :=
  match o.plan threads d at_ with
  | .error failure => ⟨d, s, [], "", .error failure⟩
  | .ok plan =>
    if o.dryRun then ⟨d, s, [], dryRunText plan, .ok ()⟩
    else
      let t := plan.execute at_ runner d s
      match t.result with
      | .error fault => ⟨t.disk, t.state, t.calls, "", .error (.fault fault)⟩
      | .ok report =>
        match o.render? report with
        | none => ⟨t.disk, t.state, t.calls, "", .error .unprintable⟩
        | some text =>
          ⟨t.disk, t.state, t.calls, text,
            if plan.checkStatus then report.check.mapError .fault else .ok ()⟩

end Options

/-! ## The whole program -/

/-- What the program leaves behind when it was started from a command line. -/
structure Answer where
  disk : Disk
  out : Bytes
  err : Bytes
  exitCode : Nat
  /-- The failure at the end of the error output, if a run failed. -/
  failure : Option Failure

namespace Program

/-- The program, started with an environment and arguments. What tools print comes first. -/
def answer (threads : Nat) (env : Environment) (args : List Bytes) (at_ : Location) (d : Disk) :
    Answer :=
  match CommandLine.read env args with
  | .error e => ⟨d, [], Terminal.print env e.message, ExitCode.usage, none⟩
  | .ok .help => ⟨d, Terminal.print env (CommandLine.helpText env), [], ExitCode.ok, none⟩
  | .ok .version => ⟨d, Terminal.print env CommandLine.versionText, [], ExitCode.ok, none⟩
  | .ok (.run o) =>
    let f := o.run threads at_ (Launch.system env at_) d .empty
    let out := f.state.out ++ Utf8.ofString f.printed
    match f.result with
    | .ok () => ⟨f.disk, out, f.state.err, f.exitCode, none⟩
    | .error failure =>
      ⟨f.disk, out, f.state.err ++ Utf8.ofString (failure.message ++ "\n"), f.exitCode,
        some failure⟩

end Program

end FreshBuild
