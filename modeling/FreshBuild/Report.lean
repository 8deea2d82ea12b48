/-
# FreshBuild.Report — what a completed run has to say.

A report holds the outcome of the configure step and, unless it was skipped, of the build step. It
is shown as one line or as JSON; the JSON form exists only if the build directory is text.
-/
import FreshBuild.Fault
import FreshBuild.Json

namespace FreshBuild

/-- The result of a completed run. -/
structure Report where
  buildDir : Path
  configure : Outcome
  /-- None if the build step was skipped after an unsuccessful configure step. -/
  build : Option Outcome
deriving DecidableEq

/-- An outcome as JSON. A failure shows its code even when it has none. -/
def Outcome.toJson : Outcome → Json
  | .succeeded => .object [("status", .string "succeeded")]
  | .failed code =>
    .object [("status", .string "failed"), ("code", code.elim .null .number)]
  | .timedOut => .object [("status", .string "timed_out")]

namespace Report

/-! ## The verdict -/

/-- The earliest step that ran without success. A skipped step did not run. -/
def firstFailure (r : Report) : Option (Step × Outcome) :=
  if !r.configure.isSuccess then some (.configure, r.configure)
  else match r.build with
    | some outcome => if outcome.isSuccess then none else some (.build, outcome)
    | none => none

/-- Both steps ran, and both with success. -/
def succeeded (r : Report) : Bool :=
  r.firstFailure.isNone && r.build.isSome

/-- The verdict when success is demanded. -/
def check (r : Report) : Except Fault Unit :=
  match r.firstFailure with
  | some (step, outcome) => .error (.buildFailure step outcome)
  | none => .ok ()

/-! ## The two forms of output -/

/-- The report on one line. -/
def summary (r : Report) : String :=
  let build := match r.build with
    | some outcome => outcome.text
    | none => "skipped"
  "rebuild: build_dir=" ++ r.buildDir.display ++ " configure=" ++ r.configure.text ++
    " build=" ++ build

/-- The report as JSON, if the build directory is text. -/
def toJson? (r : Report) : Option Json :=
  (Utf8.decode? r.buildDir.bytes).map fun buildDir =>
    .object
      [ ("build_dir", .string (String.ofList buildDir))
      , ("configure", r.configure.toJson)
      , ("build", r.build.elim .null Outcome.toJson) ]

end Report

end FreshBuild
