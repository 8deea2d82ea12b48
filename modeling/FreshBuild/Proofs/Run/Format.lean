/-
# FreshBuild.Proofs.Run.Format — what the form of the output changes.

Asking for JSON is asking for another way to print the report. The steps of the run are the same, and
so is what its tools do; only the last stage differs, and there the two forms are not equal. A report
in text can always be printed, since a build directory that is no text is shown as well as it can be.
A report in JSON cannot be printed then, and the run stops over it, after its tools have run and
before its steps are judged.

`exitCode_json_iff` says that this is the only way in which the form of the output changes the exit
code, and that it always does: an unprintable report has a code that no report can earn.
-/
import FreshBuild.Proofs.Run.Verdict

namespace FreshBuild

variable {σ : Type}

/-- A report never earns the exit code of a run that could not print it. -/
theorem Report.exitCode_ne_invalid (demanded : Bool) (r : Report) :
    r.exitCode demanded ≠ 1 := by
  unfold Report.exitCode
  split <;> decide

theorem Report.exitCode_of_failure {r : Report} (h : r.firstFailure ≠ none) :
    r.exitCode true = 3 := by
  unfold Report.exitCode
  rw [Option.isSome_iff_ne_none.mpr h]
  rfl

namespace Options

/-- The options with the report asked for as JSON. -/
def inJson (o : Options) : Options := { o with json := true }

/-- The options with the report asked for in text. -/
def inText (o : Options) : Options := { o with json := false }

variable {o : Options} {threads : Nat} {at_ : Location} {runner : Runner σ} {d : Disk} {s : σ}
  {p : Plan} {r : Report}

/-- The form of the output is no part of the plan. -/
theorem plan_inJson (o : Options) : o.inJson.plan threads d at_ = o.plan threads d at_ := rfl

theorem plan_inText (o : Options) : o.inText.plan threads d at_ = o.plan threads d at_ := rfl

theorem render?_inJson_eq_none_iff :
    o.inJson.render? r = none ↔ Utf8.decode? r.buildDir.bytes = none := by
  simp [render?, inJson, Report.toJson?]

/-- The run has a report, and its build directory is no text. -/
def HasUnwritableReport (o : Options) (threads : Nat) (at_ : Location) (runner : Runner σ)
    (d : Disk) (s : σ) : Prop :=
  ∃ p r, o.plan threads d at_ = .ok p ∧ (p.execute at_ runner d s).result = .ok r ∧
    Utf8.decode? p.buildDir.bytes = none

section Report

variable (hplan : o.plan threads d at_ = .ok p) (hwet : o.dryRun = false)
  (hr : (p.execute at_ runner d s).result = .ok r)
include hplan hwet hr

/-- In text a run with a report has the code that the report earns. -/
theorem exitCode_inText :
    (o.inText.run threads at_ runner d s).exitCode = r.exitCode p.checkStatus :=
  exitCode_of_report ((plan_inText o).trans hplan) hwet hr (render?_of_text rfl r)

/-- In JSON it has that code as long as the report can be written. -/
theorem exitCode_inJson {chars : List Char} (htext : Utf8.decode? p.buildDir.bytes = some chars) :
    (o.inJson.run threads at_ runner d s).exitCode = r.exitCode p.checkStatus := by
  have hdir := (Plan.execute_runs p at_ runner d s).buildDir_eq hr
  cases hrender : o.inJson.render? r with
  | none =>
      rw [render?_inJson_eq_none_iff, hdir, htext] at hrender
      cases hrender
  | some text => exact exitCode_of_report ((plan_inJson o).trans hplan) hwet hr hrender

/-- A report that cannot be written ends the run, with nothing printed. -/
theorem run_inJson_unwritable (htext : Utf8.decode? p.buildDir.bytes = none) :
    (o.inJson.run threads at_ runner d s).exitCode = 1 ∧
      (o.inJson.run threads at_ runner d s).printed = "" := by
  have hdir := (Plan.execute_runs p at_ runner d s).buildDir_eq hr
  have hrender : o.inJson.render? r = none :=
    render?_inJson_eq_none_iff.mpr (hdir ▸ htext)
  have hplan' := (plan_inJson o).trans hplan
  exact ⟨exitCode_of_unprintable hplan' hwet hr hrender,
    (run_of_unprintable hplan' hwet hr hrender).2⟩

end Report

/-- A run without a report ends alike in both forms. -/
theorem exitCode_format_of_no_report (hwet : o.dryRun = false)
    (h : ∀ p r, o.plan threads d at_ = .ok p → (p.execute at_ runner d s).result ≠ .ok r) :
    (o.inJson.run threads at_ runner d s).exitCode =
      (o.inText.run threads at_ runner d s).exitCode := by
  cases hplan : o.plan threads d at_ with
  | error failure =>
      rw [run_of_plan_error ((plan_inJson o).trans hplan),
        run_of_plan_error ((plan_inText o).trans hplan)]
  | ok p =>
      cases hresult : (p.execute at_ runner d s).result with
      | ok r => exact absurd hresult (h p r hplan)
      | error fault =>
          rw [exitCode_of_fault ((plan_inJson o).trans hplan) hwet hresult,
            exitCode_of_fault ((plan_inText o).trans hplan) hwet hresult]

/-- **What the form of the output decides.** A run that is no dry run has one exit code in JSON and in
text, unless it has a report that cannot be written as JSON. Then the codes differ: in JSON the run
fails with nothing printed, whatever its steps have earned. Under status checking an unsuccessful step
is told by the exit code in text, and in JSON as long as the report can be written. -/
theorem exitCode_json_iff {o : Options} (hwet : o.dryRun = false) (threads : Nat) (at_ : Location)
    (runner : Runner σ) (d : Disk) (s : σ) :
    ((o.inJson.run threads at_ runner d s).exitCode =
        (o.inText.run threads at_ runner d s).exitCode ↔
      ¬ o.HasUnwritableReport threads at_ runner d s) ∧
    (o.HasUnwritableReport threads at_ runner d s →
      (o.inJson.run threads at_ runner d s).exitCode = 1 ∧
        (o.inJson.run threads at_ runner d s).printed = "") ∧
    ∀ p r, o.plan threads d at_ = .ok p → (p.execute at_ runner d s).result = .ok r →
      p.checkStatus = true → r.firstFailure ≠ none →
        (o.inText.run threads at_ runner d s).exitCode = 3 ∧
          (¬ o.HasUnwritableReport threads at_ runner d s →
            (o.inJson.run threads at_ runner d s).exitCode = 3) := by
  have hsame : ¬ o.HasUnwritableReport threads at_ runner d s →
      (o.inJson.run threads at_ runner d s).exitCode =
        (o.inText.run threads at_ runner d s).exitCode := by
    intro hwritable
    by_cases hreport : ∃ p r, o.plan threads d at_ = .ok p ∧
        (p.execute at_ runner d s).result = .ok r
    · obtain ⟨p, r, hplan, hr⟩ := hreport
      cases htext : Utf8.decode? p.buildDir.bytes with
      | none => exact absurd ⟨p, r, hplan, hr, htext⟩ hwritable
      | some chars => rw [exitCode_inJson hplan hwet hr htext, exitCode_inText hplan hwet hr]
    · exact exitCode_format_of_no_report hwet fun p r hplan hr => hreport ⟨p, r, hplan, hr⟩
  refine ⟨⟨?_, hsame⟩, ?_, ?_⟩
  · rintro heq ⟨p, r, hplan, hr, htext⟩
    rw [(run_inJson_unwritable hplan hwet hr htext).1, exitCode_inText hplan hwet hr] at heq
    exact Report.exitCode_ne_invalid _ r heq.symm
  · rintro ⟨p, r, hplan, hr, htext⟩
    exact run_inJson_unwritable hplan hwet hr htext
  · intro p r hplan hr hdemand hfails
    have htext : (o.inText.run threads at_ runner d s).exitCode = 3 := by
      rw [exitCode_inText hplan hwet hr, hdemand, Report.exitCode_of_failure hfails]
    exact ⟨htext, fun hwritable => (hsame hwritable).trans htext⟩

/-- A checked run whose configure tool fails with exit code 1 and whose build tool does not. -/
theorem result_recorded {root : Path} {d d₀ : Disk}
    (hreset : BuildDir.reset d [] (root.join (Path.ofString Config.standard.buildDir)) =
      (d₀, .ok ())) (o : Options) :
    ((o.planFor 4 root Config.standard).execute [] (Recorder.run []) d
      (.ofScript [.outcome (.failed (some 1))])).result =
        .ok ⟨root.join (Path.ofString Config.standard.buildDir), .failed (some 1),
          some .succeeded⟩ := by
  have hfirst : ((o.planFor 4 root Config.standard).firstReply (Recorder.run []) d₀
      (.ofScript [.outcome (.failed (some 1))])).answer = .ok (.failed (some 1)) := rfl
  have hsecond : ((o.planFor 4 root Config.standard).secondReply (Recorder.run []) d₀
      (.ofScript [.outcome (.failed (some 1))])).answer = .ok .succeeded := rfl
  rw [← buildDir_planFor o 4 root Config.standard] at hreset ⊢
  exact Plan.result_of_answers hreset hfirst rfl hsecond

/-- Below a root that is text both forms tell the failure. -/
theorem exitCode_json_iff_checked :
    let o : Options := { Options.standard with root := Path.ofString "/p", check := true }
    let d : Disk := ⟨[([Utf8.ofString "p"], .directory)], []⟩
    let s := Recorder.ofScript [.outcome (.failed (some 1))]
    o.dryRun = false ∧
      (o.inJson.run 4 [] (Recorder.run []) d s).exitCode = 3 ∧
      (o.inText.run 4 [] (Recorder.run []) d s).exitCode = 3 := by
  intro o d s
  have hd : d.IsTree := by decide
  have hstart : o.StartsWith d [] (Path.ofString "/p") Config.standard :=
    .standard hd (by decide) (by decide) (by decide) rfl (by decide) (by decide)
  obtain ⟨d₀, hreset, -⟩ := @BuildDir.reset_plain d hd [] (Path.ofString "/p")
    (Path.ofString Config.standard.buildDir) (by decide) (by decide) (Utf8.ofString "build")
    (by decide) (by decide) (by decide) (by decide) (by decide)
  obtain ⟨-, -, hchecked⟩ := exitCode_json_iff (o := o) rfl 4 [] (Recorder.run []) d s
  obtain ⟨htext, hjson⟩ := hchecked _ _ hstart.plan_eq (result_recorded hreset o) rfl (by decide)
  refine ⟨rfl, hjson ?_, htext⟩
  rintro ⟨p, r, hplan, -, hdir⟩
  obtain rfl := Except.ok.inj (hstart.plan_eq.symm.trans hplan)
  exact absurd hdir (by decide)

/-- Below a root with a byte that is no text the failure is told in text and lost in JSON. The command
line differs in one flag. -/
theorem exitCode_json_unlike :
    let root : Path := ⟨[Path.slash, 0x72, 0xFF]⟩
    let o : Options := { Options.standard with root, check := true }
    let d : Disk := ⟨[([[0x72, 0xFF]], .directory)], []⟩
    let s := Recorder.ofScript [.outcome (.failed (some 1))]
    let args := [Utf8.ofString "--root", root.bytes, Utf8.ofString "--check"]
    d.IsTree ∧ o.dryRun = false ∧ CommandLine.read [] args = .ok (.run o.inText) ∧
      CommandLine.read [] (args ++ [Utf8.ofString "--json"]) = .ok (.run o.inJson) ∧
      (o.inText.run 4 [] (Recorder.run []) d s).exitCode = 3 ∧
      (o.inJson.run 4 [] (Recorder.run []) d s).exitCode = 1 := by
  intro root o d s args
  have hd : d.IsTree := by decide
  have hstart : o.StartsWith d [] root Config.standard :=
    .standard hd (by decide) (by decide) (by decide) rfl (by decide) (by decide)
  obtain ⟨d₀, hreset, -⟩ := @BuildDir.reset_plain d hd [] root
    (Path.ofString Config.standard.buildDir) (by decide) (by decide) (Utf8.ofString "build")
    (by decide) (by decide) (by decide) (by decide) (by decide)
  have hr := result_recorded hreset o
  refine ⟨hd, rfl, by decide, by decide, ?_, ?_⟩
  · rw [exitCode_inText hstart.plan_eq rfl hr]
    rfl
  · exact (run_inJson_unwritable hstart.plan_eq rfl hr (by decide)).1

end Options

end FreshBuild
