/-
# FreshBuild.Proofs.Run.Verdict — what the exit code of a run says.

A run can stop in many places, and its exit code tells the places apart only as families.
`Options.Ends` is the cascade that a reader of the code has in mind: the first phase that goes wrong
decides, and success of the tools is judged last and only on demand. `run_accountable` shows that the
program answers with exactly that code, for every runner that fails over programs and over nothing
else.

A report has two verdicts. `succeeded` wants both steps to have run, `check` is content with a report
in which no step failed, and they differ on a report whose build step was left out after a success. No
run makes such a report (`Plan.Runs.build_of_success`), so on the reports of runs they agree.
-/
import FreshBuild.Program
import FreshBuild.Proofs.BuildDir.Spelling
import FreshBuild.Proofs.Run.Sequence

namespace FreshBuild

variable {σ : Type}

/-! ## Two verdicts on a report -/

theorem Outcome.isSuccess_iff {o : Outcome} : o.isSuccess = true ↔ o = .succeeded := by
  cases o <;> simp [isSuccess]

namespace Report

/-- `step` is the earliest step that ran without success, and `outcome` is how it ended. -/
inductive FailsFirst (r : Report) : Step → Outcome → Prop where
  | configure (hfails : r.configure.isSuccess = false) : FailsFirst r .configure r.configure
  | build {o : Outcome} (hpasses : r.configure.isSuccess = true) (hran : r.build = some o)
      (hfails : o.isSuccess = false) : FailsFirst r .build o

variable {r : Report}

theorem firstFailure_eq_some_iff {step : Step} {o : Outcome} :
    r.firstFailure = some (step, o) ↔ r.FailsFirst step o := by
  unfold firstFailure
  constructor
  · intro h
    cases hconfigure : r.configure.isSuccess with
    | false =>
        simp only [hconfigure, Bool.not_false, if_true] at h
        obtain ⟨rfl, rfl⟩ := Prod.mk.inj (Option.some.inj h)
        exact .configure hconfigure
    | true =>
        simp only [hconfigure, Bool.not_true, Bool.false_eq_true, if_false] at h
        split at h
        · rename_i built hran
          split at h
          · cases h
          · rename_i hbuilt
            obtain ⟨rfl, rfl⟩ := Prod.mk.inj (Option.some.inj h)
            exact .build hconfigure hran (by simpa using hbuilt)
        · cases h
  · rintro (hfails | ⟨hpasses, hran, hfails⟩)
    · simp [hfails]
    · simp [hpasses, hran, hfails]

/-- The check fails with the earliest failure, and with nothing else. -/
theorem check_eq_error_iff {fault : Fault} :
    r.check = .error fault ↔ ∃ step o, fault = .buildFailure step o ∧ r.FailsFirst step o := by
  unfold check
  constructor
  · intro h
    split at h
    · rename_i step o hfirst
      exact ⟨step, o, (Except.error.inj h).symm, firstFailure_eq_some_iff.mp hfirst⟩
    · cases h
  · rintro ⟨step, o, rfl, hfails⟩
    rw [firstFailure_eq_some_iff.mpr hfails]

theorem check_eq_ok_iff : r.check = .ok () ↔ r.firstFailure = none := by
  unfold check
  cases r.firstFailure with
  | none => simp
  | some failure => simp

theorem firstFailure_eq_none_iff :
    r.firstFailure = none ↔
      r.configure = .succeeded ∧ ∀ o, r.build = some o → o = .succeeded := by
  simp only [← Outcome.isSuccess_iff]
  unfold firstFailure
  cases hconfigure : r.configure.isSuccess with
  | false => simp
  | true =>
      cases hbuild : r.build with
      | none => simp
      | some o => cases ho : o.isSuccess <;> simp [ho]

theorem succeeded_iff :
    r.succeeded = true ↔ r.configure = .succeeded ∧ r.build = some .succeeded := by
  unfold succeeded
  rw [Bool.and_eq_true, Option.isNone_iff_eq_none, firstFailure_eq_none_iff, Option.isSome_iff_exists]
  constructor
  · rintro ⟨⟨hconfigure, hbuild⟩, o, ho⟩
    exact ⟨hconfigure, hbuild o ho ▸ ho⟩
  · rintro ⟨hconfigure, hbuild⟩
    exact ⟨⟨hconfigure, fun o ho => Option.some.inj (ho.symm.trans hbuild)⟩, _, hbuild⟩

/-- The verdicts on a report agree and say what is the case. -/
structure Judged (r : Report) : Prop where
  check_iff : r.check = .ok () ↔ r.succeeded = true
  succeeded_iff : r.succeeded = true ↔ r.configure = .succeeded ∧ r.build = some .succeeded
  /-- A check that fails names the earliest step without success, with its own outcome. -/
  names_first : ∀ fault, r.check = .error fault →
    ∃ step o, fault = .buildFailure step o ∧ r.FailsFirst step o

/-- A report is judged well unless it leaves out the build step after a success. -/
theorem judged_of_build (h : r.configure = .succeeded → r.build ≠ none) : r.Judged where
  check_iff := by
    rw [check_eq_ok_iff, firstFailure_eq_none_iff, Report.succeeded_iff]
    refine and_congr_right fun hconfigure => ?_
    obtain ⟨o, ho⟩ := Option.ne_none_iff_exists'.mp (h hconfigure)
    simp [ho]
  succeeded_iff := Report.succeeded_iff
  names_first := fun _ => check_eq_error_iff.mp

end Report

/-! ## Tools that cannot be run, and steps that fail -/

/-- The runner fails over programs only: one is not found, or cannot be started or awaited. How a
program ends is never a fault. -/
def Runner.FailsOverPrograms (runner : Runner σ) : Prop :=
  ∀ d s i fault, (runner d s i).answer = .error fault → fault.isToolInvocation = true

theorem Launch.system_failsOverPrograms (env : Environment) (at_ : Location) :
    (Launch.system env at_).FailsOverPrograms := by
  intro d console i fault h
  unfold Launch.system at h
  split at h
  · cases h
  · obtain rfl := Except.error.inj h
    unfold Launch.notStarted
    split <;> rfl

theorem Recorder.run_failsOverPrograms (at_ : Location) :
    (Recorder.run at_).FailsOverPrograms := by
  intro d r i fault h
  simp only [Recorder.run] at h
  unfold Recorder.answer at h
  split at h
  · cases h
  · obtain rfl := Except.error.inj h
    rfl
  · cases h

namespace Plan

/-- A tool that was due could not be run: the first one, or the second one if the run went on. -/
def LacksTool (p : Plan) (runner : Runner σ) (d₀ : Disk) (s : σ) : Prop :=
  (∃ fault, (p.firstReply runner d₀ s).answer = .error fault) ∨
    p.GoesOn (p.firstReply runner d₀ s).answer ∧
      ∃ fault, (p.secondReply runner d₀ s).answer = .error fault

/-- A step ran without success. -/
def HasFailure (p : Plan) (runner : Runner σ) (d₀ : Disk) (s : σ) : Prop :=
  (∃ o, (p.firstReply runner d₀ s).answer = .ok o ∧ o ≠ .succeeded) ∨
    p.GoesOn (p.firstReply runner d₀ s).answer ∧
      ∃ o, (p.secondReply runner d₀ s).answer = .ok o ∧ o ≠ .succeeded

namespace Runs

variable {p : Plan} {at_ : Location} {runner : Runner σ} {d d₀ : Disk} {s : σ} {t : Transcript σ}

/-- A build step is left out only after a configure step without success. -/
theorem build_of_success {r : Report} (h : Runs p at_ runner d s t) (hr : t.result = .ok r)
    (hconfigure : r.configure = .succeeded) : r.build ≠ none := by
  cases h with
  | refused | unconfigured => cases hr
  | skipped _ _ hfailed =>
      obtain rfl := Except.ok.inj hr
      rw [Outcome.isSuccess_iff.mpr hconfigure] at hfailed
      cases hfailed
  | @built d₁ o _ _ _ =>
      cases hsecond : (p.secondReply runner d₁ s).answer with
      | error fault =>
          rw [hsecond] at hr
          cases hr
      | ok build =>
          rw [hsecond] at hr
          obtain rfl := Except.ok.inj hr
          exact Option.some_ne_none build

/-- A report names the build directory of its plan. -/
theorem buildDir_eq {r : Report} (h : Runs p at_ runner d s t) (hr : t.result = .ok r) :
    r.buildDir = p.buildDir := by
  cases h with
  | refused | unconfigured => cases hr
  | skipped => rw [← Except.ok.inj hr]
  | @built d₁ o _ _ _ =>
      cases hsecond : (p.secondReply runner d₁ s).answer with
      | error fault =>
          rw [hsecond] at hr
          cases hr
      | ok build =>
          rw [hsecond] at hr
          rw [← Except.ok.inj hr]

/-- A run that lacks a tool ends with the runner's own fault. -/
theorem result_of_lacksTool (h : Runs p at_ runner d s t)
    (hreset : BuildDir.reset d at_ p.buildDir = (d₀, .ok ())) (htool : p.LacksTool runner d₀ s) :
    ∃ fault d' s' i, t.result = .error fault ∧ (runner d' s' i).answer = .error fault := by
  cases h with
  | refused hrefused => cases (Prod.mk.inj (hrefused.symm.trans hreset)).2
  | unconfigured hok hfirst =>
      obtain ⟨rfl, -⟩ := Prod.mk.inj (hok.symm.trans hreset)
      exact ⟨_, _, _, _, rfl, hfirst⟩
  | skipped hok hfirst hfailed hstop =>
      obtain ⟨rfl, -⟩ := Prod.mk.inj (hok.symm.trans hreset)
      simp [LacksTool, hfirst, goesOn_ok_iff, hfailed, hstop] at htool
  | built hok hfirst hgoes =>
      obtain ⟨rfl, -⟩ := Prod.mk.inj (hok.symm.trans hreset)
      simp only [LacksTool, hfirst, reduceCtorEq, exists_false, false_or] at htool
      obtain ⟨-, fault, hsecond⟩ := htool
      refine ⟨fault, _, _, _, ?_, hsecond⟩
      simp only [hsecond]
      rfl

/-- A run that lacks no tool ends with a report, and the report shows what failed. -/
theorem report_of_tools (h : Runs p at_ runner d s t)
    (hreset : BuildDir.reset d at_ p.buildDir = (d₀, .ok ())) (htool : ¬ p.LacksTool runner d₀ s) :
    ∃ r, t.result = .ok r ∧ (r.firstFailure = none ↔ ¬ p.HasFailure runner d₀ s) := by
  cases h with
  | refused hrefused => cases (Prod.mk.inj (hrefused.symm.trans hreset)).2
  | unconfigured hok hfirst =>
      obtain ⟨rfl, -⟩ := Prod.mk.inj (hok.symm.trans hreset)
      exact absurd (Or.inl ⟨_, hfirst⟩) htool
  | skipped hok hfirst hfailed hstop =>
      obtain ⟨rfl, -⟩ := Prod.mk.inj (hok.symm.trans hreset)
      refine ⟨_, rfl, ?_⟩
      rw [Report.firstFailure_eq_none_iff]
      simp [HasFailure, hfirst, goesOn_ok_iff, hfailed, hstop]
  | @built d₁ o hok hfirst hgoes =>
      obtain ⟨rfl, -⟩ := Prod.mk.inj (hok.symm.trans hreset)
      have hgo : p.GoesOn (.ok o) := goesOn_ok_iff.mpr hgoes
      cases hsecond : (p.secondReply runner d₁ s).answer with
      | error fault => exact absurd (Or.inr ⟨hfirst ▸ hgo, fault, hsecond⟩) htool
      | ok build =>
          refine ⟨_, rfl, ?_⟩
          rw [Report.firstFailure_eq_none_iff]
          simp [HasFailure, hfirst, hsecond, hgo]

end Runs

/-- The faults of a run are those of the file system and those of the runner. -/
theorem Runs.fault_family {p : Plan} {at_ : Location} {runner : Runner σ} {d : Disk} {s : σ}
    {t : Transcript σ} {fault : Fault} (hrunner : runner.FailsOverPrograms)
    (h : Runs p at_ runner d s t) (hfault : t.result = .error fault) :
    fault.isFilesystem = true ∨ fault.isToolInvocation = true := by
  cases hreset : BuildDir.reset d at_ p.buildDir with
  | mk d₀ r =>
      cases r with
      | error fault' =>
          obtain ⟨hresult, hfamily⟩ := h.refused_result (congrArg Prod.snd hreset)
          obtain rfl := Except.error.inj (hfault.symm.trans hresult)
          exact Or.inl hfamily
      | ok u =>
          by_cases htool : p.LacksTool runner d₀ s
          · obtain ⟨fault', d', s', i, hresult, hanswer⟩ := h.result_of_lacksTool hreset htool
            obtain rfl := Except.error.inj (hfault.symm.trans hresult)
            exact Or.inr (hrunner _ _ _ _ hanswer)
          · obtain ⟨r, hresult, -⟩ := h.report_of_tools hreset htool
            rw [hfault] at hresult
            cases hresult

/-- **Every report of a run is judged well.** -/
theorem execute_judged {p : Plan} {at_ : Location} {runner : Runner σ} {d : Disk} {s : σ}
    {r : Report} (hr : (p.execute at_ runner d s).result = .ok r) : r.Judged :=
  Report.judged_of_build ((execute_runs p at_ runner d s).build_of_success hr)

end Plan

/-! ## From the options to the exit code -/

/-- A root that cannot be made absolute is a failure of the file system. -/
theorem resolveRoot_error_isFilesystem {d : Disk} {at_ : Location} {root : Path} {fault : Fault}
    (h : resolveRoot d at_ root = .error fault) : fault.isFilesystem = true := by
  unfold resolveRoot at h
  split at h
  · obtain rfl := Except.error.inj h
    rfl
  · split at h
    · cases h
    · obtain rfl := Except.error.inj h
      rfl

theorem Fault.exitCode_of_isFilesystem {fault : Fault} (h : fault.isFilesystem = true) :
    fault.exitCode = 4 := by
  rw [exitCode, if_pos h, ExitCode.filesystem]

theorem Fault.exitCode_of_isToolInvocation {fault : Fault} (h : fault.isToolInvocation = true) :
    fault.exitCode = 5 := by
  cases fault with
  | toolNotFound _ _ | toolInvocation _ _ _ _ => rfl
  | filesystem _ _ _ | notADirectory _ | buildFailure _ _ => cases h

/-- The exit code that a report earns: success counts only where it is demanded. -/
def Report.exitCode (demanded : Bool) (r : Report) : Nat :=
  if demanded && r.firstFailure.isSome then ExitCode.buildFailure else ExitCode.ok

namespace Options

variable {o : Options} {threads : Nat} {at_ : Location} {runner : Runner σ} {d d₀ : Disk} {s : σ}
  {root : Path} {c : Config} {p : Plan}

/-- The root and the configuration with which the options start. -/
structure StartsWith (o : Options) (d : Disk) (at_ : Location) (root : Path) (c : Config) :
    Prop where
  resolved : resolveRoot d at_ o.root = .ok root
  loaded : o.loadConfig d at_ root = .ok c

/-- The plan for a root and a configuration, with the overrides of the command line. -/
def planFor (o : Options) (threads : Nat) (root : Path) (c : Config) : Plan :=
  Plan.make threads root (o.override c)

theorem buildDir_planFor (o : Options) (threads : Nat) (root : Path) (c : Config) :
    (o.planFor threads root c).buildDir = root.join (Path.ofString c.buildDir) := rfl

theorem StartsWith.plan_eq (h : o.StartsWith d at_ root c) :
    o.plan threads d at_ = .ok (o.planFor threads root c) := by
  rw [plan, h.resolved]
  simp only [h.loaded, planFor]

theorem run_of_plan_error {failure : Failure} (h : o.plan threads d at_ = .error failure) :
    o.run threads at_ runner d s = ⟨d, s, [], "", .error failure⟩ := by
  rw [run, h]

/-- A run that stops before its report prints nothing. -/
theorem run_of_fault {fault : Fault} (hplan : o.plan threads d at_ = .ok p)
    (hwet : o.dryRun = false) (h : (p.execute at_ runner d s).result = .error fault) :
    (o.run threads at_ runner d s).result = .error (.fault fault) ∧
      (o.run threads at_ runner d s).printed = "" := by
  unfold run
  simp [hplan, hwet, h]

/-- A report that can be printed is printed, and then judged if that is demanded. -/
theorem run_of_report {r : Report} {text : String} (hplan : o.plan threads d at_ = .ok p)
    (hwet : o.dryRun = false) (h : (p.execute at_ runner d s).result = .ok r)
    (htext : o.render? r = some text) :
    (o.run threads at_ runner d s).printed = text ∧
      (o.run threads at_ runner d s).result =
        if p.checkStatus then r.check.mapError .fault else .ok () := by
  unfold run
  simp [hplan, hwet, h, htext]

theorem run_of_unprintable {r : Report} (hplan : o.plan threads d at_ = .ok p)
    (hwet : o.dryRun = false) (h : (p.execute at_ runner d s).result = .ok r)
    (htext : o.render? r = none) :
    (o.run threads at_ runner d s).result = .error .unprintable ∧
      (o.run threads at_ runner d s).printed = "" := by
  unfold run
  simp [hplan, hwet, h, htext]

theorem exitCode_of_fault {fault : Fault} (hplan : o.plan threads d at_ = .ok p)
    (hwet : o.dryRun = false) (h : (p.execute at_ runner d s).result = .error fault) :
    (o.run threads at_ runner d s).exitCode = fault.exitCode := by
  rw [Finished.exitCode, (run_of_fault hplan hwet h).1]
  rfl

theorem exitCode_of_report {r : Report} {text : String} (hplan : o.plan threads d at_ = .ok p)
    (hwet : o.dryRun = false) (h : (p.execute at_ runner d s).result = .ok r)
    (htext : o.render? r = some text) :
    (o.run threads at_ runner d s).exitCode = r.exitCode p.checkStatus := by
  rw [Finished.exitCode, (run_of_report hplan hwet h htext).2, Report.exitCode]
  cases p.checkStatus with
  | false => rfl
  | true =>
      unfold Report.check
      cases r.firstFailure with
      | none => rfl
      | some failure => rfl

theorem exitCode_of_unprintable {r : Report} (hplan : o.plan threads d at_ = .ok p)
    (hwet : o.dryRun = false) (h : (p.execute at_ runner d s).result = .ok r)
    (htext : o.render? r = none) :
    (o.run threads at_ runner d s).exitCode = 1 := by
  rw [Finished.exitCode, (run_of_unprintable hplan hwet h htext).1]
  rfl

/-! ## The cascade -/

/-- The exit codes of a run, by the phase that decides them. Each phase comes after all that stand
before it have gone well. -/
inductive Ends (o : Options) (threads : Nat) (at_ : Location) (runner : Runner σ) (d : Disk)
    (s : σ) : Nat → Prop where
  /-- The root cannot be made absolute. -/
  | unresolved {fault : Fault} (hroot : resolveRoot d at_ o.root = .error fault) :
      Ends o threads at_ runner d s 4
  /-- The configuration cannot be loaded. -/
  | unloaded {root : Path} {e : LoadError} (hroot : resolveRoot d at_ o.root = .ok root)
      (hload : o.loadConfig d at_ root = .error e) :
      Ends o threads at_ runner d s 1
  /-- A dry run. -/
  | dry {root : Path} {c : Config} (hstart : o.StartsWith d at_ root c) (hdry : o.dryRun = true) :
      Ends o threads at_ runner d s 0
  /-- The build directory cannot be reset. -/
  | unreset {root : Path} {c : Config} {fault : Fault} (hstart : o.StartsWith d at_ root c)
      (hwet : o.dryRun = false)
      (hreset : (BuildDir.reset d at_ (root.join (Path.ofString c.buildDir))).2 = .error fault) :
      Ends o threads at_ runner d s 4
  /-- A tool that was due could not be run. -/
  | unavailable {root : Path} {c : Config} {d₀ : Disk} (hstart : o.StartsWith d at_ root c)
      (hwet : o.dryRun = false)
      (hreset : BuildDir.reset d at_ (root.join (Path.ofString c.buildDir)) = (d₀, .ok ()))
      (htool : (o.planFor threads root c).LacksTool runner d₀ s) :
      Ends o threads at_ runner d s 5
  /-- A step failed and success was demanded, by an option or by the configuration. -/
  | unsuccessful {root : Path} {c : Config} {d₀ : Disk} (hstart : o.StartsWith d at_ root c)
      (hwet : o.dryRun = false)
      (hreset : BuildDir.reset d at_ (root.join (Path.ofString c.buildDir)) = (d₀, .ok ()))
      (htool : ¬ (o.planFor threads root c).LacksTool runner d₀ s)
      (hdemand : o.check = true ∨ c.checkStatus = true)
      (hfails : (o.planFor threads root c).HasFailure runner d₀ s) :
      Ends o threads at_ runner d s 3
  /-- Nothing failed, or nobody asked. -/
  | passed {root : Path} {c : Config} {d₀ : Disk} (hstart : o.StartsWith d at_ root c)
      (hwet : o.dryRun = false)
      (hreset : BuildDir.reset d at_ (root.join (Path.ofString c.buildDir)) = (d₀, .ok ()))
      (htool : ¬ (o.planFor threads root c).LacksTool runner d₀ s)
      (hpass : ¬ ((o.check = true ∨ c.checkStatus = true) ∧
        (o.planFor threads root c).HasFailure runner d₀ s)) :
      Ends o threads at_ runner d s 0

/-- Some phase decides every run. -/
theorem exists_ends (o : Options) (threads : Nat) (at_ : Location) (runner : Runner σ) (d : Disk)
    (s : σ) : ∃ code, o.Ends threads at_ runner d s code := by
  cases hroot : resolveRoot d at_ o.root with
  | error fault => exact ⟨_, .unresolved hroot⟩
  | ok root =>
      cases hload : o.loadConfig d at_ root with
      | error e => exact ⟨_, .unloaded hroot hload⟩
      | ok c =>
          have hstart : o.StartsWith d at_ root c := ⟨hroot, hload⟩
          cases hdry : o.dryRun with
          | true => exact ⟨_, .dry hstart hdry⟩
          | false =>
              cases hreset : BuildDir.reset d at_ (root.join (Path.ofString c.buildDir)) with
              | mk d₀ r =>
                  cases r with
                  | error fault => exact ⟨_, .unreset hstart hdry (congrArg Prod.snd hreset)⟩
                  | ok u =>
                      by_cases htool : (o.planFor threads root c).LacksTool runner d₀ s
                      · exact ⟨_, .unavailable hstart hdry hreset htool⟩
                      by_cases hfails : (o.check = true ∨ c.checkStatus = true) ∧
                          (o.planFor threads root c).HasFailure runner d₀ s
                      · exact ⟨_, .unsuccessful hstart hdry hreset htool hfails.1 hfails.2⟩
                      · exact ⟨_, .passed hstart hdry hreset htool hfails⟩

/-- A report in text can always be printed. -/
theorem render?_of_text (htext : o.json = false) (r : Report) :
    o.render? r = some (r.summary ++ "\n") := by
  simp [render?, htext]

theorem demands_iff :
    (o.planFor threads root c).checkStatus = true ↔ o.check = true ∨ c.checkStatus = true := by
  simp [planFor, Plan.make, override]

/-- The code of a run in which no tool was lacking. -/
theorem exitCode_of_tools (htext : o.json = false) (hstart : o.StartsWith d at_ root c)
    (hwet : o.dryRun = false)
    (hreset : BuildDir.reset d at_ (root.join (Path.ofString c.buildDir)) = (d₀, .ok ()))
    (htool : ¬ (o.planFor threads root c).LacksTool runner d₀ s) [Decidable ((o.check = true ∨
      c.checkStatus = true) ∧ (o.planFor threads root c).HasFailure runner d₀ s)] :
    (o.run threads at_ runner d s).exitCode =
      if (o.check = true ∨ c.checkStatus = true) ∧
        (o.planFor threads root c).HasFailure runner d₀ s then 3
      else 0 := by
  have hruns := Plan.execute_runs (o.planFor threads root c) at_ runner d s
  obtain ⟨r, hr, hfirst⟩ := hruns.report_of_tools hreset htool
  rw [exitCode_of_report hstart.plan_eq hwet hr (render?_of_text htext r), Report.exitCode]
  refine if_congr ?_ rfl rfl
  rw [Bool.and_eq_true, demands_iff, Option.isSome_iff_ne_none, Ne, hfirst, not_not]

/-- **The phase that decides a run decides its exit code.** -/
theorem Ends.exitCode_eq {code : Nat} (htext : o.json = false) (hrunner : runner.FailsOverPrograms)
    (h : o.Ends threads at_ runner d s code) : (o.run threads at_ runner d s).exitCode = code := by
  classical
  cases h with
  | @unresolved fault hroot =>
      have hplan : o.plan threads d at_ = .error (.fault fault) := by rw [plan, hroot]
      rw [run_of_plan_error hplan]
      exact Fault.exitCode_of_isFilesystem (resolveRoot_error_isFilesystem hroot)
  | @unloaded root e hroot hload =>
      have hplan : o.plan threads d at_ = .error (.load e) := by
        rw [plan, hroot]
        simp only [hload]
      rw [run_of_plan_error hplan]
      rfl
  | dry hstart hdry =>
      unfold run
      simp only [hstart.plan_eq, hdry, if_true]
      rfl
  | @unreset root c fault hstart hwet hreset =>
      have hfault := Plan.execute_of_reset_error (p := o.planFor threads root c)
        (Prod.ext rfl hreset) runner s
      rw [exitCode_of_fault hstart.plan_eq hwet (congrArg Transcript.result hfault)]
      exact Fault.exitCode_of_isFilesystem
        (BuildDir.reset_error_isFilesystem (Prod.ext rfl hreset))
  | @unavailable root c d₀ hstart hwet hreset htool =>
      have hruns := Plan.execute_runs (o.planFor threads root c) at_ runner d s
      obtain ⟨fault, d', s', i, hresult, hanswer⟩ := hruns.result_of_lacksTool hreset htool
      rw [exitCode_of_fault hstart.plan_eq hwet hresult]
      exact Fault.exitCode_of_isToolInvocation (hrunner _ _ _ _ hanswer)
  | unsuccessful hstart hwet hreset htool hdemand hfails =>
      rw [exitCode_of_tools htext hstart hwet hreset htool, if_pos ⟨hdemand, hfails⟩]
  | passed hstart hwet hreset htool hpass =>
      rw [exitCode_of_tools htext hstart hwet hreset htool, if_neg hpass]

/-- **The cascade is the exit code**: no other phase could claim the run. -/
theorem exitCode_eq_iff {code : Nat} (htext : o.json = false)
    (hrunner : runner.FailsOverPrograms) :
    (o.run threads at_ runner d s).exitCode = code ↔ o.Ends threads at_ runner d s code := by
  constructor
  · intro h
    obtain ⟨code', hends⟩ := o.exists_ends threads at_ runner d s
    rw [← h, hends.exitCode_eq htext hrunner]
    exact hends
  · exact fun hends => hends.exitCode_eq htext hrunner

theorem plan_ne_buildFailure {step : Step} {outcome : Outcome} :
    o.plan threads d at_ ≠ .error (.fault (.buildFailure step outcome)) := by
  intro h
  unfold plan at h
  split at h
  · rename_i fault hroot
    obtain rfl := Failure.fault.inj (Except.error.inj h)
    exact Bool.noConfusion (resolveRoot_error_isFilesystem hroot)
  · split at h
    · cases h
    · cases h

/-- A run that fails over an unsuccessful step has its report behind it. -/
theorem printed_of_buildFailure {step : Step} {outcome : Outcome} (htext : o.json = false)
    (hrunner : runner.FailsOverPrograms)
    (h : (o.run threads at_ runner d s).result = .error (.fault (.buildFailure step outcome))) :
    ∃ p r, o.plan threads d at_ = .ok p ∧ (p.execute at_ runner d s).result = .ok r ∧
      r.FailsFirst step outcome ∧ (o.run threads at_ runner d s).printed = r.summary ++ "\n" := by
  cases hplan : o.plan threads d at_ with
  | error failure =>
      rw [run_of_plan_error hplan] at h
      obtain rfl := Except.error.inj h
      exact absurd hplan plan_ne_buildFailure
  | ok p =>
      cases hdry : o.dryRun with
      | true =>
          unfold run at h
          simp [hplan, hdry] at h
      | false =>
          cases hresult : (p.execute at_ runner d s).result with
          | error fault =>
              rw [(run_of_fault hplan hdry hresult).1] at h
              obtain rfl := Failure.fault.inj (Except.error.inj h)
              rcases (Plan.execute_runs p at_ runner d s).fault_family hrunner hresult with h | h
              · cases h
              · cases h
          | ok r =>
              obtain ⟨hprinted, hjudged⟩ :=
                run_of_report hplan hdry hresult (render?_of_text htext r)
              refine ⟨p, r, rfl, hresult, ?_, hprinted⟩
              rw [hjudged] at h
              cases hdemand : p.checkStatus with
              | false => simp [hdemand] at h
              | true =>
                  cases hcheck : r.check with
                  | ok u => simp [hdemand, hcheck, Except.mapError] at h
                  | error fault =>
                      simp only [hdemand, hcheck, Except.mapError, if_true] at h
                      obtain rfl := Failure.fault.inj (Except.error.inj h)
                      obtain ⟨step', outcome', heq, hfirst⟩ := Report.check_eq_error_iff.mp hcheck
                      obtain ⟨rfl, rfl⟩ := Fault.buildFailure.inj heq
                      exact hfirst

/-- What the exit code, the reports and the output of a run have to say about it. -/
structure Accountable (o : Options) (threads : Nat) (at_ : Location) (runner : Runner σ) (d : Disk)
    (s : σ) : Prop where
  exitCode_iff : ∀ code, (o.run threads at_ runner d s).exitCode = code ↔
    o.Ends threads at_ runner d s code
  judged : ∀ (p : Plan) r, (p.execute at_ runner d s).result = .ok r → r.Judged
  /-- A run that fails over an unsuccessful step has printed its report. -/
  printed : ∀ step outcome,
    (o.run threads at_ runner d s).result = .error (.fault (.buildFailure step outcome)) →
      ∃ p r, o.plan threads d at_ = .ok p ∧ (p.execute at_ runner d s).result = .ok r ∧
        r.FailsFirst step outcome ∧ (o.run threads at_ runner d s).printed = r.summary ++ "\n"

end Options

/-- The program ends with the exit code of its run, with the machine's own tools. -/
theorem Program.exitCode_answer {env : Environment} {args : List Bytes} {o : Options}
    (hread : CommandLine.read env args = .ok (.run o)) (threads : Nat) (at_ : Location)
    (d : Disk) : (Program.answer threads env args at_ d).exitCode =
      (o.run threads at_ (Launch.system env at_) d .empty).exitCode := by
  unfold Program.answer
  rw [hread]
  simp only
  split <;> rfl

/-! ## A project that sets nothing -/

section Bare

open Disk

variable {d : Disk} (hd : d.IsTree) {at_ : Location} {root : Path} (habs : root.isAbsolute = true)
  (hroot : d.hasDirectory root.names = true)
include hd habs hroot

/-- A project without a configuration file has the standard configuration. -/
theorem Options.StartsWith.standard {o : Options} (hresolve : resolveRoot d at_ o.root = .ok root)
    (hconfig : o.config = none) (haccept : accept (root.join configName) = .ok ())
    (habsent : d.get? (root.names ++ [configName.bytes]) = none) :
    o.StartsWith d at_ root Config.standard where
  resolved := hresolve
  loaded := by
    have hends : d.EndsIn at_ (root.join configName) root.names configName.bytes :=
      .of_join (Path.bytes_ne_nil_of_isAbsolute habs) (hd.walk_root habs hroot) (by decide)
        (by decide) (by decide) (by decide) haccept
    have hread : d.readFile at_ (root.join configName) = .error (.system .noEntry) := by
      rw [readFile, hends.inspect_vacant (by decide) habsent]
      rfl
    unfold loadConfig
    rw [hconfig]
    simp only
    rw [Config.load, hread]
    rfl

end Bare

/-- A run that goes on after its first step ends with both outcomes. -/
theorem Plan.result_of_answers {p : Plan} {at_ : Location} {runner : Runner σ} {d d₀ : Disk} {s : σ}
    (hreset : BuildDir.reset d at_ p.buildDir = (d₀, .ok ())) {first second : Outcome}
    (hfirst : (p.firstReply runner d₀ s).answer = .ok first)
    (hgoes : (first.isSuccess || p.keepGoing) = true)
    (hsecond : (p.secondReply runner d₀ s).answer = .ok second) :
    (p.execute at_ runner d s).result = .ok ⟨p.buildDir, first, some second⟩ := by
  unfold firstReply at hfirst
  unfold secondReply firstReply at hsecond
  unfold execute
  rw [hreset]
  simp only [hfirst, hgoes, if_true, hsecond]
  rfl

/-- **The exit code of a run without JSON is the cascade of its phases**, for every runner that fails
over programs only, and so for the whole program with the machine's tools. Its reports are judged
well, and a report is out before a run fails over it. -/
theorem Options.run_accountable {o : Options} (htext : o.json = false) (threads : Nat)
    (at_ : Location) (d : Disk) :
    (∀ (σ : Type) (runner : Runner σ) (s : σ), runner.FailsOverPrograms →
      o.Accountable threads at_ runner d s) ∧
    ∀ env args, CommandLine.read env args = .ok (.run o) → ∀ code,
      (Program.answer threads env args at_ d).exitCode = code ↔
        o.Ends threads at_ (Launch.system env at_) d .empty code := by
  constructor
  · intro σ runner s hrunner
    exact
      { exitCode_iff := fun _ => Options.exitCode_eq_iff htext hrunner
        judged := fun _ _ => Plan.execute_judged
        printed := fun _ _ => Options.printed_of_buildFailure htext hrunner }
  · intro env args hread code
    rw [Program.exitCode_answer hread]
    exact Options.exitCode_eq_iff htext (Launch.system_failsOverPrograms env at_)

/-- A project without a build directory, checked: the configure step fails, and the run says so. -/
theorem Options.run_accountable_checked :
    let p := Utf8.ofString "p"
    let o : Options := { Options.standard with root := Path.ofString "/p", check := true }
    let d : Disk := ⟨[([p], .directory)], []⟩
    let s := Recorder.ofScript [.outcome (.failed (some 1))]
    let args := [Utf8.ofString "--root", Utf8.ofString "/p", Utf8.ofString "--check"]
    o.json = false ∧ CommandLine.read [] args = .ok (.run o) ∧
      (Recorder.run []).FailsOverPrograms ∧
      (o.run 4 [] (Recorder.run []) d s).exitCode = 3 ∧
      ∀ code, (Program.answer 4 [] args [] d).exitCode = code ↔
        o.Ends 4 [] (Launch.system [] []) d .empty code := by
  intro p o d s args
  have hd : d.IsTree := by decide
  have hrunner := Recorder.run_failsOverPrograms []
  have hread : CommandLine.read [] args = .ok (.run o) := by decide
  obtain ⟨hruns, hprogram⟩ := Options.run_accountable (o := o) rfl 4 [] d
  refine ⟨rfl, hread, hrunner, ?_, hprogram [] args hread⟩
  have hstart : o.StartsWith d [] (Path.ofString "/p") Config.standard :=
    .standard hd (by decide) (by decide) (by decide) rfl (by decide) (by decide)
  obtain ⟨d₀, hreset, -⟩ := @BuildDir.reset_plain d hd [] (Path.ofString "/p")
    (Path.ofString Config.standard.buildDir) (by decide) (by decide) (Utf8.ofString "build")
    (by decide) (by decide) (by decide) (by decide) (by decide)
  refine ((hruns _ _ s hrunner).exitCode_iff _).mpr
    (.unsuccessful hstart rfl hreset ?_ (Or.inl rfl) (Or.inl ⟨.failed (some 1), rfl, ?_⟩))
  · rintro (⟨fault, hfault⟩ | ⟨-, fault, hfault⟩)
    · cases hfault
    · cases hfault
  · exact Outcome.noConfusion

end FreshBuild
