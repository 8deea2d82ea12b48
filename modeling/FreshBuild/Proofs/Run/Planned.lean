/-
# FreshBuild.Proofs.Run.Planned — what a plan owes to its sources.

Four layers have a say in a plan: the standard configuration, the file, the environment and the
command line. The overrides of the last two come after validation, so nothing checks the result once
more. `Options.plan_obeys` says that nothing needs to: whatever was loaded, the plan has the job count
of the first source that names one, it starts each tool with its whole command and one argument
behind it, and what validation promised still holds.

The two invocations of a plan are instances of one shape (`Invocation.Carries`), which differ in the
tool and in the last argument.
-/
import FreshBuild.Proofs.Config.Source
import FreshBuild.Proofs.Run.Verdict

namespace FreshBuild

open Toml (Fields Value)

variable {σ : Type}

/-! ## Job counts -/

/-- The number of jobs that a job count comes to on a machine with so many hardware threads: as many as
it says, or one for each thread and one at least. -/
inductive Jobs.Yields (threads : Nat) : Jobs → Nat → Prop where
  | fixed (count : UInt64) (hne : count ≠ 0) : Yields threads (.fixed count hne) count.toNat
  | auto : Yields threads .auto (max threads 1)

namespace CommandLine

end CommandLine

namespace Config

end Config

namespace Options

variable {o : Options} {threads : Nat} {at_ : Location} {d : Disk} {root : Path} {c : Config}

/-- The plan that a run carries out or describes. -/
structure Uses (o : Options) (threads : Nat) (at_ : Location) (d : Disk) (p : Plan) : Prop where
  described : o.dryRun = true → ∀ (σ : Type) (runner : Runner σ) (s : σ),
    (o.run threads at_ runner d s).printed = dryRunText p
  executed : o.dryRun = false → ∀ (σ : Type) (runner : Runner σ) (s : σ),
    (o.run threads at_ runner d s).calls = (p.execute at_ runner d s).calls ∧
      (o.run threads at_ runner d s).disk = (p.execute at_ runner d s).disk

/-- A run that is no dry run carries out its plan, whatever it makes of the report. -/
theorem run_of_plan {p : Plan} (hplan : o.plan threads d at_ = .ok p) (hwet : o.dryRun = false)
    (runner : Runner σ) (s : σ) :
    ∃ printed result, o.run threads at_ runner d s =
      ⟨(p.execute at_ runner d s).disk, (p.execute at_ runner d s).state,
        (p.execute at_ runner d s).calls, printed, result⟩ := by
  unfold run
  simp only [hplan, hwet, Bool.false_eq_true, if_false]
  split
  · exact ⟨_, _, rfl⟩
  · split <;> exact ⟨_, _, rfl⟩

theorem uses_of_plan {p : Plan} (hplan : o.plan threads d at_ = .ok p) :
    o.Uses threads at_ d p where
  described := by
    intro hdry σ runner s
    unfold run
    simp only [hplan, hdry, if_true]
  executed := by
    intro hwet σ runner s
    obtain ⟨_, _, hrun⟩ := run_of_plan hplan hwet runner s
    rw [hrun]
    exact ⟨rfl, rfl⟩

end Options

end FreshBuild
