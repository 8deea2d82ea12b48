/-
# FreshBuild.Proofs.Run.Cautious — what a run must know before it touches anything.

A run destroys the build directory, so everything that can be found out without touching the disk is
found out first. `Options.Held` lists what holds a run back: a dry run, a root without an absolute
form, and a configuration that cannot be loaded, for any of the reasons of `Options.Unloaded`. A run
that is held back calls no tool and leaves the disk as it was, and every other run carries out its
plan.

The configuration itself depends on little. A file that was named is read through the footprint of its
path, so the standard file is not missed and not noticed unless the path leads through it. That
exception is real: `loadConfig_through_standard` has a path that leads elsewhere and still tells an
absent standard file from a present one, since `..` behind a name needs the name to be a directory.
-/
import FreshBuild.Proofs.Disk.Footprint
import FreshBuild.Proofs.Run.Planned

namespace FreshBuild

open Disk

variable {σ : Type}

/-- A run has called no tool and has left the disk, and the state of its runner, alone. -/
structure Finished.Untouched (f : Finished σ) (d : Disk) (s : σ) : Prop where
  calls_eq : f.calls = []
  disk_eq : f.disk = d
  state_eq : f.state = s

namespace Options

variable {o : Options} {threads : Nat} {at_ : Location} {runner : Runner σ} {d d' : Disk} {s : σ}
  {root path : Path}

/-! ## Runs that are held back -/

/-- What holds a run back before it touches anything. -/
inductive Held (o : Options) (d : Disk) (at_ : Location) : Prop where
  | dry (hdry : o.dryRun = true)
  | unresolved {fault : Fault} (hroot : resolveRoot d at_ o.root = .error fault)
  | unloaded {root : Path} {e : LoadError} (hroot : resolveRoot d at_ o.root = .ok root)
      (hload : o.Unloaded d at_ root e)

/-- A run that is not held back is to carry out its plan. -/
theorem starts_of_not_held (h : ¬ o.Held d at_) :
    o.dryRun = false ∧ ∃ root c, o.StartsWith d at_ root c := by
  constructor
  · cases hdry : o.dryRun with
    | true => exact absurd (.dry hdry) h
    | false => rfl
  · cases hroot : resolveRoot d at_ o.root with
    | error fault => exact absurd (.unresolved hroot) h
    | ok root =>
        cases hload : o.loadConfig d at_ root with
        | error e => exact absurd (.unloaded hroot (loadConfig_eq_error_iff.mp hload)) h
        | ok c => exact ⟨root, c, hroot, hload⟩

theorem run_untouched_of_plan_error {failure : Failure}
    (h : o.plan threads d at_ = .error failure) :
    (o.run threads at_ runner d s).Untouched d s := by
  rw [run_of_plan_error h]
  exact ⟨rfl, rfl, rfl⟩

/-- **A run that is held back touches nothing.** -/
theorem run_untouched (h : o.Held d at_) : (o.run threads at_ runner d s).Untouched d s := by
  cases h with
  | dry hdry =>
      cases hplan : o.plan threads d at_ with
      | error failure => exact run_untouched_of_plan_error hplan
      | ok p =>
          rw [run, hplan]
          simp only [hdry, if_true]
          exact ⟨rfl, rfl, rfl⟩
  | @unresolved fault hroot =>
      have hplan : o.plan threads d at_ = .error (.fault fault) := by
        rw [plan, hroot]
      exact run_untouched_of_plan_error hplan
  | @unloaded root e hroot hload =>
      have hplan : o.plan threads d at_ = .error (.load e) := by
        rw [plan, hroot]
        simp only [loadConfig_eq_error_iff.mpr hload]
      exact run_untouched_of_plan_error hplan

end Options

/-- The program leaves the disk as its run leaves it, with the machine's own tools. -/
theorem Program.disk_answer {env : Environment} {args : List Bytes} {o : Options}
    (hread : CommandLine.read env args = .ok (.run o)) (threads : Nat) (at_ : Location)
    (d : Disk) : (Program.answer threads env args at_ d).disk =
      (o.run threads at_ (Launch.system env at_) d .empty).disk := by
  unfold Program.answer
  rw [hread]
  simp only
  split <;> rfl

namespace Options

variable {o : Options} {at_ : Location} {d d' : Disk} {root path : Path}

/-! ## What a configuration depends on -/

/-- Two disks hold the same, but for one location and what is below it. -/
def SameOutside (l : Location) (d d' : Disk) : Prop :=
  ∀ m, ¬ l <+: m → d'.get? m = d.get? m

/-- A row that is put in front is seen at its own location only. -/
theorem sameOutside_cons (l : Location) (e : Entry) (rows : List (Location × Entry))
    (removed : List Location) : SameOutside l ⟨rows, removed⟩ ⟨(l, e) :: rows, removed⟩ := by
  intro m hm
  have hne : m ≠ l := by
    rintro rfl
    exact hm (List.prefix_refl m)
  unfold get?
  rw [List.lookup_cons, beq_false_of_ne hne]

/-- The path leads past a location: nothing there or below it is looked up. -/
def LeadsPast (d : Disk) (at_ : Location) (path : Path) (l : Location) : Prop :=
  ∀ m, d.Visits maxLinks at_ path m → ¬ l <+: m

/-- **A named configuration file** depends on nothing that its path leads past. -/
theorem loadConfig_congr (hconfig : o.config = some path) {l : Location}
    (hpast : LeadsPast d at_ path l) (hsame : SameOutside l d d') :
    o.loadConfig d' at_ root = o.loadConfig d at_ root := by
  have hpath : o.configPath root = path := by
    rw [configPath, hconfig, Option.getD_some]
  have hread : d'.readFile at_ path = d.readFile at_ path :=
    readFile_congr fun m hm => hsame m (hpast m hm)
  rw [loadConfig_eq, loadConfig_eq, hpath, hread]

/-- A standard file that is missing, or that says nothing, leaves the standard configuration. -/
theorem loadConfig_eq_standard (h : o.Source d at_ root []) :
    o.loadConfig d at_ root = .ok Config.standard :=
  loadConfig_eq_ok_iff.mpr
    ⟨[], h, Config.describes_nil_iff.mpr rfl, Config.validate_standard⟩

/-- A run finds out what it can before it touches anything, and its configuration depends on the file
it is read from. -/
structure Cautious (o : Options) (threads : Nat) (at_ : Location) (d : Disk) : Prop where
  held : o.Held d at_ → ∀ (σ : Type) (runner : Runner σ) (s : σ),
    (o.run threads at_ runner d s).Untouched d s
  program : o.Held d at_ → ∀ env args, CommandLine.read env args = .ok (.run o) →
    (Program.answer threads env args at_ d).disk = d
  /-- Nothing else holds a run back. -/
  released : ¬ o.Held d at_ →
    o.dryRun = false ∧ ∃ p, o.plan threads d at_ = .ok p ∧ o.Uses threads at_ d p
  /-- A file that was named: the rest of the disk can be anything, the standard file included. -/
  named : ∀ path, o.config = some path → ∀ l, LeadsPast d at_ path l →
    ∀ d', SameOutside l d d' → ∀ root, o.loadConfig d' at_ root = o.loadConfig d at_ root
  /-- The standard file: to be missing is to say nothing. -/
  missing : o.config = none → ∀ root,
    d.readFile at_ (root.join configName) = .error (.system .noEntry) →
      ∀ d' text, o.HoldsText d' at_ root text → Toml.read? text = some [] →
        o.loadConfig d at_ root = .ok Config.standard ∧
          o.loadConfig d' at_ root = .ok Config.standard

/-- **A run is cautious**, whatever the options and the disk are. -/
theorem run_cautious (o : Options) (threads : Nat) (at_ : Location) (d : Disk) :
    o.Cautious threads at_ d where
  held := fun hheld _ _ _ => run_untouched hheld
  program := by
    intro hheld env args hread
    rw [Program.disk_answer hread]
    exact (run_untouched hheld).disk_eq
  released := by
    intro hfree
    obtain ⟨hwet, root, c, hstart⟩ := starts_of_not_held hfree
    exact ⟨hwet, _, hstart.plan_eq, uses_of_plan hstart.plan_eq⟩
  named := fun _ hconfig _ hpast _ hsame _ => loadConfig_congr hconfig hpast hsame
  missing := by
    intro hconfig root hmissing d' text htext hempty
    have hpath : o.configPath root = root.join configName := by
      rw [configPath, hconfig, Option.getD_none]
    refine ⟨loadConfig_eq_standard (.missing (hpath ▸ hmissing) ⟨hconfig, rfl⟩), ?_⟩
    exact loadConfig_eq_standard (.document htext hempty)

/-- A file is named in a project whose standard file is no configuration at all: it is loaded as if
that file were not there, and a dry run leaves both alone. -/
theorem run_cautious_past_standard :
    let p := Utf8.ofString "p"
    let file := Utf8.ofString "c.toml"
    let l : Location := [p, configName.bytes]
    let o : Options := { standard with config := some ⟨file⟩, dryRun := true }
    let d : Disk := ⟨[([p], .directory), ([p, file], .file [] false)], []⟩
    let d' : Disk := ⟨(l, .file (Utf8.ofString "no configuration") false) :: d.rows, []⟩
    let s := Recorder.ofScript []
    LeadsPast d [p] ⟨file⟩ l ∧ SameOutside l d d' ∧
      o.loadConfig d' [p] (Path.ofString "/p") = o.loadConfig d [p] (Path.ofString "/p") ∧
      (o.run 4 [p] (Recorder.run [p]) d s).Untouched d s := by
  intro p file l o d d' s
  have hpast : LeadsPast d [p] ⟨file⟩ l := by
    intro m hm
    have hnames : (Path.mk file).names = [] ++ [file] := by decide
    -- the only name of the path is its last one, and a file stands there
    cases hm with
    | way hnames' hvisits =>
        obtain ⟨rfl, -⟩ := List.append_inj' (hnames.symm.trans hnames') rfl
        cases hvisits
    | last hnames' hwalk _ =>
        obtain ⟨rfl, hlast⟩ := List.append_inj' (hnames.symm.trans hnames') rfl
        obtain rfl := List.singleton_inj.mp hlast
        rw [walk_nil] at hwalk
        obtain ⟨rfl, -⟩ := Prod.mk.inj (Except.ok.inj hwalk)
        decide
    | link hnames' hwalk _ hget _ =>
        obtain ⟨rfl, hlast⟩ := List.append_inj' (hnames.symm.trans hnames') rfl
        obtain rfl := List.singleton_inj.mp hlast
        rw [walk_nil] at hwalk
        obtain ⟨rfl, -⟩ := Prod.mk.inj (Except.ok.inj hwalk)
        cases hget
  have hsame : SameOutside l d d' := sameOutside_cons l _ d.rows d.removed
  have hcautious := run_cautious o 4 [p] d
  exact ⟨hpast, hsame, hcautious.named _ rfl l hpast d' hsame _,
    hcautious.held (.dry rfl) _ (Recorder.run [p]) s⟩

/-! ## A path through the standard file -/

/-- A path through the standard file that leads to another one, and what is loaded through it: an
error if the standard file is missing, another error if it is a file, and a configuration if it is a
directory. -/
theorem loadConfig_through_standard :
    let p := Utf8.ofString "p"
    let file := Utf8.ofString "c.toml"
    let l : Location := [p, configName.bytes]
    let path := Path.ofString "rebuild.toml/../c.toml"
    let o : Options := { standard with config := some path }
    let rows : List (Location × Entry) := [([p], .directory), ([p, file], .file [] false)]
    let without : Disk := ⟨rows, []⟩
    let withFile : Disk := ⟨(l, .file [] false) :: rows, []⟩
    let withDirectory : Disk := ⟨(l, .directory) :: rows, []⟩
    let root := Path.ofString "/p"
    SameOutside l without withFile ∧ SameOutside l without withDirectory ∧
      withDirectory.inspect true [p] path = .ok ([p, file], .file [] false) ∧
      o.loadConfig without [p] root = .error (.unreadable path (.system .noEntry)) ∧
      o.loadConfig withFile [p] root = .error (.unreadable path (.system .notDirectory)) ∧
      o.loadConfig withDirectory [p] root = .ok Config.standard := by
  intro p file l path o rows without withFile withDirectory root
  have haccept : accept path = .ok () := by decide
  have hne : path.bytes ≠ [] := by decide
  have hnames : path.names = [configName.bytes, Path.up] ++ [file] := by decide
  have hname : IsSought configName.bytes := by decide
  have hmissing : without.follow true false maxLinks [p] path = .error .noEntry :=
    follow_of_walk_error hne hnames
      (walk_missing hname.ne_here hname.ne_up hname.short (by decide) _)
  have hfile : withFile.follow true false maxLinks [p] path = .error .notDirectory :=
    follow_of_walk_error hne hnames
      (walk_other hname.ne_here hname.ne_up hname.short rfl Entry.noConfusion
        (fun _ => Entry.noConfusion) _)
  have hdirectory : withDirectory.follow true false maxLinks [p] path =
      .ok (.entry [p, file] (.file [] false)) := by
    have hwalk : withDirectory.walk maxLinks (start [p] path) [configName.bytes, Path.up] =
        .ok ([p], maxLinks) := by
      rw [walk_directory hname.ne_here hname.ne_up hname.short (by decide), walk_up, walk_nil]
      rfl
    rw [follow_of_walk hne hnames hwalk]
    rfl
  have hinspect := inspect_of_follow haccept hdirectory
  refine ⟨sameOutside_cons l _ rows [], sameOutside_cons l _ rows [], hinspect, ?_, ?_, ?_⟩
  · have hread : without.readFile [p] path = .error (.system .noEntry) := by
      rw [readFile, inspect_of_follow haccept hmissing]
      rfl
    exact loadConfig_eq_error_iff.mpr (.unreadable hread (by decide))
  · have hread : withFile.readFile [p] path = .error (.system .notDirectory) := by
      rw [readFile, inspect_of_follow haccept hfile]
      rfl
    exact loadConfig_eq_error_iff.mpr (.unreadable hread (by decide))
  · have hread : withDirectory.readFile [p] path = .ok [] := by
      rw [readFile, hinspect]
      rfl
    exact loadConfig_eq_standard (.document ⟨[], hread, rfl⟩ rfl)

end Options

end FreshBuild
