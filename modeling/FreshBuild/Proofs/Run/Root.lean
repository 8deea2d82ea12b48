/-
# FreshBuild.Proofs.Run.Root — how much of a run depends on the spelling of its root.

A root is made absolute by spelling alone. That keeps every `..` and every link in it, so the build
path may pass through the very directory that a run removes, and then it leads nowhere when the
directory is to be made again. `Outlasts` says that this does not happen, and `rebuild_root_alike`
that it is the only way in which the spelling matters: two roots in one directory that outlast it give
runs that are alike in all but the paths they mention.

The comparison needs tools that do not look at what differs. `Runner.Heedless` asks for no more: a tool
may look at its step, its program and at the directory it is started in.
-/
import FreshBuild.Program
import FreshBuild.Proofs.BuildDir.Spelling
import FreshBuild.Proofs.Run.Sequence

namespace FreshBuild

open FreshBuild.Path (slash)

variable {σ : Type}

/-! ## From a root to its run -/

/-- The run of a configuration below a root: the root made absolute, the plan, the steps. -/
def rebuild (threads : Nat) (at_ : Location) (root : Path) (c : Config) (runner : Runner σ)
    (d : Disk) (s : σ) : Transcript σ :=
  match resolveRoot d at_ root with
  | .error fault => ⟨d, s, [], .error fault⟩
  | .ok p => (Plan.make threads p c).execute at_ runner d s

/-- The exit code that belongs to the result of a run. -/
def ExitCode.ofResult (checkStatus : Bool) : Except Fault Report → Nat
  | .error fault => fault.exitCode
  | .ok report =>
    match if checkStatus then report.check else .ok () with
    | .error fault => fault.exitCode
    | .ok () => ExitCode.ok

/-- The program, asked for a run and for a report in text, is `rebuild` with the configuration that it
has loaded. -/
theorem Options.run_eq_rebuild {o : Options} {threads : Nat} {at_ : Location} {runner : Runner σ}
    {d : Disk} {s : σ} {root : Path} {c : Config} (hroot : resolveRoot d at_ o.root = .ok root)
    (hload : o.loadConfig d at_ root = .ok c) (hwet : o.dryRun = false) (htext : o.json = false) :
    (o.run threads at_ runner d s).disk =
        (rebuild threads at_ o.root (o.override c) runner d s).disk ∧
      (o.run threads at_ runner d s).exitCode =
        ExitCode.ofResult (o.override c).checkStatus
          (rebuild threads at_ o.root (o.override c) runner d s).result := by
  have hplan : o.plan threads d at_ = .ok (Plan.make threads root (o.override c)) := by
    rw [Options.plan, hroot]
    simp only [hload]
  unfold Options.run rebuild
  rw [hplan, hroot]
  simp only [hwet, Bool.false_eq_true, if_false]
  cases ((Plan.make threads root (o.override c)).execute at_ runner d s).result with
  | error fault => exact ⟨rfl, rfl⟩
  | ok report =>
      refine ⟨by simp [Options.render?, htext], ?_⟩
      simp only [Options.render?, htext, Bool.false_eq_true, if_false, Finished.exitCode,
        ExitCode.ofResult, Plan.make]
      by_cases hcheck : (o.override c).checkStatus = true
      · simp only [hcheck, if_true]
        cases report.check <;> rfl
      · simp only [hcheck, Bool.false_eq_true, if_false]

/-! ## Where an absolute root leads -/

/-- The names of an absolute root. A relative root has those of the current directory in front, which
is then still there. -/
theorem names_of_resolveRoot {d : Disk} (hd : d.IsTree) {at_ : Location} {root p : Path}
    (hresolve : resolveRoot d at_ root = .ok p) :
    p.isAbsolute = true ∧ d.hasDirectory (Disk.start at_ root) = true ∧
      p.names = Disk.start at_ root ++ root.names.filter (· ≠ Path.here) := by
  unfold resolveRoot at hresolve
  split at hresolve
  · cases hresolve
  · rename_i absolute habsolute
    split at hresolve
    · rename_i hthere
      obtain rfl := Except.ok.inj hresolve
      obtain ⟨habs, hnames⟩ := Path.names_of_absolute? (Location.isAbsolute_path at_) habsolute
      unfold Disk.start
      cases hroot : root.isAbsolute with
      | true => exact ⟨habs, rfl, by simpa [hroot] using hnames⟩
      | false =>
          have hat : d.hasDirectory at_ = true := by simpa [hroot] using hthere
          have hproper : ∀ name ∈ at_, name ≠ [] ∧ slash ∉ name := by
            intro name hname
            have h : Name.IsProper name := hd.proper_of_get? (Disk.hasDirectory_iff.mp hat) hname
            exact ⟨h.ne_nil, h.no_slash⟩
          rw [Location.names_path hproper] at hnames
          exact ⟨habs, hat, by simpa [hroot] using hnames⟩
    · cases hresolve

/-- **Making a root absolute does not change where it leads**, and adds no NUL to it. -/
theorem walk_of_resolveRoot {d : Disk} (hd : d.IsTree) {at_ dir : Location} {root p : Path}
    (henter : d.enter at_ root = .ok dir) (hresolve : resolveRoot d at_ root = .ok p) :
    p.isAbsolute = true ∧ 0 ∉ p.bytes ∧
      ∃ left, d.walk Disk.maxLinks [] p.names = .ok (dir, left) := by
  obtain ⟨haccept, -, left, hwalk⟩ := hd.enter_eq_ok_iff.mp henter
  obtain ⟨habs, hstart, hnames⟩ := names_of_resolveRoot hd hresolve
  refine ⟨habs, Disk.nul_not_mem_of_names ?_, left, ?_⟩
  · intro name hname
    rw [hnames] at hname
    rcases List.mem_append.mp hname with hname | hname
    · have hproper : Name.IsProper name :=
        hd.proper_of_get? (Disk.hasDirectory_iff.mp hstart) hname
      exact hproper.no_nul
    · intro hnul
      exact (Disk.accept_eq_ok_iff.mp haccept).1
        (Path.mem_bytes_of_mem_names (List.mem_filter.mp hname).1 hnul)
  · -- the names in front lead to where the root starts, and the `.` left out make no difference
    rw [hnames, Disk.walk_append, hd.walk_location hstart]
    simp only
    rw [Disk.walk_filter_here]
    exact hwalk

/-- The directory that a root leads to stands there. -/
theorem hasDirectory_of_root {d : Disk} (hd : d.IsTree) {at_ dir : Location} {root p : Path}
    (henter : d.enter at_ root = .ok dir) (hresolve : resolveRoot d at_ root = .ok p) :
    d.hasDirectory dir = true := by
  obtain ⟨-, -, left, hwalk⟩ := walk_of_resolveRoot hd henter hresolve
  exact hd.walk_hasDirectory rfl hwalk

/-! ## Build paths that outlast their directory -/

/-- A plain name: something without a slash that is neither `.` nor `..`. -/
structure Path.IsPlain (q : Path) : Prop where
  ne_nil : q.bytes ≠ []
  no_slash : slash ∉ q.bytes
  ne_here : q.bytes ≠ Path.here
  ne_up : q.bytes ≠ Path.up

namespace Disk

/-- The absolute root `p` leads to `dir` even when the directory `name` in `dir` is gone. -/
def Outlasts (d : Disk) (at_ : Location) (p : Path) (dir : Location) (name : Name) : Prop :=
  d.get? (dir ++ [name]) = some .directory → (d.erase (dir ++ [name])).enter at_ p = .ok dir

/-- A plain name behind an absolute root. -/
theorem endsIn_of_plain {d : Disk} {at_ dir : Location} {p q : Path} (habs : p.isAbsolute = true)
    {left : Nat} (hwalk : d.walk maxLinks [] p.names = .ok (dir, left)) (hplain : q.IsPlain)
    (haccept : accept (p.join q) = .ok ()) : d.EndsIn at_ (p.join q) dir q.bytes := by
  have hstart : d.walk maxLinks (start at_ p) p.names = .ok (dir, left) := by
    rw [start, if_pos habs]
    exact hwalk
  exact .of_join (Path.bytes_ne_nil_of_isAbsolute habs) hstart
    (Path.isAbsolute_of_no_slash hplain.no_slash)
    (Path.names_of_no_slash hplain.ne_nil hplain.no_slash) hplain.ne_here hplain.ne_up haccept

theorem length_lt_length_join (p : Path) {q : Path} (hplain : q.IsPlain) :
    p.bytes.length < (p.join q).bytes.length := by
  have hpos := List.length_pos_iff.mpr hplain.ne_nil
  rw [Path.join, if_neg (by simp [Path.isAbsolute_of_no_slash hplain.no_slash])]
  split
  · rw [List.length_append]
    omega
  · rw [List.length_append, List.length_cons]
    omega

end Disk

section Outlasting

open Disk

variable {d : Disk} (hd : d.IsTree) {at_ dir : Location} {root p q : Path}
  (henter : d.enter at_ root = .ok dir) (hresolve : resolveRoot d at_ root = .ok p)
  (hplain : q.IsPlain) (hlen : (p.join q).bytes.length < pathLimit)
include hd henter hresolve hplain hlen

/-- **The two ways of a root**, as far as its build path is concerned: it outlasts the build directory
if and only if the build path ends where it ended once that directory is gone. -/
theorem outlasts_iff (hnul : 0 ∉ q.bytes) :
    d.EndsIn at_ (p.join q) dir q.bytes ∧
      (d.Outlasts at_ p dir q.bytes ↔ (d.get? (dir ++ [q.bytes]) = some .directory →
        (d.erase (dir ++ [q.bytes])).EndsIn at_ (p.join q) dir q.bytes)) := by
  obtain ⟨habs, hclean, left, hwalk⟩ := walk_of_resolveRoot hd henter hresolve
  have haccept := accept_join hclean hnul hlen
  refine ⟨endsIn_of_plain habs hwalk hplain haccept, forall_congr' fun _ => ?_⟩
  have herased := hd.erase (dir ++ [q.bytes])
  have hstart : start at_ p = [] := if_pos habs
  constructor
  · intro henter'
    obtain ⟨-, -, left', hwalk'⟩ := herased.enter_eq_ok_iff.mp henter'
    rw [hstart] at hwalk'
    exact endsIn_of_plain habs hwalk' hplain haccept
  · intro hends
    have hp : accept p = .ok () :=
      accept_eq_ok_iff.mpr ⟨hclean, Nat.lt_trans (length_lt_length_join p hplain) hlen⟩
    obtain ⟨front, left', hnames, hwalk'⟩ := hends.walked
    have hrel := Path.isAbsolute_of_no_slash hplain.no_slash
    -- the names in front of the plain one are those of the root
    have hfront : front = p.names := by
      rw [Path.names_join hrel, Path.names_of_no_slash hplain.ne_nil hplain.no_slash] at hnames
      exact (List.append_inj_left' hnames rfl).symm
    refine herased.enter_eq_ok_iff.mpr ⟨hp, Path.bytes_ne_nil_of_isAbsolute habs, left', ?_⟩
    rw [hstart]
    rw [start, if_pos (Path.isAbsolute_join habs q), hfront] at hwalk'
    exact hwalk'

end Outlasting

/-! ## Runs that are alike -/

/-- A fault without the path that it mentions. -/
def Fault.unspelled : Fault → Fault
  | .filesystem action _ cause => .filesystem action ⟨[]⟩ cause
  | .notADirectory _ => .notADirectory ⟨[]⟩
  | fault => fault

/-- A result without the paths that it mentions. -/
def Report.unspelled : Except Fault Report → Except Fault Report
  | .error fault => .error fault.unspelled
  | .ok report => .ok { report with buildDir := ⟨[]⟩ }

/-- Two runs that differ at most in how they spell paths. -/
structure Transcript.Alike (t t' : Transcript σ) : Prop where
  disk : t.disk = t'.disk
  state : t.state = t'.state
  steps : t.invocations.map Invocation.step = t'.invocations.map Invocation.step
  result : Report.unspelled t.result = Report.unspelled t'.result

/-- The exit code is not a matter of spelling. -/
theorem ExitCode.ofResult_unspelled (checkStatus : Bool) (result : Except Fault Report) :
    ExitCode.ofResult checkStatus (Report.unspelled result) =
      ExitCode.ofResult checkStatus result := by
  cases result with
  | error fault => cases fault <;> rfl
  | ok report => rfl

/-! ## Tools that look at nothing -/

/-- Two starts of one tool, which may differ in the arguments and in the spelling of the working
directory. A NUL in an argument keeps any program from being started, so it is no matter of taste. -/
structure Invocation.SameTool (i i' : Invocation) : Prop where
  step : i.step = i'.step
  program : i.program = i'.program
  timeout : i.timeoutMillis = i'.timeoutMillis
  args : (∀ a ∈ i.args, 0 ∉ a) ↔ ∀ a ∈ i'.args, 0 ∉ a

/-- The runner's tools change nothing on the disk and do not look at their arguments. -/
structure Runner.Heedless (runner : Runner σ) (at_ : Location) : Prop where
  still : ∀ d s i, (runner d s i).disk = d
  blind : ∀ d s i i' l, i.SameTool i' → d.enter at_ i.workdir = .ok l →
    d.enter at_ i'.workdir = .ok l → runner d s i = runner d s i'

/-- Below two roots without a NUL the tools of a configuration are the same. -/
theorem Plan.sameTool_make (threads : Nat) (c : Config) {p p' : Path} (hp : 0 ∉ p.bytes)
    (hp' : 0 ∉ p'.bytes) :
    (Plan.make threads p c).configure.SameTool (Plan.make threads p' c).configure ∧
      (Plan.make threads p c).build.SameTool (Plan.make threads p' c).build := by
  refine ⟨⟨rfl, rfl, rfl, ?_⟩, ⟨rfl, rfl, rfl, Iff.rfl⟩⟩
  simp only [Plan.make, List.mem_append, List.mem_singleton, or_imp, forall_and, forall_eq]
  rw [iff_true_intro hp, iff_true_intro hp']

/-- **A reset that ends alike makes the whole run alike**, if the tools look at nothing. -/
theorem Plan.execute_alike {runner : Runner σ} {at_ : Location} (hrunner : runner.Heedless at_)
    (threads : Nat) (c : Config) {p p' : Path} (hp : 0 ∉ p.bytes) (hp' : 0 ∉ p'.bytes)
    {d d₀ : Disk} {l : Location}
    (hreset : BuildDir.reset d at_ (Plan.make threads p c).buildDir = (d₀, .ok ()))
    (hreset' : BuildDir.reset d at_ (Plan.make threads p' c).buildDir = (d₀, .ok ()))
    (henter : d₀.enter at_ (Plan.make threads p c).buildDir = .ok l)
    (henter' : d₀.enter at_ (Plan.make threads p' c).buildDir = .ok l) (s : σ) :
    ((Plan.make threads p c).execute at_ runner d s).Alike
      ((Plan.make threads p' c).execute at_ runner d s) := by
  obtain ⟨hconfigure, hbuild⟩ := sameTool_make threads c hp hp'
  have hfirst := hrunner.blind d₀ s _ _ l hconfigure henter henter'
  have hsecond := hrunner.blind d₀ (runner d₀ s (Plan.make threads p' c).configure).state _ _ l
    hbuild henter henter'
  -- the first replies are equal, so the second calls start from one disk and one state
  unfold execute
  rw [hreset, hreset']
  simp only
  rw [hfirst, hrunner.still, hsecond, hrunner.still]
  cases (runner d₀ s (Plan.make threads p' c).configure).answer with
  | error fault => exact ⟨rfl, rfl, rfl, rfl⟩
  | ok o =>
      simp only
      split
      · rename_i hgoes
        rw [if_pos (by exact hgoes)]
        refine ⟨rfl, rfl, rfl, ?_⟩
        simp only
        cases (runner d₀ (runner d₀ s (Plan.make threads p' c).configure).state
          (Plan.make threads p' c).build).answer <;> rfl
      · rename_i hstop
        rw [if_neg (by exact hstop)]
        exact ⟨rfl, rfl, rfl, rfl⟩

/-! ## Two roots in one directory -/

/-- Two paths that end in the same place, and still do when their target is gone, are reset alike. -/
theorem BuildDir.reset_alike {d : Disk} {at_ dir : Location} {name : Name} {b b' : Path}
    (hdir : d.hasDirectory dir = true) (hends : d.EndsIn at_ b dir name)
    (hends' : d.EndsIn at_ b' dir name) (hslash : b.endsInSlash = false)
    (hslash' : b'.endsInSlash = false)
    (herased : d.get? (dir ++ [name]) = some .directory →
      (d.erase (dir ++ [name])).EndsIn at_ b dir name)
    (herased' : d.get? (dir ++ [name]) = some .directory →
      (d.erase (dir ++ [name])).EndsIn at_ b' dir name) :
    (∃ d₀, reset d at_ b = (d₀, .ok ()) ∧ reset d at_ b' = (d₀, .ok ())) ∨
      ∃ f f' : Fault, reset d at_ b = (d, .error f) ∧ reset d at_ b' = (d, .error f') ∧
        f.unspelled = f'.unspelled := by
  rw [reset_eq hends hslash hdir herased, reset_eq hends' hslash' hdir herased']
  split
  · exact Or.inr ⟨_, _, rfl, rfl, rfl⟩
  · split
    · exact Or.inl ⟨_, rfl, rfl⟩
    · exact Or.inl ⟨_, rfl, rfl⟩
    · exact Or.inr ⟨_, _, rfl, rfl, rfl⟩

/-- A name with a NUL in it cannot be handed to the machine, whatever it is joined behind. -/
theorem BuildDir.reset_join_nul {d : Disk} {at_ : Location} (p : Path) {q : Path}
    (hnul : 0 ∈ q.bytes) :
    reset d at_ (p.join q) = (d, .error (.filesystem "inspect" (p.join q) .nulInPath)) :=
  reset_of_accept_error (Disk.accept_of_nul (Path.mem_bytes_join_right p hnul))

/-- Runs that stop at their reset with alike faults are alike. -/
theorem Plan.execute_alike_of_reset_error (b b' : Plan) {at_ : Location} {d : Disk} {f f' : Fault}
    (hreset : BuildDir.reset d at_ b.buildDir = (d, .error f))
    (hreset' : BuildDir.reset d at_ b'.buildDir = (d, .error f'))
    (hf : f.unspelled = f'.unspelled) (runner : Runner σ) (s : σ) :
    (b.execute at_ runner d s).Alike (b'.execute at_ runner d s) := by
  rw [execute_of_reset_error hreset, execute_of_reset_error hreset']
  exact ⟨rfl, rfl, rfl, congrArg Except.error hf⟩

section Roots

variable {d : Disk} (hd : d.IsTree) {at_ dir : Location} {c : Config}
  (hplain : (Path.ofString c.buildDir).IsPlain) {r p : Path} (hr : d.enter at_ r = .ok dir)
  (hp : resolveRoot d at_ r = .ok p)
  (hlen : (p.join (Path.ofString c.buildDir)).bytes.length < Disk.pathLimit)
include hd hplain hr hp hlen

/-- Two roots that outlast their build directory. -/
theorem rebuild_alike {r' p' : Path} (hr' : d.enter at_ r' = .ok dir)
    (hp' : resolveRoot d at_ r' = .ok p')
    (hlen' : (p'.join (Path.ofString c.buildDir)).bytes.length < Disk.pathLimit)
    (hlasts : d.Outlasts at_ p dir (Path.ofString c.buildDir).bytes)
    (hlasts' : d.Outlasts at_ p' dir (Path.ofString c.buildDir).bytes)
    {runner : Runner σ} (hrunner : runner.Heedless at_) (threads : Nat) (s : σ) :
    (rebuild threads at_ r c runner d s).Alike (rebuild threads at_ r' c runner d s) := by
  unfold rebuild
  rw [hp, hp']
  simp only
  by_cases hnul : 0 ∈ (Path.ofString c.buildDir).bytes
  · -- neither path can be handed to the machine
    exact Plan.execute_alike_of_reset_error (Plan.make threads p c) (Plan.make threads p' c)
      (BuildDir.reset_join_nul p hnul) (BuildDir.reset_join_nul p' hnul) rfl runner s
  · obtain ⟨-, hclean, -⟩ := walk_of_resolveRoot hd hr hp
    obtain ⟨-, hclean', -⟩ := walk_of_resolveRoot hd hr' hp'
    obtain ⟨hends, hiff⟩ := outlasts_iff hd hr hp hplain hlen hnul
    obtain ⟨hends', hiff'⟩ := outlasts_iff hd hr' hp' hplain hlen' hnul
    have hend : ∀ q : Path, (q.join (Path.ofString c.buildDir)).endsInSlash = false := fun q =>
      q.endsInSlash_join_name hplain.ne_nil hplain.no_slash
    rcases BuildDir.reset_alike (hasDirectory_of_root hd hr hp) hends hends' (hend p) (hend p')
      (hiff.mp hlasts) (hiff'.mp hlasts') with ⟨d₀, hreset, hreset'⟩ | ⟨f, f', hreset, hreset', hf⟩
    · have henter := BuildDir.enter_of_reset hd hends hreset
      have henter' := BuildDir.enter_of_reset hd hends' hreset'
      exact Plan.execute_alike hrunner threads c hclean hclean' hreset hreset' henter henter' s
    · exact Plan.execute_alike_of_reset_error (Plan.make threads p c) (Plan.make threads p' c)
        hreset hreset' hf runner s

/-- A root that does not outlast its build directory. -/
theorem rebuild_lost (hlost : ¬ d.Outlasts at_ p dir (Path.ofString c.buildDir).bytes)
    (runner : Runner σ) (threads : Nat) (s : σ) :
    (rebuild threads at_ r c runner d s).calls = [] ∧
      (rebuild threads at_ r c runner d s).result =
        .error (.filesystem "create" (p.join (Path.ofString c.buildDir)) (.system .noEntry)) := by
  have hget : d.get? (dir ++ [(Path.ofString c.buildDir).bytes]) = some .directory := by
    by_contra hother
    exact hlost fun h => absurd h hother
  have hproper : Name.IsProper (Path.ofString c.buildDir).bytes :=
    hd.proper_of_get? hget (by simp)
  obtain ⟨hends, hiff⟩ := outlasts_iff hd hr hp hplain hlen hproper.no_nul
  have herased := fun h => hlost (hiff.mpr fun _ => h)
  have hreset := BuildDir.reset_lost hends hproper.short hget herased
  unfold rebuild
  rw [hp]
  simp only
  -- the disk that the reset has left is of no interest, only its answer
  generalize hwhole : BuildDir.reset d at_ (Plan.make threads p c).buildDir = whole
  obtain ⟨d₀, result⟩ := whole
  have hresult : result = .error _ := (congrArg Prod.snd hwhole).symm.trans hreset
  subst hresult
  rw [Plan.execute_of_reset_error hwhole]
  exact ⟨rfl, rfl⟩

end Roots

/-- **What the spelling of a root decides.** Two roots in one directory, made absolute, give runs that
are alike and have one exit code if both still lead to that directory once the build directory is
gone. A root that does not is lost: the run fails to make the directory and calls no tool. -/
theorem rebuild_root_alike {d : Disk} (hd : d.IsTree) {at_ dir : Location} {c : Config}
    (hplain : (Path.ofString c.buildDir).IsPlain) {r r' p p' : Path}
    (hr : d.enter at_ r = .ok dir) (hr' : d.enter at_ r' = .ok dir)
    (hp : resolveRoot d at_ r = .ok p) (hp' : resolveRoot d at_ r' = .ok p')
    (hlen : (p.join (Path.ofString c.buildDir)).bytes.length < Disk.pathLimit)
    (hlen' : (p'.join (Path.ofString c.buildDir)).bytes.length < Disk.pathLimit)
    {runner : Runner σ} (hrunner : runner.Heedless at_) (threads : Nat) (s : σ) :
    (d.Outlasts at_ p dir (Path.ofString c.buildDir).bytes →
      d.Outlasts at_ p' dir (Path.ofString c.buildDir).bytes →
        (rebuild threads at_ r c runner d s).Alike (rebuild threads at_ r' c runner d s) ∧
          ExitCode.ofResult c.checkStatus (rebuild threads at_ r c runner d s).result =
            ExitCode.ofResult c.checkStatus (rebuild threads at_ r' c runner d s).result) ∧
      (¬ d.Outlasts at_ p dir (Path.ofString c.buildDir).bytes →
        (rebuild threads at_ r c runner d s).calls = [] ∧
          (rebuild threads at_ r c runner d s).result = .error
            (.filesystem "create" (p.join (Path.ofString c.buildDir)) (.system .noEntry)) ∧
          ExitCode.ofResult c.checkStatus (rebuild threads at_ r c runner d s).result = 4) := by
  constructor
  · intro hlasts hlasts'
    have halike := rebuild_alike hd hplain hr hp hlen hr' hp' hlen' hlasts hlasts' hrunner threads s
    refine ⟨halike, ?_⟩
    rw [← ExitCode.ofResult_unspelled, halike.result, ExitCode.ofResult_unspelled]
  · intro hlost
    obtain ⟨hcalls, hresult⟩ := rebuild_lost hd hplain hr hp hlen hlost runner threads s
    refine ⟨hcalls, hresult, ?_⟩
    rw [hresult]
    rfl

/-! ## A project with a build directory -/

/-- A runner whose tools do nothing. All they need is a directory to start in. -/
def Runner.idle (at_ : Location) : Runner Unit := fun d s i =>
  match d.enter at_ i.workdir with
  | .ok _ => ⟨d, s, .ok .succeeded⟩
  | .error cause => ⟨d, s, .error (.toolInvocation i.step "spawn" i.program cause)⟩

theorem Runner.idle_heedless (at_ : Location) : (Runner.idle at_).Heedless at_ where
  still := by
    intro d s i
    unfold idle
    cases d.enter at_ i.workdir <;> rfl
  blind := by
    intro d s i i' l _ henter henter'
    unfold idle
    rw [henter, henter']

/-- Where tools do nothing, a reset decides the run. -/
theorem Plan.execute_idle {b : Plan} {at_ l : Location} {d d₀ : Disk}
    (hreset : BuildDir.reset d at_ b.buildDir = (d₀, .ok ()))
    (hconfigure : d₀.enter at_ b.configure.workdir = .ok l)
    (hbuild : d₀.enter at_ b.build.workdir = .ok l) :
    (b.execute at_ (Runner.idle at_) d ()).result =
      .ok ⟨b.buildDir, .succeeded, some .succeeded⟩ := by
  unfold execute
  rw [hreset]
  simp only [Runner.idle, hconfigure, hbuild, Outcome.isSuccess, Bool.true_or, if_true]
  rfl

/-- A directory `p` that holds an empty directory `build`. -/
def Disk.project : Disk :=
  ⟨[([Utf8.ofString "p"], .directory), ([Utf8.ofString "p", Utf8.ofString "build"], .directory)],
    []⟩

theorem Disk.project_isTree : Disk.project.IsTree := by decide

theorem Path.isPlain_build : (Path.ofString Config.standard.buildDir).IsPlain :=
  ⟨by decide, by decide, by decide, by decide⟩

/-- Started in the project, by `.` and by its absolute path. -/
theorem rebuild_root_alike_here :
    let at_ := [Utf8.ofString "p"]
    (rebuild 4 at_ (Path.ofString ".") Config.standard (Runner.idle at_) Disk.project ()).Alike
      (rebuild 4 at_ (Path.ofString "/p/") Config.standard (Runner.idle at_) Disk.project ()) := by
  intro at_
  have hd := Disk.project_isTree
  have herased := hd.erase [Utf8.ofString "p", Utf8.ofString "build"]
  have hr : Disk.project.enter at_ (Path.ofString ".") = .ok [Utf8.ofString "p"] := by
    refine hd.enter_eq_ok_iff.mpr ⟨by decide, by decide, Disk.maxLinks, ?_⟩
    have hnames : (Path.ofString ".").names = [Path.here] := by decide
    rw [hnames, Disk.walk_here, Disk.walk_nil]
    rfl
  have hr' : Disk.project.enter at_ (Path.ofString "/p/") = .ok [Utf8.ofString "p"] :=
    hd.enter_root (by decide) (by decide) (by decide) at_
  have hp : resolveRoot Disk.project at_ (Path.ofString ".") = .ok (Path.ofString "/p") := by decide
  have hp' : resolveRoot Disk.project at_ (Path.ofString "/p/") = .ok (Path.ofString "/p/") := by
    decide
  have hboth := rebuild_root_alike hd Path.isPlain_build hr hr' hp hp' (by decide) (by decide)
    (Runner.idle_heedless at_) 4 ()
  refine (hboth.1 (fun _ => ?_) (fun _ => ?_)).1
  · exact herased.enter_root (by decide) (by decide) (by decide) at_
  · exact herased.enter_root (by decide) (by decide) (by decide) at_

/-- Started in the build directory, `..` and the absolute path of the project lead to one directory,
and yet the one run fails and the other succeeds. -/
theorem rebuild_root_unlike_inside :
    let at_ := [Utf8.ofString "p", Utf8.ofString "build"]
    let run (r : Path) := rebuild 4 at_ r Config.standard (Runner.idle at_) Disk.project ()
    (Runner.idle at_).Heedless at_ ∧ (Path.ofString Config.standard.buildDir).IsPlain ∧
      Disk.project.enter at_ (Path.ofString "..") = .ok [Utf8.ofString "p"] ∧
      Disk.project.enter at_ (Path.ofString "/p") = .ok [Utf8.ofString "p"] ∧
      ExitCode.ofResult false (run (Path.ofString "..")).result = 4 ∧
      ExitCode.ofResult false (run (Path.ofString "/p")).result = 0 := by
  intro at_ run
  have hd := Disk.project_isTree
  have herased := hd.erase [Utf8.ofString "p", Utf8.ofString "build"]
  have hr : Disk.project.enter at_ (Path.ofString "..") = .ok [Utf8.ofString "p"] := by
    refine hd.enter_eq_ok_iff.mpr ⟨by decide, by decide, Disk.maxLinks, ?_⟩
    have hnames : (Path.ofString "..").names = [Path.up] := by decide
    rw [hnames, Disk.walk_up, Disk.walk_nil]
    rfl
  have hr' : Disk.project.enter at_ (Path.ofString "/p") = .ok [Utf8.ofString "p"] :=
    hd.enter_root (by decide) (by decide) (by decide) at_
  have hp : resolveRoot Disk.project at_ (Path.ofString "..") = .ok (Path.ofString "/p/build/..") :=
    by decide
  have hp' : resolveRoot Disk.project at_ (Path.ofString "/p") = .ok (Path.ofString "/p") := by
    decide
  refine ⟨Runner.idle_heedless at_, Path.isPlain_build, hr, hr', ?_, ?_⟩
  · have hlost : ¬ Disk.project.Outlasts at_ (Path.ofString "/p/build/..") [Utf8.ofString "p"]
        (Path.ofString Config.standard.buildDir).bytes := by
      intro hlasts
      obtain ⟨-, -, left, hwalk⟩ := herased.enter_eq_ok_iff.mp (hlasts (by decide))
      have hnames : (Path.ofString "/p/build/..").names =
          [Utf8.ofString "p", Utf8.ofString "build", Path.up] := by decide
      rw [Disk.start, if_pos (by decide), hnames,
        Disk.walk_directory (by decide) (by decide) (by decide) (by decide),
        Disk.walk_missing (by decide) (by decide) (by decide) (by decide)] at hwalk
      cases hwalk
    have hresult := (rebuild_lost hd Path.isPlain_build hr hp (by decide) hlost (Runner.idle at_) 4
      ()).2
    rw [hresult]
    rfl
  · have hends := (outlasts_iff hd hr' hp' Path.isPlain_build (by decide) (by decide)).1
    obtain ⟨d₀, hreset, -⟩ := @BuildDir.reset_plain Disk.project hd at_ (Path.ofString "/p")
      (Path.ofString Config.standard.buildDir) (by decide) (by decide)
      (Path.ofString Config.standard.buildDir).bytes (by decide) (by decide) (by decide) (by decide)
      (by decide)
    have henter := BuildDir.enter_of_reset hd hends hreset
    have hresult := @Plan.execute_idle (Plan.make 4 (Path.ofString "/p") Config.standard) at_ _ _ _
      hreset henter henter
    simp only [run, rebuild, hp', hresult]
    rfl

end FreshBuild
