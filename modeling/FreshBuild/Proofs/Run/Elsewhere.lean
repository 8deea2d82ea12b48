/-
# FreshBuild.Proofs.Run.Elsewhere — an absolute root means from everywhere what it meant at first.

A root is taken from the directory in which the program was started, and the tools run in another one.
So the root is made absolute before anybody else sees it. That is done on its spelling: repeated
slashes and the names `.` are dropped, and the names of the current directory are put in front. A
machine resolves no spellings, it walks, and it could be that a dropped `.` was what kept a path from
leading somewhere, or that a link counts against the limit in one spelling and not in the other.

`SamePlace` says that two paths are one to the machine: looked up in any way, with any number of links
to spare, they have the same end or the same error, and they would make or remove an entry under the
same name. What every single file operation answers follows from this. `resolveRoot_standsFor` shows it
of everything below a root, and of the root itself as a directory to be entered. It is not true of a
root that is only looked at: `f/.` is no path to the file `f`, and its absolute form is one.

An absolute form takes its way from the root of the file system. So it needs two things that a relative
root does not: the process must be allowed to search the directories above the current one
(`Access.Above`), and the current one must still be where it was. `Barred` is what happens if a directory
above is closed, and `resolveRoot_strays` shows a root for either.
-/
import FreshBuild.Proofs.Run.Root

namespace FreshBuild

namespace Disk

/-! ## Two paths to one place -/

/-- Two paths, each taken from a current directory of its own, are one to the machine, for a process
that may search these directories. -/
structure SamePlace (d : Disk) (may : Access) (at_ at' : Location) (a b : Path) : Prop where
  /-- They lead to the same end or fail with the same error, whatever is done about links. -/
  follow_eq : ∀ (through asDirectory : Bool) (links : Nat),
    d.follow through asDirectory links at_ a may = d.follow through asDirectory links at' b may
  /-- An entry would be made or removed under the same name of the same directory. -/
  parent_eq : d.parent at_ a may = d.parent at' b may
  endsInSlash_eq : a.endsInSlash = b.endsInSlash
  nul_iff : 0 ∈ a.bytes ↔ 0 ∈ b.bytes

variable {d : Disk} {may : Access} {at_ at' : Location} {a b : Path}

/-- Paths with one last name are one to the machine if the names before it lead to one place with as
many links to spare. -/
theorem SamePlace.of_walk {front front' : List Name} {last : Name} (ha : a.names = front ++ [last])
    (hb : b.names = front' ++ [last])
    (hwalk : ∀ links, d.walk links (start at_ a) front may = d.walk links (start at' b) front' may)
    (hslash : a.endsInSlash = b.endsInSlash) (hnul : 0 ∈ a.bytes ↔ 0 ∈ b.bytes) :
    d.SamePlace may at_ at' a b where
  follow_eq := by
    intro through asDirectory links
    have hane : a.bytes ≠ [] := Path.bytes_ne_nil_of_names (by simp [ha])
    have hbne : b.bytes ≠ [] := Path.bytes_ne_nil_of_names (by simp [hb])
    -- the last name, and whether a slash stands behind it, decide the rest in both
    cases hw : d.walk links (start at_ a) front may with
    | error errno =>
        rw [follow_of_walk_error hane ha hw,
          follow_of_walk_error hbne hb ((hwalk links).symm.trans hw)]
    | ok r =>
        rw [follow_of_walk hane ha hw, follow_of_walk hbne hb ((hwalk links).symm.trans hw), hslash]
  parent_eq := by rw [Disk.parent_eq ha, Disk.parent_eq hb, hwalk]
  endsInSlash_eq := hslash
  nul_iff := hnul

namespace SamePlace

variable (h : d.SamePlace may at_ at' a b) (ha : a.bytes.length < pathLimit)
  (hb : b.bytes.length < pathLimit)
include h ha hb

/-- Below the limit, the machine takes both paths or neither. -/
theorem accept_eq : accept a = accept b := by
  by_cases hnul : 0 ∈ a.bytes
  · rw [accept_of_nul hnul, accept_of_nul (h.nul_iff.mp hnul)]
  · rw [accept_eq_ok_iff.mpr ⟨hnul, ha⟩, accept_eq_ok_iff.mpr ⟨fun hb => hnul (h.nul_iff.mpr hb), hb⟩]

theorem inspect_eq (through : Bool) :
    d.inspect through at_ a may = d.inspect through at' b may := by
  unfold inspect request
  rw [h.accept_eq ha hb, h.follow_eq]

theorem readFile_eq : d.readFile at_ a may = d.readFile at' b may := by
  unfold readFile
  rw [h.inspect_eq ha hb]

theorem enter_eq : d.enter at_ a may = d.enter at' b may := by
  unfold enter
  rw [h.inspect_eq ha hb]

theorem make_eq (e : Entry) : d.make at_ a e may = d.make at' b e may := by
  unfold make request
  rw [h.accept_eq ha hb, h.parent_eq]

theorem removeDir_eq : d.removeDir at_ a may = d.removeDir at' b may := by
  unfold removeDir request
  rw [h.accept_eq ha hb, h.parent_eq]

end SamePlace

/-! ## The directories above -/

/-- The process may search every directory above a location. -/
def Access.Above (may : Access) (at_ : Location) : Prop :=
  ∀ n < at_.length, may (at_.take n) = true

/-- A path that the process gets nowhere with: it may not search a directory on the way. -/
structure Barred (d : Disk) (may : Access) (at_ : Location) (p : Path) : Prop where
  follow_eq : ∀ (through asDirectory : Bool) (links : Nat),
    d.follow through asDirectory links at_ p may = .error .access
  parent_eq : d.parent at_ p may = .error .access

variable {p : Path}

theorem Barred.of_walk {front : List Name} {last : Name} (hp : p.names = front ++ [last])
    (hwalk : ∀ links, d.walk links (start at_ p) front may = .error .access) :
    d.Barred may at_ p where
  follow_eq := fun _ _ links =>
    follow_of_walk_error (Path.bytes_ne_nil_of_names (by simp [hp])) hp (hwalk links)
  parent_eq := by rw [Disk.parent_eq hp, hwalk]; rfl

/-- Nothing can be read by such a path. -/
theorem Barred.inspect_eq (h : d.Barred may at_ p) (hp : accept p = .ok ()) (through : Bool) :
    d.inspect through at_ p may = .error (.system .access) := by
  rw [inspect, request_eq hp, h.follow_eq]
  rfl

end Disk

/-! ## Roots and their absolute forms -/

section Root

open Disk

variable {d : Disk} {may : Access} {at_ : Location} {p r : Path}

/-- Every root but the empty one can be made absolute where the current directory is still there. -/
theorem exists_resolveRoot (hat : d.hasDirectory at_ = true) (hp : p.bytes ≠ []) :
    ∃ r, resolveRoot d at_ p = .ok r := by
  unfold resolveRoot Path.absolute?
  rw [if_neg hp]
  simp [hat]

variable (hd : d.IsTree) (hr : resolveRoot d at_ p = .ok r)
include hd hr

/-- **A walk from the root of everything along the absolute form**, and on along other names, is a walk
from the current directory along the root itself, with as many links to spare, provided that it gets as
far as to the current directory. -/
theorem walk_resolveRoot (habove : may.Above (start at_ p)) (links : Nat) (rest : List Name) :
    d.walk links [] (r.names ++ rest) may = d.walk links (start at_ p) (p.names ++ rest) may := by
  obtain ⟨-, hstart, hnames⟩ := names_of_resolveRoot hd hr
  have hbelow : d.hasDirectory ([] ++ start at_ p) = true := hstart
  rw [hnames, List.append_assoc, hd.walk_below_of_may hbelow habove, List.nil_append, walk_append,
    walk_filter_here, ← walk_append]

/-- If it does not get there, it leads nowhere. -/
theorem walk_resolveRoot_of_closed (hclosed : ¬ may.Above (start at_ p)) (links : Nat)
    (rest : List Name) : d.walk links [] (r.names ++ rest) may = .error .access := by
  obtain ⟨-, hstart, hnames⟩ := names_of_resolveRoot hd hr
  have hbelow : d.hasDirectory ([] ++ start at_ p) = true := hstart
  simp only [Access.Above, not_forall, Bool.not_eq_true] at hclosed
  obtain ⟨n, -, hn⟩ := hclosed
  rw [hnames, List.append_assoc]
  exact hd.walk_below_of_closed hbelow hn _

/-- The absolute form has no NUL of its own. -/
theorem nul_mem_resolveRoot_iff : 0 ∈ r.bytes ↔ 0 ∈ p.bytes := by
  obtain ⟨-, hstart, hnames⟩ := names_of_resolveRoot hd hr
  rw [Path.nul_mem_bytes_iff, Path.nul_mem_bytes_iff, hnames]
  constructor
  · rintro ⟨name, hname, hnul⟩
    rcases List.mem_append.mp hname with hname | hname
    · -- no directory on a machine has such a name
      have hproper : Name.IsProper name := hd.proper_of_get? (hasDirectory_iff.mp hstart) hname
      exact absurd hnul hproper.no_nul
    · exact ⟨name, (List.mem_filter.mp hname).1, hnul⟩
  · rintro ⟨name, hname, hnul⟩
    have hne : name ≠ Path.here := by
      rintro rfl
      exact absurd hnul (by decide)
    exact ⟨name, List.mem_append_right _ (List.mem_filter.mpr ⟨hname, by simpa using hne⟩), hnul⟩

/-- What is below the absolute form is looked up by a walk along the names of that form. -/
theorem names_join_resolveRoot {q : Path} (hq : q.bytes ≠ []) (hrel : q.isAbsolute = false)
    (at' : Location) :
    start at' (r.join q) = [] ∧ ∃ front last, q.names = front ++ [last] ∧
      (r.join q).names = (r.names ++ front) ++ [last] := by
  obtain ⟨habs, -, -⟩ := names_of_resolveRoot hd hr
  refine ⟨if_pos (Path.isAbsolute_join habs q), ?_⟩
  rcases List.eq_nil_or_concat q.names with hnil | ⟨front, last, hlast⟩
  · exact absurd hnil (Path.names_ne_nil_of_relative hq hrel)
  · rw [List.concat_eq_append] at hlast
    exact ⟨front, last, hlast, by rw [Path.names_join hrel, hlast, List.append_assoc]⟩

/-- Everything below the absolute form is where it is below the root. -/
theorem samePlace_resolveRoot (habove : may.Above (start at_ p)) {q : Path} (hp : p.bytes ≠ [])
    (hq : q.bytes ≠ []) (hrel : q.isAbsolute = false) (at' : Location) :
    d.SamePlace may at_ at' (p.join q) (r.join q) := by
  obtain ⟨hrstart, front, last, hlast, hrnames⟩ := names_join_resolveRoot hd hr hq hrel at'
  have hpnames : (p.join q).names = (p.names ++ front) ++ [last] := by
    rw [Path.names_join hrel, hlast, List.append_assoc]
  have hpstart : start at_ (p.join q) = start at_ p := by
    rw [start, start, Path.isAbsolute_join_relative hp hrel]
  refine .of_walk hpnames hrnames ?_ ?_ ?_
  · intro links
    rw [hpstart, hrstart, walk_resolveRoot hd hr habove]
  · rw [Path.endsInSlash_join hrel hq, Path.endsInSlash_join hrel hq]
  · have hnul := nul_mem_resolveRoot_iff hd hr
    rw [Path.nul_mem_bytes_iff, Path.nul_mem_bytes_iff] at hnul ⊢
    simp only [Path.names_join hrel, List.mem_append, or_and_right, exists_or, hnul]

/-- Or else nothing below it can be reached. -/
theorem barred_resolveRoot (hclosed : ¬ may.Above (start at_ p)) {q : Path} (hq : q.bytes ≠ [])
    (hrel : q.isAbsolute = false) (at' : Location) : d.Barred may at' (r.join q) := by
  obtain ⟨hrstart, front, last, -, hrnames⟩ := names_join_resolveRoot hd hr hq hrel at'
  refine .of_walk hrnames fun links => ?_
  rw [hrstart, walk_resolveRoot_of_closed hd hr hclosed]

/-- The absolute form can be entered where the root can, and fails where it fails. -/
theorem enter_resolveRoot (habove : may.Above (start at_ p)) (hp : p.bytes ≠ [])
    (hplen : p.bytes.length < pathLimit) (hrlen : r.bytes.length < pathLimit) (at' : Location) :
    d.enter at' r may = d.enter at_ p may := by
  obtain ⟨habs, -, -⟩ := names_of_resolveRoot hd hr
  have hstart : start at' r = [] := if_pos habs
  have haccept : accept r = accept p := by
    by_cases hnul : 0 ∈ p.bytes
    · rw [accept_of_nul hnul, accept_of_nul ((nul_mem_resolveRoot_iff hd hr).mpr hnul)]
    · rw [accept_eq_ok_iff.mpr ⟨hnul, hplen⟩,
        accept_eq_ok_iff.mpr ⟨fun h => hnul ((nul_mem_resolveRoot_iff hd hr).mp h), hrlen⟩]
  have hwalk := walk_resolveRoot hd hr habove maxLinks []
  rw [List.append_nil, List.append_nil] at hwalk
  rw [hd.enter_eq at' (Path.bytes_ne_nil_of_isAbsolute habs), hd.enter_eq at_ hp, hstart, hwalk,
    request, request, haccept]

end Root

/-- From every current directory, the absolute path `r` stands for what the root `p` means from `at_`,
as far as paths are below the machine's limit. The process may search these directories. -/
structure Disk.StandsFor (d : Disk) (may : Disk.Access) (at_ : Location) (p r : Path) : Prop where
  absolute : r.isAbsolute = true
  below : ∀ (at' : Location) (q : Path), q.bytes ≠ [] → q.isAbsolute = false →
    d.SamePlace may at_ at' (p.join q) (r.join q)
  /-- The standard configuration file has one content, or cannot be read for one cause. -/
  config : ∀ at' : Location, (p.join Options.configName).bytes.length < pathLimit →
    (r.join Options.configName).bytes.length < pathLimit →
      d.readFile at' (r.join Options.configName) may = d.readFile at_ (p.join Options.configName) may
  /-- The build directory of a plan is inspected, entered, made and removed as the one below the root
  would be from the directory where the program was started. -/
  buildDir : ∀ (at' : Location) (threads : Nat) (c : Config), c.validate = .ok () →
    (p.join (Path.ofString c.buildDir)).bytes.length < pathLimit →
      (Plan.make threads r c).buildDir.bytes.length < pathLimit →
        (∀ through, d.inspect through at' (Plan.make threads r c).buildDir may =
            d.inspect through at_ (p.join (Path.ofString c.buildDir)) may) ∧
          d.enter at' (Plan.make threads r c).buildDir may =
            d.enter at_ (p.join (Path.ofString c.buildDir)) may ∧
          d.makeDir at' (Plan.make threads r c).buildDir may =
            d.makeDir at_ (p.join (Path.ofString c.buildDir)) may ∧
          d.removeDir at' (Plan.make threads r c).buildDir may =
            d.removeDir at_ (p.join (Path.ofString c.buildDir)) may
  /-- The root that the configure tool is given is the directory that was meant. -/
  argument : ∀ (at' : Location) (threads : Nat) (c : Config), p.bytes.length < pathLimit →
    r.bytes.length < pathLimit →
      (Plan.make threads r c).configure.args.getLast? = some r.bytes ∧
        d.enter at' r may = d.enter at_ p may

/-- So the absolute form stands for the root, if one gets as far as to where the root starts. -/
theorem standsFor_resolveRoot {d : Disk} (hd : d.IsTree) {may : Disk.Access} {at_ : Location}
    {p r : Path} (hr : resolveRoot d at_ p = .ok r) (habove : may.Above (Disk.start at_ p))
    (hp : p.bytes ≠ []) : d.StandsFor may at_ p r := by
  have hbelow : ∀ (at' : Location) (q : Path), q.bytes ≠ [] → q.isAbsolute = false →
      d.SamePlace may at_ at' (p.join q) (r.join q) :=
    fun at' _ hq hrel => samePlace_resolveRoot hd hr habove hp hq hrel at'
  exact
    { absolute := (names_of_resolveRoot hd hr).1
      below := hbelow
      config := fun at' hplen hrlen =>
        ((hbelow at' Options.configName (by decide) (by decide)).readFile_eq hplen hrlen).symm
      buildDir := by
        intro at' threads c hvalid hplen hrlen
        -- a name that passed validation is relative, and it is a name
        obtain ⟨name, hname⟩ := Config.components_of_validate hvalid
        obtain ⟨hrel, -, -, k, hnames⟩ := Path.components_eq_normal_iff.mp hname
        have hne : (Path.ofString c.buildDir).bytes ≠ [] :=
          Path.bytes_ne_nil_of_names (by simp [hnames])
        have hsame := hbelow at' (Path.ofString c.buildDir) hne hrel
        exact ⟨fun through => (hsame.inspect_eq hplen hrlen through).symm,
          (hsame.enter_eq hplen hrlen).symm, (hsame.make_eq hplen hrlen .directory).symm,
          (hsame.removeDir_eq hplen hrlen).symm⟩
      argument := by
        intro at' threads c hplen hrlen
        refine ⟨?_, enter_resolveRoot hd hr habove hp hplen hrlen at'⟩
        show (c.configure.extraArgs.map Utf8.ofString ++ [r.bytes]).getLast? = some r.bytes
        rw [List.getLast?_concat] }

/-- **An absolute root stands for the root everywhere.** On every tree, wherever the program was
started, every root but the empty one has an absolute form. For a process that may search the
directories above the one where it was started, that form means from any directory what the root meant
from there: for the configuration file, for the build directory and for the tools. A root that is
absolute already needs no such permission. With a relative one and without the permission, the process
reaches nothing by the absolute form. -/
theorem resolveRoot_standsFor {d : Disk} (hd : d.IsTree) {at_ : Location}
    (hat : d.hasDirectory at_ = true) {p : Path} (hp : p.bytes ≠ []) :
    ∃ r, resolveRoot d at_ p = .ok r ∧ ∀ may : Disk.Access,
      ((p.isAbsolute = false → may.Above at_) → d.StandsFor may at_ p r) ∧
        (p.isAbsolute = false → ¬ may.Above at_ → ∀ (at' : Location) (q : Path), q.bytes ≠ [] →
          q.isAbsolute = false → d.Barred may at' (r.join q)) := by
  obtain ⟨r, hr⟩ := exists_resolveRoot hat hp
  refine ⟨r, hr, fun may => ⟨fun hmay => ?_, fun hrel hclosed at' q hq hqrel => ?_⟩⟩
  · refine standsFor_resolveRoot hd hr ?_ hp
    unfold Disk.start
    cases hroot : p.isAbsolute with
    | true =>
        -- an absolute root starts where there is nothing above
        exact fun n hn => absurd hn (Nat.not_lt_zero n)
    | false => exact hmay hroot
  · have hstart : Disk.start at_ p = at_ := if_neg (by simp [hrel])
    rw [← hstart] at hclosed
    exact barred_resolveRoot hd hr hclosed hq hqrel at'

/-- A program that was started in `/p` with a root through a link to `/q/s` and back up, by a spelling
with dots and doubled slashes. A tool in `/q/s` finds the file in `/q` that was meant, unless it may not
search the root of the file system. -/
theorem resolveRoot_standsFor_linked :
    let p := Utf8.ofString "p"
    let q := Utf8.ofString "q"
    let s := Utf8.ofString "s"
    let l := Utf8.ofString "l"
    let d : Disk := ⟨[([p], .directory), ([p, l], .link (Path.ofString "../q/s")),
      ([q], .directory), ([q, s], .directory),
      ([q, Options.configName.bytes], .file [0x6B] false)], []⟩
    let root := Path.ofString "./l//./.."
    d.IsTree ∧ d.hasDirectory [p] = true ∧ root.bytes ≠ [] ∧
      resolveRoot d [p] root = .ok (Path.ofString "/p/l/..") ∧
      d.readFile [q, s] ((Path.ofString "/p/l/..").join Options.configName) = .ok [0x6B] ∧
      d.inspect true [q, s] ((Path.ofString "/p/l/..").join Options.configName) (· != []) =
        .error (.system .access) := by
  intro p q s l d root
  have hd : d.IsTree := by decide
  have hat : d.hasDirectory [p] = true := by decide
  have hroot : root.bytes ≠ [] := by decide
  have hresolve : resolveRoot d [p] root = .ok (Path.ofString "/p/l/..") := by decide
  obtain ⟨r, hr, hstands⟩ := resolveRoot_standsFor hd hat hroot
  obtain rfl := Except.ok.inj (hr.symm.trans hresolve)
  have hrelative : root.isAbsolute = false := by decide
  refine ⟨hd, hat, hroot, hresolve, ?_, ?_⟩
  swap
  · refine Disk.Barred.inspect_eq ?_ (by decide) true
    refine (hstands (· != [])).2 hrelative (fun habove => ?_) [q, s] Options.configName (by decide)
      (by decide)
    exact absurd (habove 0 (by decide)) (by decide)
  rw [((hstands .full).1 fun _ _ _ => rfl).config [q, s] (by decide) (by decide)]
  -- the file as it is seen from `/p`, by the spelling of the command line
  have hnames : (root.join Options.configName).names =
      [Path.here, l, Path.here, Path.up] ++ [Options.configName.bytes] := by decide
  have hwalk : d.walk Disk.maxLinks [p] [Path.here, l, Path.here, Path.up] = .ok ([q], 39) := by
    have hlink := @Disk.walk_link d 39 [p] l (by decide) (by decide) (by decide)
      (Path.ofString "../q/s") (by decide) [Path.here, Path.up]
    have htarget : (Path.ofString "../q/s").names ++ [Path.here, Path.up] =
        [Path.up, q, s, Path.here, Path.up] := by decide
    rw [Disk.walk_here, show Disk.maxLinks = 39 + 1 from rfl, hlink, htarget, Disk.walk_up,
      Disk.walk_directory (by decide) (by decide) (by decide) (by decide),
      Disk.walk_directory (by decide) (by decide) (by decide) (by decide), Disk.walk_here,
      Disk.walk_up, Disk.walk_nil]
    rfl
  have hfollow : d.follow true false Disk.maxLinks [p] (root.join Options.configName) =
      .ok (.entry [q, Options.configName.bytes] (.file [0x6B] false)) := by
    rw [Disk.follow_of_walk (by decide) hnames hwalk]
    rfl
  rw [Disk.readFile, Disk.inspect_of_follow (by decide) hfollow]
  rfl

/-- Two ways in which an absolute form goes astray. A process in `/c/w` may not search `/c`. It finds its
file by the root `.`, which is `/c/w` in absolute form, and by that it does not. And the directory `/c/w`
is removed while a process stands in it. The root `..` still leads it to `/c`, and the absolute form
`/c/w/..` leads nowhere. -/
theorem resolveRoot_strays :
    let c := Utf8.ofString "c"
    let w := Utf8.ofString "w"
    let d : Disk := ⟨[([c], .directory), ([c, w], .directory),
      ([c, w, Options.configName.bytes], .file [0x6B] false)], []⟩
    let may : Disk.Access := (· != [c])
    let gone := d.erase [c, w]
    let here := (Station.enter d [c, w]).here gone
    (resolveRoot d [c, w] (Path.ofString ".") = .ok (Path.ofString "/c/w") ∧
      d.readFile [c, w] ((Path.ofString ".").join Options.configName) may = .ok [0x6B] ∧
      d.readFile [c, w] ((Path.ofString "/c/w").join Options.configName) may =
        .error (.system .access)) ∧
    resolveRoot d [c, w] (Path.ofString "..") = .ok (Path.ofString "/c/w/..") ∧
      gone.enter here (Path.ofString "..") = .ok [c] ∧
      gone.enter here (Path.ofString "/c/w/..") = .error (.system .noEntry) := by
  intro c w d may gone here
  have hd : d.IsTree := by decide
  have hgone : gone.IsTree := by decide
  have hresolve : resolveRoot d [c, w] (Path.ofString ".") = .ok (Path.ofString "/c/w") := by decide
  refine ⟨⟨hresolve, ?_, ?_⟩, by decide, ?_, ?_⟩
  · have hnames : ((Path.ofString ".").join Options.configName).names =
        [Path.here] ++ [Options.configName.bytes] := by decide
    have hwalk : d.walk Disk.maxLinks [c, w] [Path.here] may = .ok ([c, w], Disk.maxLinks) := by
      rw [Disk.walk_here, Disk.walk]
      rfl
    have hfollow : d.follow true false Disk.maxLinks [c, w]
        ((Path.ofString ".").join Options.configName) may =
          .ok (.entry [c, w, Options.configName.bytes] (.file [0x6B] false)) := by
      rw [Disk.follow_of_walk (by decide) hnames hwalk]
      rfl
    rw [Disk.readFile, Disk.inspect_of_follow (by decide) hfollow]
    rfl
  · -- `/c` is one of the directories above `/c/w`
    have hclosed : ¬ may.Above (Disk.start [c, w] (Path.ofString ".")) :=
      fun habove => absurd (habove 1 (by decide)) (by decide)
    have hbarred : d.Barred may [c, w] ((Path.ofString "/c/w").join Options.configName) :=
      barred_resolveRoot hd hresolve hclosed (by decide) (by decide) [c, w]
    rw [Disk.readFile, hbarred.inspect_eq (by decide)]
    rfl
  · refine hgone.enter_eq_ok_iff.mpr ⟨by decide, by decide, Disk.maxLinks, ?_⟩
    have hnames : (Path.ofString "..").names = [Path.up] := by decide
    rw [hnames, Disk.walk_up, Disk.walk_nil]
    rfl
  · have hnames : (Path.ofString "/c/w/..").names = [c, w, Path.up] := by decide
    rw [hgone.enter_eq here (by decide), hnames, Disk.walk_directory (by decide) (by decide)
      (by decide) (by decide), Disk.walk_missing (by decide) (by decide) (by decide) (by decide)]
    rfl

end FreshBuild
