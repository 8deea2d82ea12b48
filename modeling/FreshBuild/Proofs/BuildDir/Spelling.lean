/-
# FreshBuild.Proofs.BuildDir.Spelling — which spellings of a build directory can be reset.

The validator judges a configured name by its components, and the file system walks its names. The
two agree on `build` and on `build/`; `build/.` has one component and two names, the last of which is
`.`, and an entry of that name can be neither removed nor made.

`reset_configured_iff` draws the line: below a root that is spelled by the names of its location, a
configured name can be reset exactly if no `.` stands behind it. The condition is about the spelling
alone, not about what stands in the root.
-/
import FreshBuild.Config
import FreshBuild.Proofs.BuildDir.Reset

namespace FreshBuild

open FreshBuild.Path (slash)

/-- What the validator has made sure of. -/
theorem Config.components_of_validate {c : Config} (h : c.validate = .ok ()) :
    ∃ name, (Path.ofString c.buildDir).components = [.normal name] := by
  unfold validate at h
  split at h
  · cases h
  · rename_i hsingle
    unfold isSingleName at hsingle
    split at hsingle
    · rename_i name hcomponents
      exact ⟨name, hcomponents⟩
    · simp at hsingle

namespace Disk

/-! ## A name below a root -/

variable {d : Disk} {at_ dir : Location} {root q : Path} {name : Name}

theorem nul_not_mem_of_names {p : Path} (h : ∀ name ∈ p.names, 0 ∉ name) : 0 ∉ p.bytes := by
  rw [Path.nul_mem_bytes_iff]
  rintro ⟨name, hname, hnul⟩
  exact h name hname hnul

theorem accept_join (hroot : 0 ∉ root.bytes) (hq : 0 ∉ q.bytes)
    (hlen : (root.join q).bytes.length < pathLimit) : accept (root.join q) = .ok () := by
  refine accept_eq_ok_iff.mpr ⟨fun hnul => ?_, hlen⟩
  rcases Path.mem_bytes_of_mem_join hnul with h | h | h
  · exact hroot h
  · exact hq h
  · exact absurd h (by decide)

/-- One name behind a root ends in the directory that the root leads to. -/
theorem EndsIn.of_join {left : Nat} (hne : root.bytes ≠ [])
    (hwalk : d.walk maxLinks (start at_ root) root.names = .ok (dir, left))
    (hrel : q.isAbsolute = false) (hnames : q.names = [name]) (hhere : name ≠ Path.here)
    (hup : name ≠ Path.up) (haccept : accept (root.join q) = .ok ()) :
    d.EndsIn at_ (root.join q) dir name where
  accepted := haccept
  ne_here := hhere
  ne_up := hup
  walked := by
    refine ⟨root.names, left, ?_, ?_⟩
    · rw [Path.names_join hrel, hnames]
    · rw [start, Path.isAbsolute_join_relative hne hrel]
      exact hwalk

/-- A root spelled by the names of its location leads there whatever the current directory is. -/
theorem IsTree.walk_root (hd : d.IsTree) (habs : root.isAbsolute = true)
    (hroot : d.hasDirectory root.names = true) :
    d.walk maxLinks (start at_ root) root.names = .ok (root.names, maxLinks) := by
  rw [start, if_pos habs]
  exact hd.walk_location hroot

theorem IsTree.enter_root (hd : d.IsTree) (haccept : accept root = .ok ())
    (habs : root.isAbsolute = true) (hroot : d.hasDirectory root.names = true) (at_ : Location) :
    d.enter at_ root = .ok root.names :=
  hd.enter_eq_ok_iff.mpr
    ⟨haccept, Path.bytes_ne_nil_of_isAbsolute habs, maxLinks, hd.walk_root habs hroot⟩

end Disk

namespace BuildDir

open Disk

/-! ## Resetting a configured name -/

section Configured

variable {d : Disk} (hd : d.IsTree) {at_ : Location} {root q : Path}
  (habs : root.isAbsolute = true) (hroot : d.hasDirectory root.names = true) {name : Name}
  (hq : q.components = [.normal name])
include hd habs hroot hq

/-- A plain spelling can be reset, and the reset leaves an empty directory. -/
theorem reset_plain (haccept : accept (root.join q) = .ok ()) (hshort : name.length ≤ maxName)
    (hnames : q.names = [name])
    (hget : d.get? (root.names ++ [name]) = none ∨
      d.get? (root.names ++ [name]) = some .directory) :
    ∃ d', reset d at_ (root.join q) = (d', .ok ()) ∧
      d'.get? (root.names ++ [name]) = some .directory ∧
        d'.children (root.names ++ [name]) = [] := by
  obtain ⟨hrel, hhere, hup, -⟩ := Path.components_eq_normal_iff.mp hq
  have hne : root.bytes ≠ [] := Path.bytes_ne_nil_of_isAbsolute habs
  have hl : root.names ++ [name] ≠ [] := by simp
  have hends : d.EndsIn at_ (root.join q) root.names name :=
    .of_join hne (hd.walk_root habs hroot) hrel hnames hhere hup haccept
  rcases hget with hget | hget
  · refine ⟨_, reset_vacant hends hshort hroot hget, ?_, children_put d hl _⟩
    rw [get?_put d hl, if_pos rfl]
  · -- the root does not pass through the build directory, so it still leads to itself without it
    have hgone := hasDirectory_erase_below hroot name
    have herased : (d.erase (root.names ++ [name])).EndsIn at_ (root.join q) root.names name :=
      .of_join hne ((hd.erase _).walk_root habs hgone) hrel hnames hhere hup haccept
    refine ⟨_, reset_directory hends hshort hget herased hroot, ?_, children_put _ hl _⟩
    rw [get?_put _ hl, if_pos rfl]

end Configured

/-- The last name of a dotted spelling, whatever it is joined behind, is `.`. -/
theorem names_join_dotted (root : Path) {q : Path} {name : Name} {k : Nat}
    (hrel : q.isAbsolute = false) (hnames : q.names = name :: List.replicate (k + 1) Path.here) :
    (root.join q).names =
      (root.names ++ name :: List.replicate k Path.here) ++ [Path.here] := by
  rw [Path.names_join hrel, hnames, List.replicate_succ', ← List.cons_append, List.append_assoc]

/-- A spelling that has been reset was plain: no entry is called `.`. -/
theorem names_of_reset {d d' : Disk} (hd : d.IsTree) {at_ : Location} {root q : Path}
    {name : Name} (hq : q.components = [.normal name]) (hreset : reset d at_ (root.join q) = (d', .ok ())) :
    q.names = [name] := by
  obtain ⟨hrel, -, -, k, hnames⟩ := Path.components_eq_normal_iff.mp hq
  obtain ⟨dir, last, hends, -⟩ := reset_makes hd hreset
  obtain ⟨front, left, hlast, -⟩ := hends.walked
  cases k with
  | zero => exact hnames
  | succ k =>
      rw [names_join_dotted root hrel hnames] at hlast
      exact absurd (List.append_singleton_inj.mp hlast).2.symm hends.ne_here

section Dotted

variable {d : Disk} (hd : d.IsTree) {at_ : Location} {root q : Path}
  (habs : root.isAbsolute = true) {name : Name} (hq : q.components = [.normal name]) {k : Nat}
  (hnames : q.names = name :: List.replicate (k + 1) Path.here)
include hd habs hq hnames

/-- **A name with `.` behind it is emptied and then not removed**, so the run fails over a directory
that has lost all it held. -/
theorem reset_dotted_directory (haccept : accept (root.join q) = .ok ())
    (hget : d.get? (root.names ++ [name]) = some .directory) :
    reset d at_ (root.join q) = (d.clear (root.names ++ [name]),
      .error (.filesystem "remove" (root.join q) (.system .invalid))) := by
  obtain ⟨hrel, -, -, -⟩ := Path.components_eq_normal_iff.mp hq
  have hsplit := names_join_dotted root hrel hnames
  have hne : (root.join q).bytes ≠ [] := Path.bytes_ne_nil_of_names (by simp [hsplit])
  have habs' : (root.join q).isAbsolute = true := Path.isAbsolute_join habs q
  -- all names but the last `.` lead to the directory, before and after it is emptied
  have hfront : ∀ e : Disk, e.IsTree → e.get? (root.names ++ [name]) = some .directory →
      e.walk maxLinks (start at_ (root.join q)) (root.names ++ name :: List.replicate k Path.here)
        = .ok (root.names ++ [name], maxLinks) := by
    intro e he hget
    rw [start, if_pos habs', ← List.singleton_append, ← List.append_assoc, walk_append,
      he.walk_location (hasDirectory_iff.mpr hget)]
    exact walk_replicate_here e maxLinks _ k
  have hseen : d.inspect false at_ (root.join q) = .ok (root.names ++ [name], .directory) := by
    rw [inspect_of_follow haccept (follow_of_walk hne hsplit (hfront d hd hget)), if_pos rfl]
  have hstill : (d.clear (root.names ++ [name])).get? (root.names ++ [name]) =
      some .directory := by
    rw [get?_clear]
    simp [hget]
  have hparent : (d.clear (root.names ++ [name])).parent at_ (root.join q) =
      .ok (root.names ++ [name], .here) := by
    rw [parent_eq hsplit, hfront _ (hd.clear _) hstill]
    rfl
  refine reset_of_clean_error ?_
  rw [clean_eq, hseen]
  simp only
  rw [removeDir_here haccept hparent]
  rfl

/-- A name with `.` behind it is not made where nothing is. -/
theorem reset_dotted_vacant (hroot : d.hasDirectory root.names = true)
    (haccept : accept (root.join q) = .ok ()) (hshort : name.length ≤ maxName)
    (hget : d.get? (root.names ++ [name]) = none) :
    reset d at_ (root.join q) =
      (d, .error (.filesystem "create" (root.join q) (.system .noEntry))) := by
  obtain ⟨hrel, hhere, hup, -⟩ := Path.components_eq_normal_iff.mp hq
  have hsplit := names_join_dotted root hrel hnames
  have hne : (root.join q).bytes ≠ [] := Path.bytes_ne_nil_of_names (by simp [hsplit])
  have hwalk : d.walk maxLinks (start at_ (root.join q))
      (root.names ++ name :: List.replicate k Path.here) = .error .noEntry := by
    rw [start, if_pos (Path.isAbsolute_join habs q), walk_append, hd.walk_location hroot]
    exact walk_missing hhere hup (Nat.not_lt.mpr hshort) hget _
  have hclean : clean d at_ (root.join q) = (d, .ok ()) := by
    rw [clean_eq, inspect_of_follow haccept (follow_of_walk_error hne hsplit hwalk)]
    rfl
  have hparent : d.parent at_ (root.join q) = .error .noEntry := by
    rw [parent_eq hsplit, hwalk]
    rfl
  rw [reset_of_clean hclean, create_of_make_error (make_of_parent_error haccept hparent)]

end Dotted

/-- **Which configured names can be reset.** Below an existing root that is spelled by the names of
its location, a name that the validator accepts is reset to an empty directory exactly if no `.`
stands behind it and the whole path is short enough, whether the directory was there before or not. -/
theorem reset_configured_iff {d : Disk} (hd : d.IsTree) {at_ : Location} {root : Path}
    (habs : root.isAbsolute = true) (hroot : d.hasDirectory root.names = true) {c : Config}
    (hvalid : c.validate = .ok ()) (hnul : 0 ∉ (Path.ofString c.buildDir).bytes)
    (hlen : (Path.ofString c.buildDir).bytes.length ≤ maxName) :
    ∃ name, (Path.ofString c.buildDir).components = [.normal name] ∧
      (d.get? (root.names ++ [name]) = none ∨
          d.get? (root.names ++ [name]) = some .directory →
        ((∃ d', reset d at_ (root.join (Path.ofString c.buildDir)) = (d', .ok ()) ∧
            d'.get? (root.names ++ [name]) = some .directory ∧
              d'.children (root.names ++ [name]) = []) ↔
          (Path.ofString c.buildDir).names = [name] ∧
            (root.join (Path.ofString c.buildDir)).bytes.length < pathLimit)) := by
  obtain ⟨name, hq⟩ := Config.components_of_validate hvalid
  refine ⟨name, hq, fun hget => ⟨?_, ?_⟩⟩
  · rintro ⟨d', hreset, -, -⟩
    obtain ⟨dir, last, hends, -⟩ := reset_makes hd hreset
    exact ⟨names_of_reset hd hq hreset, (accept_eq_ok_iff.mp hends.accepted).2⟩
  · rintro ⟨hnames, hpath⟩
    have hproper : ∀ n ∈ root.names, 0 ∉ n := fun n hn =>
      (hd.proper_of_get? (hasDirectory_iff.mp hroot) hn).no_nul
    have haccept := accept_join (nul_not_mem_of_names hproper) hnul hpath
    have hshort : name.length ≤ maxName :=
      Nat.le_trans (Path.length_le_of_mem_names (by simp [hnames])) hlen
    exact reset_plain hd habs hroot hq haccept hshort hnames hget

/-- The standard name below a root that holds it, with a file in it. -/
theorem reset_configured_standard :
    let build := Utf8.ofString "build"
    let d : Disk := ⟨[([build], .directory), ([build, Utf8.ofString "a.o"], .file [] false)], []⟩
    ∃ d', reset d [] (Path.join ⟨[slash]⟩ (Path.ofString Config.standard.buildDir)) =
        (d', .ok ()) ∧
      d'.get? [build] = some .directory ∧ d'.children [build] = [] := by
  intro build d
  obtain ⟨name, hq, h⟩ := @reset_configured_iff d (by decide) [] ⟨[slash]⟩ (by decide) (by decide)
    Config.standard (by decide) (by decide) (by decide)
  obtain rfl : build = name := by
    have hbuild : (Path.ofString Config.standard.buildDir).components = [.normal build] := by decide
    simpa using hbuild.symm.trans hq
  exact (h (by decide)).mpr (by decide)

/-- An accepted name that cannot be reset. Where the directory is there, the file is lost and the run
fails. Where it is not, it is not made, either. -/
theorem reset_configured_dotted :
    let c : Config := { Config.standard with buildDir := "build/." }
    let build := Utf8.ofString "build"
    let d : Disk := ⟨[([build], .directory), ([build, Utf8.ofString "a.o"], .file [] false)], []⟩
    let bare : Disk := ⟨[], []⟩
    let path := Path.join ⟨[slash]⟩ (Path.ofString c.buildDir)
    c.validate = .ok () ∧ d.IsTree ∧ d.get? [build] = some .directory ∧
      reset d [] path =
        (d.clear [build], .error (.filesystem "remove" path (.system .invalid))) ∧
      bare.IsTree ∧
      reset bare [] path = (bare, .error (.filesystem "create" path (.system .noEntry))) := by
  intro c build d bare path
  have hd : d.IsTree := by decide
  have hbare : bare.IsTree := by decide
  refine ⟨by decide, hd, by decide, ?_, hbare, ?_⟩
  · exact @reset_dotted_directory d hd [] ⟨[slash]⟩ _ (by decide) build (by decide) 0 (by decide)
      (by decide) (by decide)
  · exact @reset_dotted_vacant bare hbare [] ⟨[slash]⟩ _ (by decide) build (by decide) 0 (by decide)
      (by decide) (by decide) (by decide) (by decide)

end BuildDir

end FreshBuild
