/-
# FreshBuild.Proofs.BuildDir.Child — the directory a run removes is a child of its root.

Joining paths is dangerous on its own: an absolute second path throws the first one away, and `..` in
it climbs back out. Neither can happen to a root and a configured name. An absolute root keeps its
components when a relative path is put behind it (`Path.components_join`), and a name that passed the
validator adds exactly one normal component, however many slashes and dots its spelling has.

The root itself may be spelled in any way, with `..` and repeated slashes. The statement is about
components, so it says nothing of links on the way; that is the business of the file system's laws.
-/
import FreshBuild.Proofs.BuildDir.Spelling
import FreshBuild.Run

namespace FreshBuild

open FreshBuild.Path (slash)

namespace Path

/-- The components of an absolute path: the root, and then its names without the `.` among them. -/
theorem components_of_isAbsolute {p : Path} (habs : p.isAbsolute = true) :
    p.components = .root :: (p.names.filter (· ≠ here)).map Component.ofName := by
  unfold components
  rw [if_pos habs]

/-- **A relative path adds its names to the components of an absolute one**, and takes none away. -/
theorem components_join {p q : Path} (habs : p.isAbsolute = true) (hrel : q.isAbsolute = false) :
    (p.join q).components =
      p.components ++ (q.names.filter (· ≠ here)).map Component.ofName := by
  rw [components_of_isAbsolute (isAbsolute_join habs q), components_of_isAbsolute habs,
    names_join hrel, List.filter_append, List.map_append, List.cons_append]

/-- One normal component stays one behind an absolute path. -/
theorem components_join_normal {p q : Path} {name : Name} (habs : p.isAbsolute = true)
    (hq : q.components = [.normal name]) :
    (p.join q).components = p.components ++ [.normal name] := by
  obtain ⟨hrel, hhere, hup, k, hnames⟩ := components_eq_normal_iff.mp hq
  -- the dots behind the name are no components, and the name is neither `.` nor `..`
  have hkept : q.names.filter (· ≠ here) = [name] := by
    have hdots : (List.replicate k here).filter (· ≠ here) = [] := by
      rw [List.filter_eq_nil_iff]
      intro dot hdot
      simp [List.eq_of_mem_replicate hdot]
    rw [hnames, List.filter_cons_of_pos (by simpa using hhere), hdots]
  have hname : Component.ofName name = .normal name := by
    unfold Component.ofName
    rw [if_neg hup]
  rw [components_join habs hrel, hkept, List.map_singleton, hname]

end Path

/-- Making a root absolute does so. -/
theorem isAbsolute_of_resolveRoot {d : Disk} {at_ : Location} {root p : Path}
    (h : resolveRoot d at_ root = .ok p) : p.isAbsolute = true := by
  unfold resolveRoot at h
  split at h
  · cases h
  · rename_i absolute habsolute
    split at h
    · obtain rfl := Except.ok.inj h
      exact (Path.names_of_absolute? (Location.isAbsolute_path at_) habsolute).1
    · cases h

/-- `p` is the entry `name` of the directory `root`, as far as the components of paths can say so:
it is not the root, no ancestor of it and not deeper, and it does not leave the root. -/
structure Path.IsChild (p root : Path) (name : Name) : Prop where
  components_eq : p.components = root.components ++ [.normal name]
  /-- The name is one that an entry can have. -/
  proper : name ≠ [] ∧ slash ∉ name ∧ name ≠ Path.here ∧ name ≠ Path.up
  not_above : ¬ p.components <+: root.components

/-- The name behind an absolute root, as its one normal component. -/
theorem Path.isChild_join {root q : Path} {name : Name} (habs : root.isAbsolute = true)
    (hq : q.components = [.normal name]) : (root.join q).IsChild root name := by
  obtain ⟨-, hhere, hup, k, hnames⟩ := components_eq_normal_iff.mp hq
  have hmem : name ∈ q.names := by
    rw [hnames]
    exact List.mem_cons_self
  obtain ⟨hne, hslash⟩ := ne_nil_and_no_slash_of_mem_names hmem
  have hcomponents := components_join_normal habs hq
  refine ⟨hcomponents, ⟨hne, hslash, hhere, hup⟩, fun habove => ?_⟩
  have hlen := habove.length_le
  rw [hcomponents, List.length_append, List.length_singleton] at hlen
  omega

/-- **The build directory is a child of the root**, for every root that can be made absolute and
every configuration that passes validation. The configured name is the child's name, up to slashes
and dots behind it; it is not absolute, and no `..` is in it. -/
theorem Plan.buildDir_child {d : Disk} {at_ : Location} {root p : Path} {c : Config}
    (hroot : resolveRoot d at_ root = .ok p) (hvalid : c.validate = .ok ()) (threads : Nat) :
    ∃ name, (Path.ofString c.buildDir).components = [.normal name] ∧
      (Plan.make threads p c).buildDir.IsChild p name ∧
      (Path.ofString c.buildDir).isAbsolute = false ∧
      Path.up ∉ (Path.ofString c.buildDir).names := by
  obtain ⟨name, hq⟩ := Config.components_of_validate hvalid
  obtain ⟨hrel, -, hup, k, hnames⟩ := Path.components_eq_normal_iff.mp hq
  refine ⟨name, hq, Path.isChild_join (isAbsolute_of_resolveRoot hroot) hq, hrel, ?_⟩
  intro hmem
  rw [hnames] at hmem
  rcases List.mem_cons.mp hmem with heq | hdots
  · exact hup heq.symm
  · exact absurd (List.eq_of_mem_replicate hdots) (by decide)

/-- A root with two slashes in front, a `..` and a slash behind, and a name with a dot behind it. -/
theorem Plan.buildDir_child_dotted :
    let d : Disk := ⟨[], []⟩
    let c : Config := { Config.standard with buildDir := "out/." }
    let p := Path.ofString "//a/../b/"
    resolveRoot d [] (Path.ofString "//a/./..//b//") = .ok p ∧ c.validate = .ok () ∧
      (Plan.make 4 p c).buildDir.IsChild p (Utf8.ofString "out") := by
  intro d c p
  have hroot : resolveRoot d [] (Path.ofString "//a/./..//b//") = .ok p := by decide
  have hvalid : c.validate = .ok () := by decide
  obtain ⟨name, hname, hchild, -⟩ := Plan.buildDir_child hroot hvalid 4
  have hout : (Path.ofString c.buildDir).components = [.normal (Utf8.ofString "out")] := by decide
  obtain rfl : name = Utf8.ofString "out" := by simpa using hname.symm.trans hout
  exact ⟨hroot, hvalid, hchild⟩

end FreshBuild
