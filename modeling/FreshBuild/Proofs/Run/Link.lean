/-
# FreshBuild.Proofs.Run.Link — a link in the place of the build directory.

A link at the build path is not the program's to follow, and it is not followed where the configured
name is spelled without a slash: the run stops before its first call and the disk is as it was. The
validator lets more spellings through. Behind a slash the machine looks through the link, so what is
seen is the directory behind it, and that is what gets emptied (`reset_through_link`).

`run_refuses_link_iff` is the exact line between the two, for every runner.
-/
import FreshBuild.Proofs.BuildDir.Spelling
import FreshBuild.Proofs.Run.Sequence

namespace FreshBuild

open FreshBuild.Path (slash)

namespace BuildDir

open Disk

/-- A reset refuses a link under a plain spelling, and under no other. -/
theorem reset_refuses_link_iff {d : Disk} (hd : d.IsTree) {at_ dir : Location} {root q : Path}
    (hroot : d.enter at_ root = .ok dir) {name : Name} (hq : q.components = [.normal name])
    {target : Path} (hlink : d.get? (dir ++ [name]) = some (.link target)) :
    reset d at_ (root.join q) = (d, .error (.notADirectory (root.join q))) ↔
      slash ∉ q.bytes ∧ (root.join q).bytes.length < pathLimit := by
  obtain ⟨hrel, hhere, hup, k, hnames⟩ := Path.components_eq_normal_iff.mp hq
  have hask := (Path.asksForDirectory_join root hrel (by simp [hnames])).trans
    (Path.asksForDirectory_iff hq)
  constructor
  · intro hreset
    obtain ⟨l, e, hseen, hother⟩ := reset_refuses_iff.mp hreset
    refine ⟨fun hslash => ?_, (accept_eq_ok_iff.mp (inspect_eq_ok_iff.mp hseen).1).2⟩
    -- behind a slash nothing but a directory is ever seen
    exact hother (inspect_asksForDirectory (hask.mpr hslash) hseen)
  · rintro ⟨hslash, hlen⟩
    obtain ⟨haccept, hne, left, hwalk⟩ := hd.enter_eq_ok_iff.mp hroot
    have hproper : Name.IsProper name := hd.proper_of_get? hlink (by simp)
    have hbytes : q.bytes ≠ [] := Path.bytes_ne_nil_of_names (by simp [hnames])
    have hplain := Path.names_of_component hq hslash
    have hnul : 0 ∉ q.bytes := nul_not_mem_of_names fun n hn => by
      rw [hplain, List.mem_singleton] at hn
      exact hn ▸ hproper.no_nul
    have hends : d.EndsIn at_ (root.join q) dir name :=
      .of_join hne hwalk hrel hplain hhere hup
        (accept_join (accept_eq_ok_iff.mp haccept).1 hnul hlen)
    have hend : (root.join q).endsInSlash = false :=
      Path.endsInSlash_join_name root hbytes hslash
    exact reset_occupied hends hproper.short hend hlink Entry.noConfusion

/-- **Behind a slash the link is followed.** Of all that lies below the directory at its other end
no file is left, and no link. -/
theorem reset_through_link {d : Disk} {at_ : Location} {root q : Path} {name : Name}
    (hq : q.components = [.normal name]) (hslash : slash ∈ q.bytes) {l : Location}
    (htarget : d.enter at_ (root.join q) = .ok l) {m : Location} (hbelow : l <+: m) (hne : m ≠ l)
    {e : Entry} (hget : (reset d at_ (root.join q)).1.get? m = some e) : e = .directory := by
  obtain ⟨hrel, -, -, k, hnames⟩ := Path.components_eq_normal_iff.mp hq
  have hask : (root.join q).AsksForDirectory :=
    (Path.asksForDirectory_join root hrel (by simp [hnames])).mpr
      ((Path.asksForDirectory_iff hq).mpr hslash)
  have hseen : d.inspect false at_ (root.join q) = .ok (l, .directory) := by
    rw [inspect_through hask]
    exact enter_eq_ok_iff_inspect.mp htarget
  exact reset_spares_no_file hseen hbelow hne hget


end BuildDir

/-- **Which links are safe.** With a link in the place of the build directory a run stops before its
first call and leaves the disk as it was, exactly if the configured name is spelled without a slash
and the whole path is short enough. -/
theorem Plan.run_refuses_link_iff {σ : Type} {d : Disk} (hd : d.IsTree) {at_ dir : Location}
    {root : Path} (hroot : d.enter at_ root = .ok dir) {c : Config} (hvalid : c.validate = .ok ())
    (threads : Nat) (runner : Runner σ) (s : σ) :
    ∃ name, (Path.ofString c.buildDir).components = [.normal name] ∧
      ∀ target, d.get? (dir ++ [name]) = some (.link target) →
        (((Plan.make threads root c).execute at_ runner d s).Refuses d
            (root.join (Path.ofString c.buildDir)) ↔
          slash ∉ (Path.ofString c.buildDir).bytes ∧
            (root.join (Path.ofString c.buildDir)).bytes.length < Disk.pathLimit) := by
  obtain ⟨name, hq⟩ := Config.components_of_validate hvalid
  refine ⟨name, hq, fun target hlink => ?_⟩
  rw [← BuildDir.reset_refuses_link_iff hd hroot hq hlink]
  exact Plan.execute_refuses_iff

/-- A link with a plain name, to a directory elsewhere. -/
theorem Plan.run_refuses_link_plain :
    let p := Utf8.ofString "p"
    let build := Utf8.ofString "build"
    let d : Disk := ⟨[([p], .directory), ([p, build], .link (Path.ofString "/e")),
      ([Utf8.ofString "e"], .directory), ([Utf8.ofString "e", p], .file [] false)], []⟩
    ((Plan.make 4 (Path.ofString "/p") Config.standard).execute [] (Recorder.run []) d
      (.ofScript [])).Refuses d (Path.ofString "/p/build") := by
  intro p build d
  have hd : d.IsTree := by decide
  have hroot : d.enter [] (Path.ofString "/p") = .ok [p] :=
    hd.enter_root (by decide) (by decide) (by decide) []
  obtain ⟨name, hq, h⟩ := Plan.run_refuses_link_iff hd hroot (c := Config.standard) (by decide) 4
    (Recorder.run []) (.ofScript [])
  obtain rfl : build = name := by
    have hbuild : (Path.ofString Config.standard.buildDir).components = [.normal build] := by decide
    simpa using hbuild.symm.trans hq
  exact (h (Path.ofString "/e") (by decide)).mpr (by decide)

/-- The same link under an accepted name with a slash: the run does not refuse it, and the file at its
other end is gone before any tool is called. -/
theorem Plan.run_follows_link_slash :
    let p := Utf8.ofString "p"
    let build := Utf8.ofString "build"
    let e := Utf8.ofString "e"
    let d : Disk := ⟨[([p], .directory), ([p, build], .link (Path.ofString "/e")),
      ([e], .directory), ([e, p], .file [] false)], []⟩
    let c : Config := { Config.standard with buildDir := "build/" }
    let root := Path.ofString "/p"
    d.IsTree ∧ c.validate = .ok () ∧ d.enter [] root = .ok [p] ∧
      (Path.ofString c.buildDir).components = [.normal build] ∧
      d.get? [p, build] = some (.link (Path.ofString "/e")) ∧
      ¬ ((Plan.make 4 root c).execute [] (Recorder.run []) d (.ofScript [])).Refuses d
        (root.join (Path.ofString c.buildDir)) ∧
      d.get? [e, p] = some (.file [] false) ∧
      (BuildDir.reset d [] (root.join (Path.ofString c.buildDir))).1.get? [e, p] ≠
        some (.file [] false) := by
  intro p build e d c root
  have hd : d.IsTree := by decide
  have hroot : d.enter [] root = .ok [p] := hd.enter_root (by decide) (by decide) (by decide) []
  have hq : (Path.ofString c.buildDir).components = [.normal build] := by decide
  have hlink : d.get? [p, build] = some (.link (Path.ofString "/e")) := by decide
  have hslash : slash ∈ (Path.ofString c.buildDir).bytes := by decide
  have hwalk : d.walk Disk.maxLinks [] [p, build] = .ok ([e], 39) := by
    rw [Disk.walk_directory (by decide) (by decide) (by decide) (by decide),
      Disk.maxLinks, Disk.walk_link (by decide) (by decide) (by decide) hlink]
    exact hd.walk_location (by decide)
  have htarget : d.enter [] (root.join (Path.ofString c.buildDir)) = .ok [e] := by
    refine hd.enter_eq_ok_iff.mpr ⟨by decide, by decide, 39, ?_⟩
    have hnames : (root.join (Path.ofString c.buildDir)).names = [p, build] := by decide
    rw [Disk.start, if_pos (by decide), hnames]
    exact hwalk
  refine ⟨hd, by decide, hroot, hq, hlink, ?_, by decide, ?_⟩
  · intro hrefuses
    have hreset := (Plan.execute_refuses_iff (p := Plan.make 4 root c)).mp hrefuses
    exact ((BuildDir.reset_refuses_link_iff hd hroot hq hlink).mp hreset).1 hslash
  · intro hget
    have hfile := BuildDir.reset_through_link hq hslash htarget (m := [e, p]) (by decide) (by decide)
      hget
    cases hfile

end FreshBuild
