/-
# FreshBuild.Proofs.BuildDir.Again — resetting what has just been reset.

A second reset need not take the steps of the first: where the first one found nothing, the second has
a directory to remove. What they share is how they end. The first has made the directory by a path
that was walked without it, so removing the directory once more cannot cut the path off, and making it
again is making it on the disk that the first reset had cleaned (`reset_of_makeDir`).

What may differ is where the process stands. A reset can remove the current directory, and a relative
path then starts at a place that is no longer there (`here_of_buries`). A path by which a directory
could still be made leaves that place by `..` before it asks for any name, so it is not lost either
(`makeDir_of_buries`).

`reset_again` is about one more reset and `resets_stay` about any number of them.
-/
import FreshBuild.Proofs.BuildDir.Confinement

namespace FreshBuild

namespace Disk

variable {c d d' d'' : Disk} {dir l : Location} {p : Path} {name : Name}

/-! ## Making and removing again -/

/-- A restriction that keeps every row changes nothing. -/
theorem restrict_eq_self {kept : Location → Bool} (h : ∀ row ∈ d.rows, kept row.1 = true) :
    d.restrict kept = d := by
  obtain ⟨rows, removed⟩ := d
  have hremoved : (Disk.restrict ⟨rows, removed⟩ kept).removed = removed :=
    List.append_left_eq_self.mpr
      (List.filterMap_eq_nil_iff.mpr fun row hrow => by simp [h row hrow])
  exact congrArg₂ Disk.mk (List.filter_eq_self.mpr h) hremoved

namespace IsTree

/-- What was removed before is no part of the tree. -/
theorem of_rows (hd : d.IsTree) (h : d'.rows = d.rows) : d'.IsTree := by
  obtain ⟨rows, removed⟩ := d'
  subst h
  exact ⟨hd.unique, hd.rooted, hd.proper, hd.linked⟩

variable (hd : d.IsTree) (hfree : d.get? l = none)
include hd hfree

theorem not_prefix_of_mem_rows {row : Location × Entry} (hrow : row ∈ d.rows) :
    l.isPrefixOf row.1 = false := by
  obtain ⟨e, he⟩ := exists_get?_of_mem_rows hrow
  rw [← Bool.not_eq_true, List.isPrefixOf_iff_prefix]
  exact hd.not_prefix_of_vacant hfree he

/-- Where nothing stands there is nothing to erase. -/
theorem erase_vacant : d.erase l = d :=
  restrict_eq_self fun row hrow => by simp [hd.not_prefix_of_mem_rows hfree hrow]

/-- An entry at a free location is one more row. -/
theorem put_vacant (e : Entry) : d.put l e = { d with rows := d.rows ++ [(l, e)] } := by
  rw [Disk.put, hd.erase_vacant hfree]

/-- Below a new entry there is nothing to clear. -/
theorem clear_put_vacant (e : Entry) : (d.put l e).clear l = d.put l e := by
  refine restrict_eq_self fun row hrow => ?_
  rw [hd.put_vacant hfree, List.mem_append, List.mem_singleton] at hrow
  rcases hrow with hrow | rfl
  · simp [hd.not_prefix_of_mem_rows hfree hrow]
  · simp

/-- **Removing a directory undoes its making**, but for the memory that it was there. -/
theorem erase_put_vacant :
    (d.put l .directory).erase l = { d with removed := l :: d.removed } := by
  have hrows := congrArg Disk.rows (hd.erase_vacant hfree)
  have hremoved := congrArg Disk.removed (hd.erase_vacant hfree)
  simp only [Disk.erase, Disk.restrict, List.append_left_eq_self] at hrows hremoved
  rw [hd.put_vacant hfree, Disk.erase, Disk.restrict]
  simp only [List.filter_append, List.filterMap_append, hrows, hremoved]
  simp [Entry.isDirectory]

end IsTree

/-- Making a directory takes no notice of what has been removed. -/
theorem IsTree.makeDir_again {at_ : Location} (hc : c.IsTree) (h : c.makeDir at_ p = .ok d)
    (l : Location) :
    makeDir { c with removed := l :: c.removed } at_ p =
      .ok { d with removed := l :: d.removed } := by
  obtain ⟨dir, name, hends, hshort, hfree, hdir, rfl⟩ := make_eq_ok_iff.mp h
  have hsame : Within c { c with removed := l :: c.removed } := fun _ _ h => h
  have hc' : IsTree { c with removed := l :: c.removed } := hc.of_rows rfl
  refine make_eq_ok_iff.mpr ⟨dir, name, hends.mono hsame, hshort, hfree, hdir, ?_⟩
  rw [hc.put_vacant hfree, hc'.put_vacant hfree]

/-! ## Directories that have been removed -/

/-- All that `d` remembers to have been removed, `d'` remembers too, and what it remembers besides is
not there on `d'`. -/
def Buries (d d' : Disk) : Prop :=
  ∃ gone, d'.removed = gone ++ d.removed ∧ ∀ l ∈ gone, d'.get? l = none

theorem Buries.refl (d : Disk) : Buries d d :=
  ⟨[], rfl, fun _ h => absurd h List.not_mem_nil⟩

theorem Buries.trans (h : Buries d d') (h' : Buries d' d'') (hwithin : Within d'' d') :
    Buries d d'' := by
  obtain ⟨gone, hremoved, hnone⟩ := h
  obtain ⟨gone', hremoved', hnone'⟩ := h'
  refine ⟨gone' ++ gone, by rw [hremoved', hremoved, List.append_assoc], fun l hl => ?_⟩
  rcases List.mem_append.mp hl with hl | hl
  · exact hnone' l hl
  · -- what was not there before the second removal is not there after it
    refine Option.eq_none_iff_forall_ne_some.mpr fun e he => ?_
    simpa [hnone l hl] using hwithin l e he

/-- A restriction buries the directories that it does not keep. -/
theorem IsTree.buries_restrict (hd : d.IsTree) (kept : Location → Bool) :
    Buries d (d.restrict kept) := by
  refine ⟨_, rfl, fun l hl => ?_⟩
  obtain ⟨⟨m, e⟩, hrow, hgone⟩ := List.mem_filterMap.mp hl
  simp only [Option.ite_none_right_eq_some, Option.some.injEq, Bool.and_eq_true,
    Bool.not_eq_true'] at hgone
  obtain ⟨⟨-, hkept⟩, rfl⟩ := hgone
  rw [get?_restrict, if_neg]
  simp [(hd.rooted _ hrow).1, hkept]

/-- **Where a process stands after a removal**: where it stood, or in a directory that is gone. -/
theorem here_of_buries (s : Station) (h : Buries d c) :
    s.here c = s.here d ∨ c.get? (s.here d) = none ∧ s.here c = Station.nowhere (s.here d) := by
  obtain ⟨gone, hremoved, hnone⟩ := h
  have hsplit : c.removed.take (c.removed.length - s.since) =
      gone.take (c.removed.length - s.since) ++
        d.removed.take (d.removed.length - s.since) := by
    rw [hremoved, List.take_append, List.length_append]
    congr 2
    omega
  unfold Station.here
  simp only [List.contains_iff_mem, hsplit, List.mem_append]
  by_cases hold : s.at_ ∈ d.removed.take (d.removed.length - s.since)
  · simp [hold]
  · by_cases hnew : s.at_ ∈ gone.take (c.removed.length - s.since)
    · simp [hold, hnew, hnone _ (List.mem_of_mem_take hnew)]
    · simp [hold, hnew]

/-- Out of a directory that is gone there is no way but up. -/
theorem IsTree.walk_of_gone (hd : d.IsTree) (hgone : d.get? l = none)
    (hdir : d.hasDirectory dir = true) {links left : Nat} {names : List Name}
    (h : d.walk links l names = .ok (dir, left)) :
    d.walk links (Station.nowhere l) names = .ok (dir, left) := by
  -- only `.` can be walked before the first `..`, and that leaves the walk where it is
  induction names with
  | nil =>
      rw [walk_nil] at h
      obtain ⟨rfl, -⟩ := Prod.mk.inj (Except.ok.inj h)
      rw [hasDirectory_iff, hgone] at hdir
      cases hdir
  | cons name rest ih =>
      by_cases hhere : name = Path.here
      · rw [hhere, walk_here] at h ⊢
        exact ih h
      by_cases hup : name = Path.up
      · rw [hup, walk_up] at h ⊢
        rw [Station.nowhere, List.dropLast_concat]
        exact h
      by_cases hlong : maxName < name.length
      · rw [walk_tooLong hhere hup hlong] at h
        cases h
      · have hbelow : d.get? (l ++ [name]) = none :=
          Option.eq_none_iff_forall_ne_some.mpr fun e he =>
            hd.not_prefix_of_vacant hgone he (List.prefix_append l [name])
        rw [walk_missing hhere hup hlong hbelow] at h
        cases h

theorem EndsIn.of_gone (hd : d.IsTree) (h : d.EndsIn l p dir name) (hgone : d.get? l = none)
    (hdir : d.hasDirectory dir = true) : d.EndsIn (Station.nowhere l) p dir name where
  accepted := h.accepted
  ne_here := h.ne_here
  ne_up := h.ne_up
  walked := by
    obtain ⟨front, left, hnames, hwalk⟩ := h.walked
    refine ⟨front, left, hnames, ?_⟩
    unfold start at hwalk ⊢
    split at hwalk
    · rename_i habs
      rwa [if_pos habs]
    · rename_i hrel
      rw [if_neg hrel]
      exact hd.walk_of_gone hgone hdir hwalk

/-- **A directory that could be made could also be made from where the process stands then**, even if
its own directory has been removed before. -/
theorem IsTree.makeDir_of_buries (hc : c.IsTree) (hburies : Buries d c) (s : Station)
    (h : c.makeDir (s.here d) p = .ok d') : c.makeDir (s.here d') p = .ok d' := by
  obtain ⟨dir, name, hends, hshort, hfree, hdir, rfl⟩ := make_eq_ok_iff.mp h
  have hstill : s.here (c.put (dir ++ [name]) .directory) = s.here c := by
    rw [hc.put_vacant hfree]
    rfl
  rw [hstill]
  rcases here_of_buries s hburies with hhere | ⟨hgone, hhere⟩
  · rw [hhere, h]
  · rw [hhere]
    exact make_eq_ok_iff.mpr
      ⟨dir, name, hends.of_gone hc hgone hdir, hshort, hfree, hdir, rfl⟩

end Disk

namespace BuildDir

open Disk

variable {c d d' : Disk} {at_ : Location} {p : Path}

/-! ## A reset after a reset -/

theorem CleanStep.buries {r : Except Fault Unit} (hd : d.IsTree) (h : CleanStep d at_ p d' r) :
    Buries d d' := by
  cases h with
  | absent | unseen | occupied => exact .refl d
  | vanished | kept => exact hd.buries_restrict _
  | removed seen hremoved =>
      obtain ⟨dir, name, -, -, -, -, rfl⟩ := removeDir_eq_ok hremoved
      exact (hd.buries_restrict _).trans ((hd.clear _).buries_restrict _) (erase_within _ _)

/-- **Resetting a directory that has just been made** takes back the making and repeats it. All that
is new is the memory of the directory that was there. -/
theorem reset_of_makeDir (hc : c.IsTree) (h : c.makeDir at_ p = .ok d) :
    ∃ l, d.inspect false at_ p = .ok (l, .directory) ∧
      reset d at_ p = ({ d with removed := l :: d.removed }, .ok ()) := by
  obtain ⟨dir, name, hends, hshort, hfree, hdir, rfl⟩ := make_eq_ok_iff.mp h
  have hne : dir ++ [name] ≠ [] := by simp
  have hmade := hends.mono (hc.within_put hne hfree .directory)
  have hget : (c.put (dir ++ [name]) .directory).get? (dir ++ [name]) = some .directory := by
    rw [get?_put c hne, if_pos rfl]
  have hcleared := hc.clear_put_vacant hfree .directory
  have hclean : clean (c.put (dir ++ [name]) .directory) at_ p =
      ({ c with removed := (dir ++ [name]) :: c.removed }, .ok ()) := by
    rw [clean_directory hmade hshort hget (by rwa [hcleared]), hcleared,
      hc.erase_put_vacant hfree]
  refine ⟨dir ++ [name], hmade.inspect_directory hshort hget false, ?_⟩
  rw [reset_of_clean hclean]
  exact create_of_make (hc.makeDir_again h _)

/-- The process at `s` has just made the directory at `p`, and could do so from where it stands now. -/
def JustMade (s : Station) (p : Path) (d : Disk) : Prop :=
  ∃ c : Disk, c.IsTree ∧ c.makeDir (s.here d) p = .ok d

/-- A reset that succeeds ends with making the directory. -/
theorem justMade_of_reset (hd : d.IsTree) {s : Station}
    (h : reset d (s.here d) p = (d', .ok ())) : JustMade s p d' := by
  obtain ⟨c, hclean, hmake⟩ := reset_eq_ok_iff.mp h
  have hstep := clean_step hclean
  have hc := hstep.isTree hd
  exact ⟨c, hc, hc.makeDir_of_buries (hstep.buries hd) s hmake⟩

/-- **A reset that has succeeded succeeds again and changes no entry**, however the path is spelled,
whatever stood there at first and even if the first reset has removed the current directory. The one
trace of the second is that the directory which the first has made is itself remembered as removed. -/
theorem reset_again (hd : d.IsTree) (s : Station)
    (h : reset d (s.here d) p = (d', .ok ())) :
    ∃ d'', reset d' (s.here d') p = (d'', .ok ()) ∧ d''.rows = d'.rows ∧
      ∃ l, d'.inspect false (s.here d') p = .ok (l, .directory) ∧ d''.removed = l :: d'.removed := by
  obtain ⟨c, hc, hmake⟩ := justMade_of_reset hd h
  obtain ⟨l, hseen, hreset⟩ := reset_of_makeDir hc hmake
  exact ⟨_, hreset, rfl, l, hseen, rfl⟩

/-- From a directory below the build directory, by a path that climbs out of it and comes back through
a link. The first reset takes the current directory away, and the second one succeeds all the same. -/
theorem reset_again_inside :
    let root := Utf8.ofString "p"
    let build := Utf8.ofString "build"
    let deep := [root, build, Utf8.ofString "deep"]
    let q := Utf8.ofString "q"
    let d : Disk := ⟨[([root], .directory), ([root, build], .directory), (deep, .directory),
      ([root, build, Utf8.ofString "a.o"], .file [] false), ([q], .link (Path.ofString "/p"))], []⟩
    let s := Station.enter d deep
    let p := Path.ofString "../../../q/./build/"
    ∃ d' d'', reset d (s.here d) p = (d', .ok ()) ∧ s.here d' = Station.nowhere deep ∧
      reset d' (s.here d') p = (d'', .ok ()) ∧ d''.rows = d'.rows := by
  intro root build deep q d s p
  have hd : d.IsTree := by decide
  -- all that the path needs is the link and the directory behind it
  have hends : ∀ e : Disk, e.get? [q] = some (.link (Path.ofString "/p")) →
      e.get? [root] = some .directory → e.EndsIn deep p [root] build := by
    intro e hlink hroot
    refine ⟨by decide, by decide, by decide, [Path.up, Path.up, Path.up, q, Path.here], 39,
      by decide, ?_⟩
    have hback : e.walk (39 + 1) [] [q, Path.here] = .ok ([root], 39) := by
      have hnames : (Path.ofString "/p").names ++ [Path.here] = [root, Path.here] := by decide
      rw [walk_link (by decide) (by decide) (by decide) hlink, hnames, start, if_pos (by decide),
        walk_directory (by decide) (by decide) (by decide) hroot, walk_here, walk_nil]
      rfl
    rw [start, if_neg (by decide), walk_up, walk_up, walk_up]
    exact hback
  have hreset := reset_directory (hends d (by decide) (by decide)) (by decide) (by decide)
    (hends (d.erase ([root] ++ [build])) (by decide) (by decide)) (by decide)
  obtain ⟨d'', hagain, hrows, -⟩ := reset_again hd s hreset
  exact ⟨_, d'', hreset, by decide, hagain, hrows⟩

/-- The disk after `n` resets in a row by the process at `s`, if all of them succeed. -/
def resets (s : Station) (p : Path) : Nat → Disk → Option Disk
  | 0, d => some d
  | n + 1, d =>
    match reset d (s.here d) p with
    | (d', .ok ()) => resets s p n d'
    | (_, .error _) => none

/-- **After one success there is no end of successes**, and the entries stay what they are. -/
theorem resets_stay (hd : d.IsTree) {s : Station} (hmade : JustMade s p d) (n : Nat) :
    ∃ d', resets s p n d = some d' ∧ d'.rows = d.rows := by
  induction n generalizing d with
  | zero => exact ⟨d, rfl, rfl⟩
  | succ n ih =>
      obtain ⟨c, hc, hmake⟩ := hmade
      obtain ⟨l, -, hreset⟩ := reset_of_makeDir hc hmake
      have hd' : IsTree { d with removed := l :: d.removed } := hd.of_rows rfl
      obtain ⟨d', hresets, hrows⟩ := ih hd' (justMade_of_reset hd hreset)
      refine ⟨d', ?_, hrows⟩
      rw [resets, hreset]
      exact hresets

end BuildDir

end FreshBuild
