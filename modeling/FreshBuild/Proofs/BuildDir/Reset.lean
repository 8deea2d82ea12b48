/-
# FreshBuild.Proofs.BuildDir.Reset — what a reset leaves behind.

Cleaning takes one of six steps, told apart by what is seen at the path and by what becomes of the
removal (`CleanStep`). What every step preserves, every reset preserves: it takes entries away and
puts one directory there, it keeps trees trees, and its failures are failures of the file system.

A reset that succeeds has made the directory itself, for it went through `make`, and that only ever
fills a free name. So the postcondition needs no case analysis over what stood there before
(`reset_leaves_empty`), and it is what a run relies on when it starts the first tool.

For a path that ends in a name the outcome is a function of what stands under that name
(`reset_vacant`, `reset_directory`, `reset_occupied`). One condition of `reset_directory` is not about
the target at all: the path has to lead to its parent even with the target gone. `reset_lost` says
what happens to a path that passes through its own target.
-/
import FreshBuild.BuildDir
import FreshBuild.Proofs.Disk.Operations

namespace FreshBuild

namespace Disk

/-- At the end of the path stands a directory, not a link to one, and it shows no names. -/
def ShowsEmpty (d : Disk) (at_ : Location) (p : Path) : Prop :=
  ∃ l, d.inspect false at_ p = .ok (l, .directory) ∧ d.children l = []

end Disk

namespace BuildDir

open Disk

variable {d d' : Disk} {at_ : Location} {p : Path}

/-! ## One cleaning -/

/-- What a cleaning of `p` can make of the disk `d`, and its answer. -/
inductive CleanStep (d : Disk) (at_ : Location) (p : Path) : Disk → Except Fault Unit → Prop where
  /-- Nothing is there. -/
  | absent {cause : Cause} (seen : d.inspect false at_ p = .error cause)
      (habsent : cause.isAbsence = true) : CleanStep d at_ p d (.ok ())
  /-- The path cannot be looked at. -/
  | unseen {cause : Cause} (seen : d.inspect false at_ p = .error cause)
      (hpresent : cause.isAbsence = false) :
      CleanStep d at_ p d (.error (.filesystem "inspect" p cause))
  /-- Something that is no directory is there. -/
  | occupied {l : Location} {e : Entry} (seen : d.inspect false at_ p = .ok (l, e))
      (hother : e ≠ .directory) : CleanStep d at_ p d (.error (.notADirectory p))
  | removed {l : Location} {d' : Disk} (seen : d.inspect false at_ p = .ok (l, .directory))
      (hremoved : (d.clear l).removeDir at_ p = .ok d') : CleanStep d at_ p d' (.ok ())
  /-- The directory was emptied, and then the path led nowhere. -/
  | vanished {l : Location} {cause : Cause} (seen : d.inspect false at_ p = .ok (l, .directory))
      (hremoved : (d.clear l).removeDir at_ p = .error cause)
      (habsent : cause.isAbsence = true) : CleanStep d at_ p (d.clear l) (.ok ())
  /-- The directory was emptied and is still there. -/
  | kept {l : Location} {cause : Cause} (seen : d.inspect false at_ p = .ok (l, .directory))
      (hremoved : (d.clear l).removeDir at_ p = .error cause)
      (hpresent : cause.isAbsence = false) :
      CleanStep d at_ p (d.clear l) (.error (.filesystem "remove" p cause))

/-- Cleaning by what is seen at the path. -/
theorem clean_eq (d : Disk) (at_ : Location) (p : Path) :
    clean d at_ p = match d.inspect false at_ p with
      | .error cause =>
        (d, if cause.isAbsence then .ok () else .error (.filesystem "inspect" p cause))
      | .ok (l, .directory) =>
        match (d.clear l).removeDir at_ p with
        | .ok removed => (removed, .ok ())
        | .error cause =>
          (d.clear l, if cause.isAbsence then .ok () else .error (.filesystem "remove" p cause))
      | .ok (_, _) => (d, .error (.notADirectory p)) := by
  unfold clean removeTree
  cases d.inspect false at_ p with
  | error cause => rfl
  | ok r =>
      obtain ⟨l, e⟩ := r
      cases e with
      | directory =>
          simp only [Entry.isDirectory, Bool.not_true, Bool.false_eq_true, if_false]
          cases (d.clear l).removeDir at_ p with
          | ok removed => rfl
          | error cause => cases habsent : cause.isAbsence <;> simp [habsent]
      | file _ _ | link _ | program _ | null => rfl

theorem clean_step {r : Except Fault Unit} (h : clean d at_ p = (d', r)) :
    CleanStep d at_ p d' r := by
  rw [clean_eq] at h
  cases seen : d.inspect false at_ p with
  | error cause =>
      simp only [seen, Prod.mk.injEq] at h
      obtain ⟨rfl, rfl⟩ := h
      cases habsent : cause.isAbsence with
      | true => exact .absent seen habsent
      | false => exact .unseen seen habsent
  | ok s =>
      obtain ⟨l, e⟩ := s
      cases e with
      | directory =>
          cases hremoved : (d.clear l).removeDir at_ p with
          | ok removed =>
              simp only [seen, hremoved, Prod.mk.injEq] at h
              obtain ⟨rfl, rfl⟩ := h
              exact .removed seen hremoved
          | error cause =>
              simp only [seen, hremoved, Prod.mk.injEq] at h
              obtain ⟨rfl, rfl⟩ := h
              cases habsent : cause.isAbsence with
              | true => exact .vanished seen hremoved habsent
              | false => exact .kept seen hremoved habsent
      | file _ _ | link _ | program _ | null =>
          simp only [seen, Prod.mk.injEq] at h
          obtain ⟨rfl, rfl⟩ := h
          exact .occupied seen Entry.noConfusion

namespace CleanStep

variable {r : Except Fault Unit}

/-- Cleaning only takes entries away. -/
theorem within (h : CleanStep d at_ p d' r) : Within d' d := by
  cases h with
  | absent | unseen | occupied => exact Within.refl d
  | vanished | kept => exact clear_within d _
  | removed seen hremoved =>
      obtain ⟨dir, name, -, -, -, -, rfl⟩ := removeDir_eq_ok hremoved
      exact (erase_within _ _).trans (clear_within d _)

theorem isTree (hd : d.IsTree) (h : CleanStep d at_ p d' r) : d'.IsTree := by
  cases h with
  | absent | unseen | occupied => exact hd
  | vanished | kept => exact hd.clear _
  | removed seen hremoved =>
      obtain ⟨dir, name, -, -, -, -, rfl⟩ := removeDir_eq_ok hremoved
      exact (hd.clear _).erase _

theorem isFilesystem {fault : Fault} (h : CleanStep d at_ p d' (.error fault)) :
    fault.isFilesystem = true := by
  cases h <;> rfl

/-- Cleaning leaves nothing below what was seen to be a directory. -/
theorem get?_below (h : CleanStep d at_ p d' r) {l m : Location}
    (seen : d.inspect false at_ p = .ok (l, .directory)) (hbelow : l <+: m) (hne : m ≠ l) :
    d'.get? m = none := by
  have hcleared : (d.clear l).get? m = none := by
    rw [get?_clear, if_pos ⟨hbelow, hne⟩]
  cases h with
  | absent seen' => simp [seen] at seen'
  | unseen seen' => simp [seen] at seen'
  | occupied seen' hother =>
      obtain ⟨rfl, rfl⟩ := Prod.mk.inj (Except.ok.inj (seen.symm.trans seen'))
      exact absurd rfl hother
  | removed seen' hremoved =>
      obtain ⟨rfl, -⟩ := Prod.mk.inj (Except.ok.inj (seen.symm.trans seen'))
      obtain ⟨dir, name, -, -, -, -, rfl⟩ := removeDir_eq_ok hremoved
      rw [get?_erase _ (by simp), hcleared, ite_self]
  | vanished seen' | kept seen' =>
      obtain ⟨rfl, -⟩ := Prod.mk.inj (Except.ok.inj (seen.symm.trans seen'))
      exact hcleared

theorem seen_of_refused {q : Path} (h : CleanStep d at_ p d' (.error (.notADirectory q))) :
    ∃ l e, d.inspect false at_ p = .ok (l, e) ∧ e ≠ .directory := by
  cases h with
  | occupied seen hother => exact ⟨_, _, seen, hother⟩

end CleanStep

/-! ## A whole reset -/

/-- A reset that succeeds is a cleaning and then the making of one directory. -/
theorem reset_eq_ok_iff :
    reset d at_ p = (d', .ok ()) ↔
      ∃ c, clean d at_ p = (c, .ok ()) ∧ c.makeDir at_ p = .ok d' := by
  unfold reset create
  obtain ⟨c, r⟩ := clean d at_ p
  cases r with
  | error fault => simp
  | ok u =>
      simp only [Prod.mk.injEq, and_true, exists_eq_left']
      cases c.makeDir at_ p <;> simp

theorem reset_of_clean {c : Disk} (h : clean d at_ p = (c, .ok ())) :
    reset d at_ p = create c at_ p := by
  unfold reset
  rw [h]

theorem reset_of_clean_error {c : Disk} {fault : Fault} (h : clean d at_ p = (c, .error fault)) :
    reset d at_ p = (c, .error fault) := by
  unfold reset
  rw [h]

theorem create_of_make (h : d.makeDir at_ p = .ok d') : create d at_ p = (d', .ok ()) := by
  unfold create
  rw [h]

theorem create_of_make_error {cause : Cause} (h : d.makeDir at_ p = .error cause) :
    create d at_ p = (d, .error (.filesystem "create" p cause)) := by
  unfold create
  rw [h]

/-- A failed reset either failed to clean or failed to make the directory. -/
theorem reset_eq_error {fault : Fault} (h : reset d at_ p = (d', .error fault)) :
    clean d at_ p = (d', .error fault) ∨
      ∃ cause, clean d at_ p = (d', .ok ()) ∧ d'.makeDir at_ p = .error cause ∧
        fault = .filesystem "create" p cause := by
  cases hclean : clean d at_ p with
  | mk c r =>
      cases r with
      | error fault' =>
          rw [reset_of_clean_error hclean] at h
          exact Or.inl h
      | ok u =>
          rw [reset_of_clean hclean] at h
          cases hmake : c.makeDir at_ p with
          | ok made =>
              rw [create_of_make hmake] at h
              cases (Prod.mk.inj h).2
          | error cause =>
              rw [create_of_make_error hmake] at h
              obtain ⟨rfl, hfault⟩ := Prod.mk.inj h
              exact Or.inr ⟨cause, rfl, hmake, (Except.error.inj hfault).symm⟩

/-- A failed reset has failed in the file system. -/
theorem reset_error_isFilesystem {fault : Fault} (h : reset d at_ p = (d', .error fault)) :
    fault.isFilesystem = true := by
  rcases reset_eq_error h with h | ⟨cause, -, -, rfl⟩
  · exact (clean_step h).isFilesystem
  · rfl

/-- What is refused as no directory is what was seen to be none, and it is left alone. -/
theorem reset_refuses_iff :
    reset d at_ p = (d, .error (.notADirectory p)) ↔
      ∃ l e, d.inspect false at_ p = .ok (l, e) ∧ e ≠ .directory := by
  constructor
  · intro h
    rcases reset_eq_error h with hclean | ⟨cause, -, -, hfault⟩
    · exact (clean_step hclean).seen_of_refused
    · cases hfault
  · rintro ⟨l, e, seen, hother⟩
    refine reset_of_clean_error ?_
    rw [clean_eq, seen]
    cases e with
    | directory => exact absurd rfl hother
    | file _ _ | link _ | program _ | null => rfl

/-- **Nothing but directories survives below what was seen to be a directory**, whatever the path says
about where that directory is. -/
theorem reset_spares_no_file {l m : Location} {e : Entry}
    (seen : d.inspect false at_ p = .ok (l, .directory)) (hbelow : l <+: m) (hne : m ≠ l)
    (hget : (reset d at_ p).1.get? m = some e) : e = .directory := by
  have hcleared : ∀ c r, clean d at_ p = (c, r) → c.get? m = none := fun c r hclean =>
    (clean_step hclean).get?_below seen hbelow hne
  cases hreset : reset d at_ p with
  | mk d' r =>
      rw [hreset] at hget
      cases r with
      | error fault =>
          rcases reset_eq_error hreset with h | ⟨cause, h, -, -⟩
          · simp [hcleared _ _ h] at hget
          · simp [hcleared _ _ h] at hget
      | ok u =>
          obtain ⟨c, hclean, hmake⟩ := reset_eq_ok_iff.mp hreset
          obtain ⟨dir, name, -, -, -, -, rfl⟩ := make_eq_ok_iff.mp hmake
          rw [get?_put c (by simp)] at hget
          split at hget
          · exact (Option.some.inj hget).symm
          · have hstill := erase_within c (dir ++ [name]) m e hget
            simp [hcleared c _ hclean] at hstill

/-- **Resetting keeps trees trees**, whether it succeeds or not. -/
theorem reset_isTree (hd : d.IsTree) (at_ : Location) (p : Path) : (reset d at_ p).1.IsTree := by
  cases hreset : reset d at_ p with
  | mk d' r =>
      cases r with
      | error fault =>
          rcases reset_eq_error hreset with h | ⟨cause, h, -, -⟩
          · exact (clean_step h).isTree hd
          · exact (clean_step h).isTree hd
      | ok u =>
          obtain ⟨c, hclean, hmake⟩ := reset_eq_ok_iff.mp hreset
          obtain ⟨dir, name, hends, hshort, -, hdir, rfl⟩ := make_eq_ok_iff.mp hmake
          exact ((clean_step hclean).isTree hd).put hdir (hends.proper hshort) Entry.noConfusion

/-- What a successful reset has made: an empty directory, where the path ended before the reset and
where it ends after it. -/
theorem reset_makes (hd : d.IsTree) (h : reset d at_ p = (d', .ok ())) :
    ∃ dir name, d.EndsIn at_ p dir name ∧ d'.EndsIn at_ p dir name ∧ name.length ≤ maxName ∧
      d'.get? (dir ++ [name]) = some .directory ∧ d'.children (dir ++ [name]) = [] := by
  obtain ⟨c, hclean, hmake⟩ := reset_eq_ok_iff.mp h
  obtain ⟨dir, name, hends, hshort, hfree, -, rfl⟩ := make_eq_ok_iff.mp hmake
  have hc : c.IsTree := (clean_step hclean).isTree hd
  have hne : dir ++ [name] ≠ [] := by simp
  refine ⟨dir, name, hends.mono (clean_step hclean).within, ?_, hshort, ?_, children_put c hne _⟩
  · -- making the directory moves nothing, so the path still ends where it was made
    exact hends.mono (hc.within_put hne hfree .directory)
  · rw [get?_put c hne, if_pos rfl]

/-- **A reset that succeeds leaves an empty directory at the path.** -/
theorem reset_leaves_empty (hd : d.IsTree) (h : reset d at_ p = (d', .ok ())) :
    d'.ShowsEmpty at_ p := by
  obtain ⟨dir, name, -, hends, hshort, hget, hempty⟩ := reset_makes hd h
  exact ⟨dir ++ [name], hends.inspect_directory hshort hget false, hempty⟩

/-- After a reset the path can be entered, and leads where it led before. -/
theorem enter_of_reset (hd : d.IsTree) {dir : Location} {name : Name}
    (hends : d.EndsIn at_ p dir name) (h : reset d at_ p = (d', .ok ())) :
    d'.enter at_ p = .ok (dir ++ [name]) := by
  obtain ⟨dir', name', hbefore, hafter, hshort, hget, -⟩ := reset_makes hd h
  obtain ⟨rfl, rfl⟩ := hends.unique hbefore
  exact enter_eq_ok_iff_inspect.mpr (hafter.inspect_directory hshort hget true)

/-- A path that the machine does not take is not reset. -/
theorem reset_of_accept_error {cause : Cause} (h : accept p = .error cause) :
    reset d at_ p = (d, .error (.filesystem "inspect" p cause)) := by
  refine reset_of_clean_error ?_
  have hpresent : cause.isAbsence = false := by
    unfold accept at h
    split at h
    · obtain rfl := Except.error.inj h
      rfl
    · split at h
      · obtain rfl := Except.error.inj h
        rfl
      · cases h
  rw [clean_eq, inspect, request_refused h]
  simp [hpresent]

/-! ## The outcome, for a path that ends in a name -/

section Outcome

variable {dir : Location} {name : Name} (h : d.EndsIn at_ p dir name)
  (hshort : name.length ≤ maxName)
include h hshort

theorem reset_vacant (hdir : d.hasDirectory dir = true) (hget : d.get? (dir ++ [name]) = none) :
    reset d at_ p = (d.put (dir ++ [name]) .directory, .ok ()) := by
  have hclean : clean d at_ p = (d, .ok ()) := by
    rw [clean_eq, h.inspect_vacant hshort hget]
    rfl
  rw [reset_of_clean hclean]
  exact create_of_make (make_eq_ok_iff.mpr ⟨dir, name, h, hshort, hget, hdir, rfl⟩)

/-- Anything but a directory is left as it was found. -/
theorem reset_occupied {e : Entry} (hslash : p.endsInSlash = false)
    (hget : d.get? (dir ++ [name]) = some e) (hother : e ≠ .directory) :
    reset d at_ p = (d, .error (.notADirectory p)) := by
  refine reset_of_clean_error ?_
  rw [clean_eq, h.inspect_eq hshort hslash, hget]
  cases e with
  | directory => exact absurd rfl hother
  | file _ _ | link _ | program _ | null => rfl

variable (hget : d.get? (dir ++ [name]) = some .directory)
include hget

/-- What cleaning makes of a directory, if the path still leads to it when it has been emptied. -/
theorem clean_directory (hemptied : (d.clear (dir ++ [name])).EndsIn at_ p dir name) :
    clean d at_ p = ((d.clear (dir ++ [name])).erase (dir ++ [name]), .ok ()) := by
  have hstill : (d.clear (dir ++ [name])).get? (dir ++ [name]) = some .directory := by
    rw [get?_clear]
    simp [hget]
  rw [clean_eq, h.inspect_directory hshort hget]
  simp only
  rw [hemptied.removeDir_eq hshort, hstill]
  simp [children_clear]

/-- **Resetting a directory.** If the path leads to the directory's parent even without the directory,
all below the directory is gone afterwards and nothing else is. -/
theorem reset_directory (herased : (d.erase (dir ++ [name])).EndsIn at_ p dir name)
    (hdir : d.hasDirectory dir = true) :
    reset d at_ p =
      (((d.clear (dir ++ [name])).erase (dir ++ [name])).put (dir ++ [name]) .directory,
        .ok ()) := by
  have hne : dir ++ [name] ≠ [] := by simp
  have hclean := clean_directory h hshort hget (herased.mono (erase_within_clear d hne))
  rw [reset_of_clean hclean]
  refine create_of_make (make_eq_ok_iff.mpr ⟨dir, name, ?_, hshort, ?_, ?_, rfl⟩)
  · exact herased.mono fun l e hl => by rw [get?_erase_clear d hne, hl]
  · rw [get?_erase_clear d hne, get?_erase d hne, if_pos (List.prefix_refl _)]
  · rw [hasDirectory_iff, get?_erase_clear d hne]
    exact hasDirectory_iff.mp (hasDirectory_erase_below hdir name)

omit hshort hget in
/-- **The outcome of a reset**, for a path that still leads to its parent when its target is gone. It
is decided by what stands under the name; the path itself is only in the wording of the fault. -/
theorem reset_eq (hslash : p.endsInSlash = false) (hdir : d.hasDirectory dir = true)
    (herased : d.get? (dir ++ [name]) = some .directory →
      (d.erase (dir ++ [name])).EndsIn at_ p dir name) :
    reset d at_ p =
      if maxName < name.length then (d, .error (.filesystem "inspect" p (.system .nameTooLong)))
      else match d.get? (dir ++ [name]) with
        | none => (d.put (dir ++ [name]) .directory, .ok ())
        | some .directory =>
          (((d.clear (dir ++ [name])).erase (dir ++ [name])).put (dir ++ [name]) .directory,
            .ok ())
        | some _ => (d, .error (.notADirectory p)) := by
  split
  · rename_i hlong
    refine reset_of_clean_error ?_
    rw [clean_eq, h.inspect_tooLong hlong]
    rfl
  · rename_i hlong
    have hshort := Nat.not_lt.mp hlong
    cases hget : d.get? (dir ++ [name]) with
    | none => exact reset_vacant h hshort hdir hget
    | some e =>
        cases e with
        | directory => exact reset_directory h hshort hget (herased hget) hdir
        | file _ _ | link _ | program _ | null =>
            exact reset_occupied h hshort hslash hget Entry.noConfusion

/-- **A path that passes through its own target is lost.** The directory is emptied and possibly
removed, and then the path leads nowhere, so it cannot be made again. -/
theorem reset_lost (herased : ¬ (d.erase (dir ++ [name])).EndsIn at_ p dir name) :
    (reset d at_ p).2 = .error (.filesystem "create" p (.system .noEntry)) := by
  have hne : dir ++ [name] ≠ [] := by simp
  rcases h.restricted (clear_within d (dir ++ [name])) with hemptied | hnowhere
  · -- emptied and removed: then the path is lost with the directory itself
    rw [reset_of_clean (clean_directory h hshort hget hemptied)]
    have hlost : ((d.clear (dir ++ [name])).erase (dir ++ [name])).parent at_ p =
        .error .noEntry := by
      rcases hemptied.restricted (erase_within _ (dir ++ [name])) with hends | hparent
      · exact absurd (hends.mono fun l e hl => by rwa [get?_erase_clear d hne] at hl) herased
      · exact hparent
    rw [create_of_make_error (make_of_parent_error h.accepted hlost)]
  · -- the path is lost as soon as the directory is empty, and that passes for a removal
    have hclean : clean d at_ p = (d.clear (dir ++ [name]), .ok ()) := by
      rw [clean_eq, h.inspect_directory hshort hget]
      simp only
      rw [removeDir_of_parent_error h.accepted hnowhere]
      rfl
    rw [reset_of_clean hclean, create_of_make_error (make_of_parent_error h.accepted hnowhere)]

end Outcome

end BuildDir

end FreshBuild
