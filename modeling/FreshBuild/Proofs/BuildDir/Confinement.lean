/-
# FreshBuild.Proofs.BuildDir.Confinement — what a reset leaves alone.

A reset destroys, so the question that matters most is what it cannot reach. The answer has to hold
for every path and for every outcome, also for a reset that fails halfway.

* `Targets` is all that may change: the directory which the path is seen to lead to, and what lies
  below it. Where that is, is settled when the path is inspected and never again.
* A cleaning is a sweep of that region (`CleanStep.sweep`): single entries go, each under its own
  location. A link in the region goes as a link and what is behind it stays.
* After a cleaning that succeeds the path leads to nothing (`CleanStep.gone`), also where it was the
  removal that found nothing.
* A reset adds one entry to this, and only where nothing stood (`reset_made`).

`clean_reset_confined` puts the promises of both together.
-/
import FreshBuild.Proofs.BuildDir.Reset
import FreshBuild.Proofs.BuildDir.Spelling
import FreshBuild.Proofs.Disk.Sweep

namespace FreshBuild

namespace Disk

/-- The location is the directory that the path is seen to lead to, or lies below it. -/
def Targets (d : Disk) (at_ : Location) (p : Path) (m : Location) : Prop :=
  ∃ l, d.inspect false at_ p = .ok (l, .directory) ∧ l <+: m

/-- There is something at the path that is no directory, or it cannot be told what is there. -/
def ShowsObstacle (d : Disk) (at_ : Location) (p : Path) : Prop :=
  (∃ cause, d.inspect false at_ p = .error cause ∧ cause ≠ .system .noEntry) ∨
    ∃ l e, d.inspect false at_ p = .ok (l, e) ∧ e ≠ .directory

/-! ## Paths that lead to nothing -/

variable {d : Disk} {at_ : Location} {p : Path}

/-- A path whose last name cannot be reached cannot be looked at either. -/
theorem inspect_of_parent_error {errno : Errno} (hp : accept p = .ok ())
    (h : d.parent at_ p = .error errno) (through : Bool) :
    d.inspect through at_ p = .error (.system errno) := by
  refine inspect_of_follow hp (r := .error errno) ?_
  by_cases hne : p.bytes = []
  · rw [parent, if_pos hne] at h
    rw [follow_empty hne, Except.error.inj h]
  rcases List.eq_nil_or_concat p.names with hnames | ⟨front, last, hnames⟩
  · simp [parent, hne, hnames] at h
  · rw [List.concat_eq_append] at hnames
    rw [parent_eq hnames] at h
    cases hw : d.walk maxLinks (start at_ p) front with
    | ok r => simp [hw, Except.map] at h
    | error errno' =>
        rw [hw] at h
        obtain rfl := Except.error.inj h
        exact follow_of_walk_error hne hnames hw

/-- Where a removal finds nothing, there is nothing to be seen. -/
theorem inspect_of_removeDir_absent (hp : accept p = .ok ())
    (h : d.removeDir at_ p = .error (.system .noEntry)) (through : Bool) :
    d.inspect through at_ p = .error (.system .noEntry) := by
  cases hparent : d.parent at_ p with
  | error errno =>
      rw [removeDir_of_parent_error hp hparent] at h
      rw [inspect_of_parent_error hp hparent, Except.error.inj h]
  | ok r =>
      obtain ⟨dir, last⟩ := r
      cases last with
      | root | here | up =>
          -- these cannot be removed, but not for want of an entry
          rw [removeDir, request_eq hp, hparent] at h
          cases h
      | name name =>
          have hends := endsIn_iff.mpr ⟨hp, hparent⟩
          by_cases hshort : name.length ≤ maxName
          · rw [hends.removeDir_eq hshort] at h
            cases hget : d.get? (dir ++ [name]) with
            | none => exact hends.inspect_vacant hshort hget through
            | some e =>
                cases e with
                | file _ _ | link _ | program _ | null =>
                    rw [hget] at h
                    cases h
                | directory =>
                    simp only [hget] at h
                    split at h <;> cases h
          · rw [removeDir, request_eq hp, hparent] at h
            simp only [bind, Except.bind, Nat.not_le.mp hshort, if_true] at h
            cases h

/-- A path that ended in an entry which is gone now leads to nothing. -/
theorem EndsIn.inspect_erased {dir : Location} {name : Name} (h : d.EndsIn at_ p dir name)
    (hshort : name.length ≤ maxName) (through : Bool) :
    (d.erase (dir ++ [name])).inspect through at_ p = .error (.system .noEntry) := by
  rcases h.restricted (erase_within d (dir ++ [name])) with hends | hparent
  · refine hends.inspect_vacant hshort ?_ through
    rw [get?_erase d (by simp), if_pos (List.prefix_refl _)]
  · exact inspect_of_parent_error h.accepted hparent through

theorem eq_noEntry_of_isAbsence {cause : Cause} (h : cause.isAbsence = true) :
    cause = .system .noEntry := by
  simpa [Cause.isAbsence] using h

end Disk

namespace BuildDir

open Disk

variable {d d' : Disk} {at_ : Location} {p : Path}

namespace CleanStep

variable {r : Except Fault Unit} {l : Location}

/-- What is removed in the end is the very directory that was seen in the beginning. -/
theorem removed_eq (seen : d.inspect false at_ p = .ok (l, .directory))
    (hremoved : (d.clear l).removeDir at_ p = .ok d') :
    l ≠ [] ∧ d.get? l = some .directory ∧ d' = (d.clear l).erase l := by
  obtain ⟨dir, name, hends, hshort, hget, -, rfl⟩ := removeDir_eq_ok hremoved
  have hstood : d.get? (dir ++ [name]) = some .directory := clear_within d l _ _ hget
  have hbefore := (hends.mono (clear_within d l)).inspect_directory hshort hstood false
  obtain ⟨rfl, -⟩ := Prod.mk.inj (Except.ok.inj (seen.symm.trans hbefore))
  exact ⟨by simp, hstood, rfl⟩

/-- **Cleaning is a sweep** of the directory that the path is seen to lead to. -/
theorem sweep (hd : d.IsTree) (h : CleanStep d at_ p d' r)
    (seen : d.inspect false at_ p = .ok (l, .directory)) : Sweep l d d' := by
  have hcleared := sweep_clear hd l
  cases h with
  | absent seen' => simp [seen] at seen'
  | unseen seen' => simp [seen] at seen'
  | occupied seen' hother =>
      obtain ⟨-, rfl⟩ := Prod.mk.inj (Except.ok.inj (seen.symm.trans seen'))
      exact absurd rfl hother
  | vanished seen' | kept seen' =>
      obtain ⟨rfl, -⟩ := Prod.mk.inj (Except.ok.inj (seen.symm.trans seen'))
      exact hcleared
  | removed seen' hremoved =>
      obtain ⟨rfl, -⟩ := Prod.mk.inj (Except.ok.inj (seen.symm.trans seen'))
      obtain ⟨hl, hget, rfl⟩ := removed_eq seen hremoved
      exact hcleared.trans (.step (List.prefix_refl l) (takes_erase_clear hl hget) (.refl l _))

/-- What a cleaning has nothing to do with stays. -/
theorem get?_outside (hd : d.IsTree) (h : CleanStep d at_ p d' r) {m : Location}
    (hm : ¬ d.Targets at_ p m) : d'.get? m = d.get? m := by
  cases h with
  | absent | unseen | occupied => rfl
  | vanished seen | kept seen =>
      exact (sweep_clear hd _).get?_outside fun hp => hm ⟨_, seen, hp⟩
  | removed seen hremoved =>
      have hstep : CleanStep d at_ p d' (.ok ()) := .removed seen hremoved
      exact (hstep.sweep hd seen).get?_outside fun hp => hm ⟨_, seen, hp⟩

/-- **After a cleaning that succeeds there is nothing at the path**, whichever of its three ways it
went. -/
theorem gone (h : CleanStep d at_ p d' (.ok ())) :
    d'.inspect false at_ p = .error (.system .noEntry) := by
  cases h with
  | absent seen habsent =>
      rw [seen, eq_noEntry_of_isAbsence habsent]
  | removed seen hremoved =>
      obtain ⟨dir, name, hends, hshort, -, -, rfl⟩ := removeDir_eq_ok hremoved
      exact hends.inspect_erased hshort false
  | vanished seen hremoved habsent =>
      rw [eq_noEntry_of_isAbsence habsent] at hremoved
      exact inspect_of_removeDir_absent (inspect_eq_ok_iff.mp seen).1 hremoved false

end CleanStep

/-! ## The one new entry -/

/-- What a reset makes, it makes where nothing stood once the path was cleaned, and the path leads
there afterwards. -/
theorem reset_made (hd : d.IsTree) (h : reset d at_ p = (d', .ok ())) :
    ∃ c dir name, clean d at_ p = (c, .ok ()) ∧ c.EndsIn at_ p dir name ∧
      name.length ≤ maxName ∧ c.get? (dir ++ [name]) = none ∧
        (∀ m, d'.get? m = if m = dir ++ [name] then some .directory else c.get? m) ∧
          d'.inspect false at_ p = .ok (dir ++ [name], .directory) := by
  obtain ⟨c, hclean, hmake⟩ := reset_eq_ok_iff.mp h
  obtain ⟨dir, name, hends, hshort, hfree, -, rfl⟩ := make_eq_ok_iff.mp hmake
  have hc : c.IsTree := (clean_step hclean).isTree hd
  have hne : dir ++ [name] ≠ [] := by simp
  refine ⟨c, dir, name, hclean, hends, hshort, hfree, fun m => ?_, ?_⟩
  · rw [get?_put c hne, get?_erase c hne]
    -- nothing stands below a free location either
    have hbelow : dir ++ [name] <+: m → c.get? m = none := fun hp => by
      by_contra hsome
      obtain ⟨e, he⟩ := Option.ne_none_iff_exists'.mp hsome
      exact hc.not_prefix_of_vacant hfree he hp
    by_cases hp : dir ++ [name] <+: m
    · rw [if_pos hp, hbelow hp]
    · rw [if_neg hp]
  · refine (hends.mono (hc.within_put hne hfree .directory)).inspect_directory hshort ?_ false
    rw [get?_put c hne, if_pos rfl]

/-- Under a directory that was seen, the new entry stands where the directory stood or below it. -/
theorem targets_of_free {c : Disk} {dir : Location} {name : Name} {l : Location}
    (hd : d.IsTree) (hclean : clean d at_ p = (c, .ok ())) (hends : c.EndsIn at_ p dir name)
    (hshort : name.length ≤ maxName) (hfree : c.get? (dir ++ [name]) = none)
    (seen : d.inspect false at_ p = .ok (l, .directory)) : l <+: dir ++ [name] := by
  have hstep := clean_step hclean
  by_contra hout
  have hbefore : d.get? (dir ++ [name]) = none := by
    rw [← (hstep.sweep hd seen).get?_outside hout, hfree]
  have hnothing := (hends.mono hstep.within).inspect_vacant hshort hbefore false
  rw [seen] at hnothing
  cases hnothing

/-! ## Confinement -/

/-- What an operation on the path `p` may do to the disk `d`. It leaves the disk `d'` and answers `r`,
and `isNew` says which location it has filled anew. -/
structure Confined (d : Disk) (at_ : Location) (p : Path) (d' : Disk) (r : Except Fault Unit)
    (isNew : Location → Prop) : Prop where
  /-- What the path does not target stays. -/
  untouched : ∀ m, ¬ d.Targets at_ p m → ¬ isNew m → d'.get? m = d.get? m
  /-- What the path targets is taken away entry by entry. -/
  swept : ∀ l, d.inspect false at_ p = .ok (l, .directory) →
    ∃ c, Sweep l d c ∧ ∀ m, ¬ isNew m → d'.get? m = c.get? m
  /-- Behind a link in the targeted tree, wherever it leads, all outside that tree stays. -/
  links : ∀ l m target t e, d.inspect false at_ p = .ok (l, .directory) → l <+: m →
    d.get? m = some (.link target) →
      d.follow true false maxLinks m.dropLast target = .ok (.entry t e) →
        ∀ n, t <+: n → ¬ l <+: n → d'.get? n = d.get? n
  /-- A path that cannot be inspected, or where no directory stands, is left alone. -/
  refused : d.ShowsObstacle at_ p → d' = d ∧ ∃ fault, r = .error fault

/-- A cleaning that finds no directory, but does find out what is there, fails and does nothing. -/
theorem clean_refused (h : d.ShowsObstacle at_ p) : ∃ fault, clean d at_ p = (d, .error fault) := by
  rcases h with ⟨cause, seen, hother⟩ | ⟨l, e, seen, hother⟩
  · have hpresent : cause.isAbsence = false := by simpa [Cause.isAbsence] using hother
    exact ⟨_, by rw [clean_eq, seen]; simp only [hpresent]; rfl⟩
  · cases e with
    | directory => exact absurd rfl hother
    | file _ _ | link _ | program _ | null => exact ⟨_, by rw [clean_eq, seen]⟩

theorem clean_confined (hd : d.IsTree) (at_ : Location) (p : Path) :
    Confined d at_ p (clean d at_ p).1 (clean d at_ p).2 fun _ => False := by
  have hstep : CleanStep d at_ p (clean d at_ p).1 (clean d at_ p).2 := clean_step rfl
  exact
    { untouched := fun m hm _ => hstep.get?_outside hd hm
      swept := fun l seen => ⟨_, hstep.sweep hd seen, fun _ _ => rfl⟩
      links := fun l _ _ _ _ seen _ _ _ n _ hn => (hstep.sweep hd seen).get?_outside hn
      refused := by
        intro h
        obtain ⟨fault, hclean⟩ := clean_refused h
        rw [hclean]
        exact ⟨rfl, fault, rfl⟩ }

theorem reset_confined (hd : d.IsTree) (at_ : Location) (p : Path) :
    Confined d at_ p (reset d at_ p).1 (reset d at_ p).2 fun m =>
      (reset d at_ p).2 = .ok () ∧ (reset d at_ p).1.inspect false at_ p = .ok (m, .directory) := by
  have hclean := clean_confined hd at_ p
  have hrefused : d.ShowsObstacle at_ p →
      (reset d at_ p).1 = d ∧ ∃ fault, (reset d at_ p).2 = .error fault := by
    intro h
    obtain ⟨fault, hclean⟩ := clean_refused h
    rw [reset_of_clean_error hclean]
    exact ⟨rfl, fault, rfl⟩
  cases hreset : reset d at_ p with
  | mk d' r =>
      rw [hreset] at hrefused
      cases r with
      | error fault =>
          -- what a failed reset leaves is what its cleaning has left
          have hsame : d' = (clean d at_ p).1 := by
            rcases reset_eq_error hreset with h | ⟨cause, h, -, -⟩ <;> rw [h]
          subst hsame
          exact
            { untouched := fun m hm _ => hclean.untouched m hm id
              swept := fun l seen => (hclean.swept l seen).imp fun c hc =>
                ⟨hc.1, fun m _ => hc.2 m id⟩
              links := hclean.links
              refused := hrefused }
      | ok u =>
          obtain ⟨c, dir, name, hc, hends, hshort, hfree, hmade, hseen⟩ := reset_made hd hreset
          have hold : ∀ m, m ≠ dir ++ [name] → d'.get? m = c.get? m := fun m hm => by
            rw [hmade m, if_neg hm]
          rw [hc] at hclean
          exact
            { untouched := fun m hm hnew =>
                (hold m fun heq => hnew ⟨rfl, heq ▸ hseen⟩).trans (hclean.untouched m hm id)
              swept := fun l seen =>
                ⟨c, (clean_step hc).sweep hd seen, fun m hnew =>
                  hold m fun heq => hnew ⟨rfl, heq ▸ hseen⟩⟩
              links := fun l m target t e seen hm hlink hleads n ht hn => by
                refine (hold n ?_).trans (hclean.links l m target t e seen hm hlink hleads n ht hn)
                rintro rfl
                exact hn (targets_of_free hd hc hends hshort hfree seen)
              refused := hrefused }

/-- **What cleaning and resetting can reach**, on every tree, for every path and whatever they answer.
All that changes lies at or below the directory which the path is seen to lead to, a reset's own new
directory apart, and links are no way out of it. A cleaning that succeeds leaves nothing at the path,
a reset that succeeds an empty directory. An obstacle at the path is left as it is. -/
theorem clean_reset_confined (hd : d.IsTree) (at_ : Location) (p : Path) :
    (Confined d at_ p (clean d at_ p).1 (clean d at_ p).2 fun _ => False) ∧
      ((clean d at_ p).2 = .ok () →
        (clean d at_ p).1.inspect false at_ p = .error (.system .noEntry)) ∧
      (Confined d at_ p (reset d at_ p).1 (reset d at_ p).2 fun m =>
        (reset d at_ p).2 = .ok () ∧
          (reset d at_ p).1.inspect false at_ p = .ok (m, .directory)) ∧
      ((reset d at_ p).2 = .ok () → (reset d at_ p).1.ShowsEmpty at_ p) := by
  refine ⟨clean_confined hd at_ p, fun hok => ?_, reset_confined hd at_ p, fun hok => ?_⟩
  · have hclean : clean d at_ p = ((clean d at_ p).1, .ok ()) := Prod.ext rfl hok
    exact (clean_step hclean).gone
  · have hreset : reset d at_ p = ((reset d at_ p).1, .ok ()) := Prod.ext rfl hok
    exact reset_leaves_empty hd hreset

/-- A build directory that holds a link to a directory elsewhere and a link back to the root. The file
elsewhere survives the reset. -/
theorem clean_reset_confined_linked :
    let root := Utf8.ofString "p"
    let build := Utf8.ofString "build"
    let out := Utf8.ofString "out"
    let kept := [Utf8.ofString "e", Utf8.ofString "keep"]
    let d : Disk := ⟨[([root], .directory), ([root, build], .directory),
      ([root, build, Utf8.ofString "back"], .link (Path.ofString "/")),
      ([root, build, out], .link (Path.ofString "/e")),
      ([Utf8.ofString "e"], .directory), (kept, .file [0x6B] false)], []⟩
    let p := Path.ofString "/p/build"
    d.IsTree ∧ d.get? [root, build, out] = some (.link (Path.ofString "/e")) ∧
      (reset d [] p).1.ShowsEmpty [] p ∧ (reset d [] p).1.get? kept = some (.file [0x6B] false) := by
  intro root build out kept d p
  have hd : d.IsTree := by decide
  have hlink : d.get? [root, build, out] = some (.link (Path.ofString "/e")) := by decide
  obtain ⟨-, -, hconfined, hempty⟩ := clean_reset_confined hd [] p
  obtain ⟨d', hreset, -⟩ := @reset_plain d hd [] (Path.ofString "/p") (Path.ofString "build")
    (by decide) (by decide) build (by decide) (by decide) (by decide) (by decide) (by decide)
  have hroot : d.walk maxLinks (start [] (Path.ofString "/p")) (Path.ofString "/p").names =
      .ok ([root], maxLinks) := hd.walk_root (by decide) (by decide)
  have hends : d.EndsIn [] ((Path.ofString "/p").join (Path.ofString "build")) [root] build :=
    .of_join (by decide) hroot (by decide) (by decide) (by decide) (by decide) (by decide)
  have hseen := hends.inspect_directory (by decide) (by decide) false
  have htarget : d.walk maxLinks (start [root, build] (Path.ofString "/e"))
      (Path.ofString "/e").names = .ok ([Utf8.ofString "e"], maxLinks) :=
    hd.walk_root (by decide) (by decide)
  have hleads : d.follow true false maxLinks [root, build] (Path.ofString "/e") =
      .ok (.entry [Utf8.ofString "e"] .directory) :=
    (hd.follow_directory_iff false).mpr ⟨by decide, maxLinks, htarget⟩
  refine ⟨hd, hlink, hempty (congrArg Prod.snd hreset), ?_⟩
  rw [hconfined.links _ _ _ _ _ hseen (by decide) hlink hleads kept (by decide) (by decide)]
  decide

end BuildDir

end FreshBuild
