/-
# FreshBuild.Proofs.Disk.Footprint — which locations a path is looked up through.

A look-up asks a disk about one location after another: each name on the way, each name of the target
of a link met there, and the last name. `Visits` is that footprint as a relation, built step for step
like the walk. Two disks that agree on it lead the path to the same end (`follow_congr`), so whatever
is read through the path is the same on both (`readFile_congr`).

A footprint belongs to one disk. What another disk holds outside of it, and whether it holds anything
there, cannot be noticed through the path.
-/
import FreshBuild.Proofs.Disk.Operations

namespace FreshBuild.Disk

/-- A name that a walk looks for in the directory it is in. -/
structure IsSought (name : Name) : Prop where
  ne_here : name ≠ Path.here
  ne_up : name ≠ Path.up
  short : ¬ maxName < name.length

instance (name : Name) : Decidable (IsSought name) :=
  decidable_of_iff (name ≠ Path.here ∧ name ≠ Path.up ∧ ¬ maxName < name.length)
    ⟨fun ⟨hhere, hup, hshort⟩ => ⟨hhere, hup, hshort⟩, fun h => ⟨h.ne_here, h.ne_up, h.short⟩⟩

/-! ## Footprints -/

/-- The locations that a walk asks about. -/
inductive WalkVisits (d : Disk) : Nat → Location → List Name → Location → Prop where
  | sought {links : Nat} {at_ : Location} {name : Name} {rest : List Name}
      (hname : IsSought name) : WalkVisits d links at_ (name :: rest) (at_ ++ [name])
  | here {links : Nat} {at_ m : Location} {rest : List Name}
      (h : WalkVisits d links at_ rest m) : WalkVisits d links at_ (Path.here :: rest) m
  | up {links : Nat} {at_ m : Location} {rest : List Name}
      (h : WalkVisits d links at_.dropLast rest m) : WalkVisits d links at_ (Path.up :: rest) m
  | directory {links : Nat} {at_ m : Location} {name : Name} {rest : List Name}
      (hname : IsSought name) (hget : d.get? (at_ ++ [name]) = some .directory)
      (h : WalkVisits d links (at_ ++ [name]) rest m) : WalkVisits d links at_ (name :: rest) m
  | link {links : Nat} {at_ m : Location} {name : Name} {rest : List Name} {target : Path}
      (hname : IsSought name) (hget : d.get? (at_ ++ [name]) = some (.link target))
      (h : WalkVisits d links (start at_ target) (target.names ++ rest) m) :
      WalkVisits d (links + 1) at_ (name :: rest) m

/-- The locations that a look-up asks about which follows a link at the end of its path: those on the
way, the last one, and those of the link there. -/
inductive Visits (d : Disk) : Nat → Location → Path → Location → Prop where
  | way {links : Nat} {at_ m : Location} {p : Path} {front : List Name} {last : Name}
      (hnames : p.names = front ++ [last]) (h : WalkVisits d links (start at_ p) front m) :
      Visits d links at_ p m
  | last {links left : Nat} {at_ dir : Location} {p : Path} {front : List Name} {last : Name}
      (hnames : p.names = front ++ [last])
      (hwalk : d.walk links (start at_ p) front = .ok (dir, left)) (hlast : IsSought last) :
      Visits d links at_ p (dir ++ [last])
  | link {links left : Nat} {at_ dir m : Location} {p target : Path} {front : List Name}
      {last : Name} (hnames : p.names = front ++ [last])
      (hwalk : d.walk links (start at_ p) front = .ok (dir, left + 1)) (hlast : IsSought last)
      (hget : d.get? (dir ++ [last]) = some (.link target)) (h : Visits d left dir target m) :
      Visits d links at_ p m

/-! ## Disks that agree on a footprint -/

variable {d d' : Disk}

/-- **A walk depends on its footprint only.** -/
theorem walk_congr {links : Nat} {at_ : Location} {names : List Name}
    (h : ∀ m, d.WalkVisits links at_ names m → d'.get? m = d.get? m) :
    d'.walk links at_ names = d.walk links at_ names := by
  fun_induction walk d links at_ names with
  | case1 _ _ hrefused => cases hrefused
  | case2 => rw [walk_nil]
  | case3 _ _ _ _ hrefused => cases hrefused
  | case4 links at_ rest _ ih => rw [walk_here, ih fun m hm => h m (.here hm)]
  | case5 links at_ rest _ _ ih => rw [walk_up, ih fun m hm => h m (.up hm)]
  | case6 links at_ name rest _ hhere hup hlong => rw [walk_tooLong hhere hup hlong]
  | case7 links at_ name rest _ hhere hup hshort hnone =>
      have hsame := h _ (.sought ⟨hhere, hup, hshort⟩)
      rw [walk_missing hhere hup hshort (hsame.trans hnone)]
  | case8 links at_ name rest _ hhere hup hshort hdir ih =>
      have hsame := h _ (.sought ⟨hhere, hup, hshort⟩)
      rw [walk_directory hhere hup hshort (hsame.trans hdir)]
      exact ih fun m hm => h m (.directory ⟨hhere, hup, hshort⟩ hdir hm)
  | case9 at_ name rest _ hhere hup hshort target hlink =>
      have hsame := h _ (.sought ⟨hhere, hup, hshort⟩)
      rw [walk_loop hhere hup hshort (hsame.trans hlink)]
  | case10 at_ name rest _ hhere hup hshort target hlink links ih =>
      have hsame := h _ (.sought ⟨hhere, hup, hshort⟩)
      rw [walk_link hhere hup hshort (hsame.trans hlink)]
      exact ih fun m hm => h m (.link ⟨hhere, hup, hshort⟩ hlink hm)
  | case11 links at_ name rest _ hhere hup hshort e hnotdir hnotlink hother =>
      have hsame := h _ (.sought ⟨hhere, hup, hshort⟩)
      rw [walk_other hhere hup hshort (hsame.trans hother) hnotdir hnotlink]

/-- **A look-up depends on its footprint only.** -/
theorem follow_congr {asDirectory : Bool} {links : Nat} {at_ : Location} {p : Path}
    (h : ∀ m, d.Visits links at_ p m → d'.get? m = d.get? m) :
    d'.follow true asDirectory links at_ p = d.follow true asDirectory links at_ p := by
  -- a link at the end is looked up with fewer links to spare
  induction links using Nat.strongRecOn generalizing asDirectory at_ p with
  | _ links ih =>
      by_cases hne : p.bytes = []
      · rw [follow_empty hne, follow_empty hne]
      rcases List.eq_nil_or_concat p.names with hnames | ⟨front, last, hnames⟩
      · rw [follow_of_no_names hne hnames, follow_of_no_names hne hnames]
      rw [List.concat_eq_append] at hnames
      have hway : d'.walk links (start at_ p) front = d.walk links (start at_ p) front :=
        walk_congr fun m hm => h m (.way hnames hm)
      cases hw : d.walk links (start at_ p) front with
      | error errno =>
          rw [follow_of_walk_error hne hnames (hway.trans hw), follow_of_walk_error hne hnames hw]
      | ok r =>
          obtain ⟨dir, left⟩ := r
          rw [follow_of_walk hne hnames (hway.trans hw), follow_of_walk hne hnames hw]
          by_cases hhere : last = Path.here
          · rw [if_pos hhere, if_pos hhere]
          by_cases hup : last = Path.up
          · rw [if_neg hhere, if_pos hup, if_neg hhere, if_pos hup]
          by_cases hlong : maxName < last.length
          · simp only [hhere, hup, hlong, if_true, if_false]
          simp only [hhere, hup, hlong, if_false, Bool.true_or, if_true]
          rw [h _ (.last hnames hw ⟨hhere, hup, hlong⟩)]
          have hleft : left ≤ links := walk_links_le hw
          cases hget : d.get? (dir ++ [last]) with
          | none => rfl
          | some e =>
              cases e with
              | link target =>
                  cases left with
                  | zero => rfl
                  | succ left =>
                      exact ih left (by omega) fun m hm =>
                        h m (.link hnames hw ⟨hhere, hup, hlong⟩ hget hm)
              | directory | file _ _ | program _ | null => rfl

/-- **What is read through a path** depends on the footprint of the path only. -/
theorem readFile_congr {at_ : Location} {p : Path}
    (h : ∀ m, d.Visits maxLinks at_ p m → d'.get? m = d.get? m) :
    d'.readFile at_ p = d.readFile at_ p := by
  rw [readFile, readFile, inspect, inspect, follow_congr h]

end FreshBuild.Disk
