/-
# FreshBuild.Proofs.Disk.Walk — walks, and what changing a disk does to them.

Everything the file operations know about a path they know from a walk. Four laws carry the rest:

* a walk along two stretches of names is a walk along the first and then along the second
  (`walk_append`);
* a walk that succeeds goes on succeeding when entries are added (`walk_mono`), and when entries are
  taken away it either ends where it ended or finds an entry missing (`walk_restricted`): removal
  never leads a path to another place;
* on a tree a walk that starts in a directory ends in one (`IsTree.walk_hasDirectory`), and the names
  of a directory lead to it (`IsTree.walk_location`);
* looking a path up with links followed is the same as walking all its names, as far as directories
  are concerned (`IsTree.follow_bind_directory`).
-/
import FreshBuild.Disk.Operations
import FreshBuild.Proofs.Disk.Tree
import FreshBuild.Proofs.Path.Names

namespace FreshBuild.Disk

/-! ## One name at a time -/

@[simp]
theorem Access.full_apply (l : Location) : Access.full l = true := rfl

@[simp]
theorem walk_nil (d : Disk) (links : Nat) (at_ : Location) :
    d.walk links at_ [] = .ok (at_, links) := by
  rw [walk]
  rfl

/-- In a directory that may not be searched no walk gets anywhere. -/
theorem walk_refused {d : Disk} {links : Nat} {at_ : Location} {may : Access}
    (h : may at_ = false) (names : List Name) :
    d.walk links at_ names may = .error .access := by
  cases names with
  | nil => rw [walk, h]; rfl
  | cons name rest => rw [walk, h]; rfl

/-- A name `.` is looked up in the directory in which the walk goes on. -/
theorem walk_here (d : Disk) (links : Nat) (at_ : Location) (rest : List Name) {may : Access} :
    d.walk links at_ (Path.here :: rest) may = d.walk links at_ rest may := by
  cases hmay : may at_ with
  | false => rw [walk_refused hmay, walk_refused hmay]
  | true => rw [walk, if_neg (by simp [hmay]), if_pos rfl]

theorem walk_up (d : Disk) (links : Nat) (at_ : Location) (rest : List Name) :
    d.walk links at_ (Path.up :: rest) = d.walk links at_.dropLast rest := by
  rw [walk, if_neg (by simp), if_neg (by decide), if_pos rfl]

section Step

variable {d : Disk} {links : Nat} {at_ : Location} {name : Name}

/-- A step over a name that is too long for any entry. -/
theorem walk_tooLong (hhere : name ≠ Path.here) (hup : name ≠ Path.up)
    (hlong : maxName < name.length) (rest : List Name) :
    d.walk links at_ (name :: rest) = .error .nameTooLong := by
  rw [walk, if_neg (by simp), if_neg hhere, if_neg hup, if_pos hlong]

variable (hhere : name ≠ Path.here) (hup : name ≠ Path.up) (hshort : ¬ maxName < name.length)
include hhere hup hshort

/-- **A step over a name that is looked up**: what stands there decides. -/
theorem walk_cons {may : Access} (hmay : may at_ = true) (rest : List Name) :
    d.walk links at_ (name :: rest) may =
      match d.get? (at_ ++ [name]), links with
      | none, _ => .error .noEntry
      | some .directory, links => d.walk links (at_ ++ [name]) rest may
      | some (.link _), 0 => .error .loop
      | some (.link target), links + 1 =>
        d.walk links (start at_ target) (target.names ++ rest) may
      | some _, _ => .error .notDirectory := by
  rw [walk, if_neg (by simp [hmay]), if_neg hhere, if_neg hup, if_neg hshort]
  cases d.get? (at_ ++ [name]) with
  | none => rfl
  | some e => cases e <;> cases links <;> rfl

theorem walk_missing (h : d.get? (at_ ++ [name]) = none) (rest : List Name) :
    d.walk links at_ (name :: rest) = .error .noEntry := by
  rw [walk_cons hhere hup hshort rfl, h]

theorem walk_directory (h : d.get? (at_ ++ [name]) = some .directory) (rest : List Name) :
    d.walk links at_ (name :: rest) = d.walk links (at_ ++ [name]) rest := by
  rw [walk_cons hhere hup hshort rfl, h]

/-- A step over a link goes on with the names of its target. -/
theorem walk_link {target : Path} (h : d.get? (at_ ++ [name]) = some (.link target))
    (rest : List Name) :
    d.walk (links + 1) at_ (name :: rest) =
      d.walk links (start at_ target) (target.names ++ rest) := by
  rw [walk_cons hhere hup hshort rfl, h]

theorem walk_loop {target : Path} (h : d.get? (at_ ++ [name]) = some (.link target))
    (rest : List Name) : d.walk 0 at_ (name :: rest) = .error .loop := by
  rw [walk_cons hhere hup hshort rfl, h]

/-- A step onto anything but a directory or a link. -/
theorem walk_other {e : Entry} (h : d.get? (at_ ++ [name]) = some e) (hdir : e ≠ .directory)
    (hlink : ∀ target, e ≠ .link target) (rest : List Name) :
    d.walk links at_ (name :: rest) = .error .notDirectory := by
  rw [walk_cons hhere hup hshort rfl, h]
  cases e with
  | directory => exact absurd rfl hdir
  | link target => exact absurd rfl (hlink target)
  | file content executable => rfl
  | program name => rfl
  | null => rfl

end Step

/-- **Walking two stretches in a row.** -/
theorem walk_append (d : Disk) (links : Nat) (at_ : Location) (front back : List Name)
    {may : Access} :
    d.walk links at_ (front ++ back) may =
      match d.walk links at_ front may with
      | .error errno => .error errno
      | .ok (reached, left) => d.walk left reached back may := by
  fun_induction walk d links at_ front may with
  | case1 links at_ hrefused => rw [walk_refused (by simpa using hrefused)]
  | case2 => rfl
  | case3 links at_ name rest hrefused => rw [walk_refused (by simpa using hrefused)]
  | case4 links at_ rest hmay ih => rw [List.cons_append, walk_here, ih]
  | case5 links at_ rest hmay _ ih =>
      rw [List.cons_append, walk, if_neg hmay, if_neg (by decide), if_pos rfl, ih]
  | case6 links at_ name rest hmay hhere hup hlong =>
      rw [List.cons_append, walk, if_neg hmay, if_neg hhere, if_neg hup, if_pos hlong]
  | case7 links at_ name rest hmay hhere hup hshort hnone =>
      rw [List.cons_append, walk_cons hhere hup hshort (by simpa using hmay), hnone]
  | case8 links at_ name rest hmay hhere hup hshort hdir ih =>
      rw [List.cons_append, walk_cons hhere hup hshort (by simpa using hmay), hdir]
      exact ih
  | case9 at_ name rest hmay hhere hup hshort target hlink =>
      rw [List.cons_append, walk_cons hhere hup hshort (by simpa using hmay), hlink]
  | case10 at_ name rest hmay hhere hup hshort target hlink links ih =>
      rw [List.cons_append, walk_cons hhere hup hshort (by simpa using hmay), hlink]
      simp only [← List.append_assoc]
      exact ih
  | case11 links at_ name rest hmay hhere hup hshort e hnotdir hnotlink hother =>
      rw [List.cons_append, walk_cons hhere hup hshort (by simpa using hmay), hother]
      cases e with
      | directory => exact absurd rfl hnotdir
      | link target => exact absurd rfl (hnotlink target)
      | file _ _ | program _ | null => rfl

/-- The names `.` make no difference to a walk. -/
theorem walk_filter_here (d : Disk) (links : Nat) (at_ : Location) (names : List Name)
    {may : Access} :
    d.walk links at_ (names.filter (· ≠ Path.here)) may = d.walk links at_ names may := by
  induction names generalizing links at_ with
  | nil => rfl
  | cons name rest ih =>
      -- the first name is walked alike on both sides, or left out on both
      by_cases hhere : name = Path.here
      · rw [List.filter_cons_of_neg (by simp [hhere]), hhere, walk_here, ih]
      · rw [List.filter_cons_of_pos (by simp [hhere]), ← List.singleton_append, walk_append,
          ← List.singleton_append (l := rest), walk_append d links at_ [name] rest]
        cases d.walk links at_ [name] may with
        | error errno => rfl
        | ok r => exact ih r.2 r.1

theorem walk_replicate_here (d : Disk) (links : Nat) (at_ : Location) (k : Nat) :
    d.walk links at_ (List.replicate k Path.here) = .ok (at_, links) := by
  induction k with
  | zero => exact walk_nil d links at_
  | succ k ih => rw [List.replicate_succ, walk_here, ih]

/-! ## Walks on two disks -/

/-- **A walk survives new entries.** -/
theorem walk_mono {d d' : Disk} (hdd : Within d d') {links : Nat} {at_ : Location}
    {names : List Name} {r : Location × Nat} (h : d.walk links at_ names = .ok r) :
    d'.walk links at_ names = .ok r := by
  fun_induction walk d links at_ names with
  | case1 | case3 => cases h
  | case2 => rw [walk_nil, h]
  | case4 links at_ rest _ ih => rw [walk_here, ih h]
  | case5 links at_ rest _ _ ih => rw [walk_up, ih h]
  | case6 => cases h
  | case7 => cases h
  | case8 links at_ name rest _ hhere hup hshort hdir ih =>
      rw [walk_directory hhere hup hshort (hdd _ _ hdir), ih h]
  | case9 => cases h
  | case10 at_ name rest _ hhere hup hshort target hlink links ih =>
      rw [walk_link hhere hup hshort (hdd _ _ hlink)]
      exact ih h
  | case11 => cases h

/-- **A walk never ends elsewhere after a removal.** It ends where it ended before, or one of the
entries it needs is missing. -/
theorem walk_restricted {d d' : Disk} (hdd : Within d' d) {links : Nat} {at_ : Location}
    {names : List Name} {r : Location × Nat} (h : d.walk links at_ names = .ok r) :
    d'.walk links at_ names = .ok r ∨ d'.walk links at_ names = .error .noEntry := by
  fun_induction walk d links at_ names with
  | case1 | case3 => cases h
  | case2 => exact Or.inl (by rw [walk_nil, h])
  | case4 links at_ rest _ ih => rw [walk_here]; exact ih h
  | case5 links at_ rest _ _ ih => rw [walk_up]; exact ih h
  | case6 => cases h
  | case7 => cases h
  | case8 links at_ name rest _ hhere hup hshort hdir ih =>
      -- the directory stepped into is the same one, or it is gone
      cases hget : d'.get? (at_ ++ [name]) with
      | none => exact Or.inr (walk_missing hhere hup hshort hget rest)
      | some e =>
          obtain rfl : Entry.directory = e := Option.some.inj (hdir.symm.trans (hdd _ _ hget))
          rw [walk_directory hhere hup hshort hget]
          exact ih h
  | case9 => cases h
  | case10 at_ name rest _ hhere hup hshort target hlink links ih =>
      cases hget : d'.get? (at_ ++ [name]) with
      | none => exact Or.inr (walk_missing hhere hup hshort hget rest)
      | some e =>
          obtain rfl : Entry.link target = e := Option.some.inj (hlink.symm.trans (hdd _ _ hget))
          rw [walk_link hhere hup hshort hget]
          exact ih h
  | case11 => cases h

/-! ## Walks on a tree -/

namespace IsTree

variable {d : Disk}

/-- A walk from a directory ends in a directory. -/
theorem walk_hasDirectory (hd : d.IsTree) {links left : Nat} {at_ reached : Location}
    {names : List Name} (hat : d.hasDirectory at_ = true)
    (h : d.walk links at_ names = .ok (reached, left)) : d.hasDirectory reached = true := by
  fun_induction walk d links at_ names with
  | case1 | case3 => cases h
  | case2 =>
      obtain ⟨rfl, -⟩ := Prod.mk.inj (Except.ok.inj h)
      exact hat
  | case4 links at_ rest _ ih => exact ih hat h
  | case5 links at_ rest _ _ ih => exact ih (hd.hasDirectory_dropLast (hasDirectory_iff.mp hat)) h
  | case6 => cases h
  | case7 => cases h
  | case8 links at_ name rest _ _ _ _ hdir ih => exact ih (hasDirectory_iff.mpr hdir) h
  | case9 => cases h
  | case10 at_ name rest _ _ _ _ target hlink links ih =>
      refine ih ?_ h
      split
      · rfl
      · exact hat
  | case11 => cases h

/-- The first of the names of a directory is the name of a directory. -/
theorem get?_first (hd : d.IsTree) {at_ rest : Location} {name : Name}
    (h : d.hasDirectory (at_ ++ name :: rest) = true) :
    Name.IsProper name ∧ d.get? (at_ ++ [name]) = some .directory := by
  have hget := hasDirectory_iff.mp h
  refine ⟨hd.proper_of_get? hget (by simp), ?_⟩
  by_cases hrest : rest = []
  · rwa [hrest] at hget
  · rw [← List.singleton_append, ← List.append_assoc] at hget
    exact hasDirectory_iff.mp
      (hd.hasDirectory_of_prefix hget (List.prefix_append _ _) (by simpa using hrest))

/-- The names of a directory lead to it, and use up no links, if every directory on the way to it may
be searched. -/
theorem walk_below_of_may (hd : d.IsTree) {may : Access} {links : Nat} {at_ names : Location}
    (h : d.hasDirectory (at_ ++ names) = true)
    (hmay : ∀ n < names.length, may (at_ ++ names.take n) = true) (rest : List Name) :
    d.walk links at_ (names ++ rest) may = d.walk links (at_ ++ names) rest may := by
  induction names generalizing at_ with
  | nil => rw [List.nil_append, List.append_nil]
  | cons name names ih =>
      obtain ⟨hname, hstep⟩ := hd.get?_first h
      have hhere : may at_ = true := by simpa using hmay 0 (Nat.succ_pos _)
      rw [List.append_cons] at h ⊢
      rw [List.cons_append, walk_cons hname.ne_here hname.ne_up (Nat.not_lt.mpr hname.short) hhere,
        hstep]
      refine ih h fun n hn => ?_
      rw [← List.append_cons]
      exact hmay (n + 1) (Nat.succ_lt_succ hn)

/-- If one of them may not, the names lead nowhere. -/
theorem walk_below_of_closed (hd : d.IsTree) {may : Access} {links n : Nat} {at_ names : Location}
    (h : d.hasDirectory (at_ ++ names) = true) (hclosed : may (at_ ++ names.take n) = false)
    (rest : List Name) : d.walk links at_ (names ++ rest) may = .error .access := by
  induction names generalizing at_ n with
  | nil =>
      rw [List.take_nil, List.append_nil] at hclosed
      exact walk_refused hclosed rest
  | cons name names ih =>
      cases hhere : may at_ with
      | false => exact walk_refused hhere _
      | true =>
          -- it is not this one, so it is one further on
          cases n with
          | zero =>
              rw [List.take_zero, List.append_nil, hhere] at hclosed
              cases hclosed
          | succ n =>
              obtain ⟨hname, hstep⟩ := hd.get?_first h
              rw [List.take_succ_cons, List.append_cons] at hclosed
              rw [List.append_cons] at h
              rw [List.cons_append,
                walk_cons hname.ne_here hname.ne_up (Nat.not_lt.mpr hname.short) hhere, hstep]
              exact ih h hclosed

theorem walk_below (hd : d.IsTree) {links : Nat} {at_ names : Location}
    (h : d.hasDirectory (at_ ++ names) = true) :
    d.walk links at_ names = .ok (at_ ++ names, links) := by
  have hbelow := @walk_below_of_may d hd .full links at_ names h (fun _ _ => rfl) []
  rwa [List.append_nil, walk_nil] at hbelow

theorem walk_location (hd : d.IsTree) {links : Nat} {l : Location}
    (h : d.hasDirectory l = true) : d.walk links [] l = .ok (l, links) :=
  hd.walk_below h

end IsTree

/-! ## The end of a path -/

section Follow

variable {d : Disk} {through asDirectory : Bool} {links : Nat} {at_ : Location} {p : Path}
  {may : Access}

theorem follow_empty (h : p.bytes = []) :
    d.follow through asDirectory links at_ p may = .error .noEntry := by
  rw [follow, if_pos h]

/-- A path of slashes leads to where it starts. -/
theorem follow_of_no_names (hne : p.bytes ≠ []) (h : p.names = []) :
    d.follow through asDirectory links at_ p may = .ok (.entry (start at_ p) .directory) := by
  have hlast : p.names.getLast? = none := by rw [h, List.getLast?_nil]
  rw [follow, if_neg hne, hlast]

variable {front : List Name} {last : Name} (hne : p.bytes ≠ []) (hnames : p.names = front ++ [last])
include hne hnames

theorem follow_of_walk_error {errno : Errno}
    (hw : d.walk links (start at_ p) front may = .error errno) :
    d.follow through asDirectory links at_ p may = .error errno := by
  have hlast : p.names.getLast? = some last := by rw [hnames, List.getLast?_concat]
  obtain rfl : p.names.dropLast = front := by rw [hnames, List.dropLast_concat]
  rw [follow, if_neg hne, hlast]
  simp only
  split
  · rename_i e heq
    rw [hw] at heq
    rw [Except.error.inj heq]
  · rename_i heq
    rw [hw] at heq
    cases heq

/-- What the last name of a path decides, once the names before it have been walked. -/
theorem follow_of_walk {dir : Location} {left : Nat} :
    d.walk links (start at_ p) front may = .ok (dir, left) →
    d.follow through asDirectory links at_ p may =
      if last = Path.here then .ok (.entry dir .directory)
      else if last = Path.up then .ok (.entry dir.dropLast .directory)
      else if maxName < last.length then .error .nameTooLong
      else match d.get? (dir ++ [last]) with
        | none => .ok (.vacant dir last)
        | some .directory => .ok (.entry (dir ++ [last]) .directory)
        | some (.link target) =>
          if through || p.endsInSlash then
            match left with
            | 0 => .error .loop
            | left' + 1 => d.follow true (asDirectory || p.endsInSlash) left' dir target may
          else .ok (.entry (dir ++ [last]) (.link target))
        | some e =>
          if asDirectory || p.endsInSlash then .error .notDirectory
          else .ok (.entry (dir ++ [last]) e) := by
  intro hw
  have hlast : p.names.getLast? = some last := by rw [hnames, List.getLast?_concat]
  obtain rfl : p.names.dropLast = front := by rw [hnames, List.dropLast_concat]
  rw [follow, if_neg hne, hlast]
  simp only
  split
  · rename_i heq
    rw [hw] at heq
    cases heq
  · rename_i dir' left' heq
    rw [hw] at heq
    obtain ⟨rfl, rfl⟩ := Prod.mk.inj (Except.ok.inj heq)
    cases left <;> rfl

end Follow

/-- An end of a path, for somebody who wants to go on from there. -/
def End.directory (may : Access) : End → Except Errno Location
  | .entry l .directory => if may l then .ok l else .error .access
  | .entry _ _ => .error .notDirectory
  | .vacant _ _ => .error .noEntry

/-- To go on from a directory is to walk on from there along no names. -/
theorem directory_eq_walk_nil (d : Disk) (links : Nat) (l : Location) (may : Access) :
    End.directory may (.entry l .directory) = (d.walk links l [] may).map Prod.fst := by
  rw [walk, End.directory]
  cases may l <;> rfl

theorem follow_bind_eq_ok_iff {r : Except Errno End} {l : Location} :
    (r >>= End.directory .full) = .ok l ↔ r = .ok (.entry l .directory) := by
  cases r with
  | error errno => simp [bind, Except.bind]
  | ok last =>
      cases last with
      | vacant dir name => simp [bind, Except.bind, End.directory]
      | entry m e => cases e <;> simp [bind, Except.bind, End.directory]

/-- **Looking up is walking.** To follow a path, links included, for the sake of a directory is to walk
along all its names, with the same error where that fails. -/
theorem IsTree.follow_bind_directory {d : Disk} (hd : d.IsTree) (asDirectory : Bool) {links : Nat}
    {at_ : Location} {p : Path} {may : Access} (hne : p.bytes ≠ []) :
    (d.follow true asDirectory links at_ p may >>= End.directory may) =
      (d.walk links (start at_ p) p.names may).map Prod.fst := by
  -- a link as the last name is the only way on, and it costs one of the links
  induction links using Nat.strongRecOn generalizing asDirectory at_ p with
  | _ links ih =>
      rcases List.eq_nil_or_concat p.names with hnames | ⟨front, last, hnames⟩
      · rw [follow_of_no_names hne hnames, hnames]
        exact directory_eq_walk_nil ..
      rw [List.concat_eq_append] at hnames
      rw [hnames, walk_append]
      cases hw : d.walk links (start at_ p) front may with
      | error errno =>
          rw [follow_of_walk_error hne hnames hw]
          rfl
      | ok r =>
          obtain ⟨dir, left⟩ := r
          obtain ⟨hleft, hmay⟩ := walk_eq_ok hw
          have hrefused : ¬ (!may dir) = true := by simp [hmay]
          rw [follow_of_walk hne hnames hw]
          simp only
          by_cases hhere : last = Path.here
          · rw [if_pos hhere, hhere, walk_here]
            exact directory_eq_walk_nil ..
          by_cases hup : last = Path.up
          · rw [if_neg hhere, if_pos hup, hup, walk, if_neg hrefused, if_neg (by decide), if_pos rfl]
            exact directory_eq_walk_nil ..
          by_cases hlong : maxName < last.length
          · rw [if_neg hhere, if_neg hup, if_pos hlong, walk, if_neg hrefused, if_neg hhere,
              if_neg hup, if_pos hlong]
            rfl
          rw [if_neg hhere, if_neg hup, if_neg hlong, walk_cons hhere hup hlong hmay]
          cases hget : d.get? (dir ++ [last]) with
          | none => rfl
          | some e =>
              cases e with
              | directory => exact directory_eq_walk_nil ..
              | link target =>
                  cases left with
                  | zero => rfl
                  | succ left =>
                      simp only [Bool.true_or, if_true, List.append_nil]
                      exact ih left (by omega) _ (hd.link_ne_empty hget)
              | file _ _ | program _ | null => cases h : asDirectory || p.endsInSlash <;> rfl

/-- So a path leads to a directory exactly if it is not empty and a walk along all its names ends
there. -/
theorem IsTree.follow_directory_iff {d : Disk} (hd : d.IsTree) (asDirectory : Bool) {links : Nat}
    {at_ l : Location} {p : Path} :
    d.follow true asDirectory links at_ p = .ok (.entry l .directory) ↔
      p.bytes ≠ [] ∧ ∃ left, d.walk links (start at_ p) p.names = .ok (l, left) := by
  by_cases hne : p.bytes = []
  · simp [follow_empty hne, hne]
  · rw [← follow_bind_eq_ok_iff, hd.follow_bind_directory asDirectory hne]
    cases d.walk links (start at_ p) p.names with
    | error errno => simp [Except.map]
    | ok r => simp [Except.map, hne, Prod.ext_iff]

end FreshBuild.Disk
