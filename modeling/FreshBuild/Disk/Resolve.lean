/-
# FreshBuild.Disk.Resolve — where a path leads.

A path is walked name by name from the root or from the current directory. Links met on the way are
followed, `..` goes to the parent of the directory that was really reached, and every name but the
last must lead to a directory. The last name is special in three ways. A link there is followed only
if the caller asks or a slash stands behind it; an operation that makes or removes an entry never
follows it; and `.` or `..` there is no name that could be made or removed.

A walk follows at most forty links, a name has at most 255 bytes and a path fewer than 4096.

To look a name up in a directory, be it `.` or `..`, a process needs the permission to search it. Which
directories it may search is a matter of the process (`Access`), and unless it is said otherwise it may
search them all. This is the only permission that there is.
-/
import FreshBuild.Cause
import FreshBuild.Disk

namespace FreshBuild.Disk

/-- The links one walk may follow. -/
def maxLinks : Nat := 40
/-- The bytes of the longest name. -/
def maxName : Nat := 255
/-- A path is shorter than this. -/
def pathLimit : Nat := 4096

/-! ## Walking through directories -/

/-- The directories that a process may search. -/
abbrev Access := Location → Bool

/-- All of them. -/
def Access.full : Access := fun _ => true

/-- Follows `names` from `at_` through directories only, with `links` links to spare, each of which
must be open to a search. So must the one at the end, where a last name is going to be looked up.
Answers the directory reached and the links left. -/
def walk (d : Disk) (links : Nat) (at_ : Location) (names : List Name)
    (may : Access := .full) : Except Errno (Location × Nat) :=
  match names with
  | [] => if !may at_ then .error .access else .ok (at_, links)
  | name :: rest =>
    if !may at_ then .error .access
    else if name = Path.here then walk d links at_ rest may
    else if name = Path.up then walk d links at_.dropLast rest may
    else if maxName < name.length then .error .nameTooLong
    else match d.get? (at_ ++ [name]) with
      | none => .error .noEntry
      | some .directory => walk d links (at_ ++ [name]) rest may
      | some (.link target) =>
        match links with
        | 0 => .error .loop
        | links + 1 =>
          walk d links (if target.isAbsolute then [] else at_) (target.names ++ rest) may
      | some _ => .error .notDirectory
termination_by (links, names.length)

/-- A walk does not gain links, and it ends in a directory that may be searched. -/
theorem walk_eq_ok {d : Disk} {links : Nat} {at_ : Location} {names : List Name} {may : Access}
    {reached : Location} {left : Nat} (h : d.walk links at_ names may = .ok (reached, left)) :
    left ≤ links ∧ may reached = true := by
  fun_induction walk d links at_ names may generalizing reached left with
  | case1 => cases h
  | case2 links at_ hmay =>
      obtain ⟨rfl, rfl⟩ := Prod.mk.inj (Except.ok.inj h)
      exact ⟨Nat.le_refl _, by simpa using hmay⟩
  | case3 => cases h
  | case4 | case5 | case8 => rename_i ih; exact ih h
  | case6 => cases h
  | case7 => cases h
  | case9 => cases h
  | case10 => rename_i ih; exact (ih h).imp_left Nat.le_succ_of_le
  | case11 => cases h

theorem walk_links_le {d : Disk} {links : Nat} {at_ : Location} {names : List Name} {may : Access}
    {reached : Location} {left : Nat} (h : d.walk links at_ names may = .ok (reached, left)) :
    left ≤ links :=
  (walk_eq_ok h).1

/-- Where a walk along a path starts. -/
def start (at_ : Location) (p : Path) : Location :=
  if p.isAbsolute then [] else at_

/-! ## What a path leads to -/

/-- The end of a path: an entry, or a name that is still free in an existing directory. -/
inductive End where
  | entry (at_ : Location) (e : Entry)
  | vacant (dir : Location) (name : Name)
deriving DecidableEq

/-- The end of a path. A link as the last name is followed if `through` says so or a slash stands
behind it; `asDirectory` or such a slash demands that an entry other than a link is a directory. -/
def follow (d : Disk) (through asDirectory : Bool) (links : Nat) (at_ : Location) (p : Path)
    (may : Access := .full) : Except Errno End :=
  if p.bytes = [] then .error .noEntry
  else match p.names.getLast? with
    | none => .ok (.entry (start at_ p) .directory)
    | some last =>
      match _h : d.walk links (start at_ p) p.names.dropLast may with
      | .error e => .error e
      | .ok (dir, left) =>
        if last = Path.here then .ok (.entry dir .directory)
        else if last = Path.up then .ok (.entry dir.dropLast .directory)
        else if maxName < last.length then .error .nameTooLong
        else match d.get? (dir ++ [last]) with
          | none => .ok (.vacant dir last)
          | some .directory => .ok (.entry (dir ++ [last]) .directory)
          | some (.link target) =>
            if through || p.endsInSlash then
              match _h' : left with
              | 0 => .error .loop
              | left' + 1 => d.follow true (asDirectory || p.endsInSlash) left' dir target may
            else .ok (.entry (dir ++ [last]) (.link target))
          | some e =>
            if asDirectory || p.endsInSlash then .error .notDirectory
            else .ok (.entry (dir ++ [last]) e)
termination_by links
decreasing_by
  have := walk_links_le _h
  omega

/-! ## The parent of a path, for making and removing -/

/-- The last name of a path, as an operation sees that makes or removes it. -/
inductive Last where
  | root
  | here
  | up
  | name (name : Name)
deriving DecidableEq

/-- The directory that holds the last name of a path, and that name. -/
def parent (d : Disk) (at_ : Location) (p : Path) (may : Access := .full) :
    Except Errno (Location × Last) :=
  if p.bytes = [] then .error .noEntry
  else match p.names.getLast? with
    | none => .ok ([], .root)
    | some last =>
      (d.walk maxLinks (start at_ p) p.names.dropLast may).map fun (dir, _) =>
        (dir, if last = Path.here then .here else if last = Path.up then .up else .name last)

/-- A path that can be handed to the machine at all. -/
def accept (p : Path) : Except Cause Unit :=
  if p.bytes.contains 0 then .error .nulInPath
  else if pathLimit ≤ p.bytes.length then .error (.system .nameTooLong)
  else .ok ()

end FreshBuild.Disk
