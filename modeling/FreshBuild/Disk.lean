/-
# FreshBuild.Disk — the state of a file system.

A location is the list of names from the root of the file system down to an entry; it holds no `.`,
no `..` and no link, so two different locations are two different entries. A disk says what stands
at each location. It is a finite table rather than a tree of values: an operation on one subtree then
visibly leaves every row outside that subtree alone, and a removal is a filter.

A disk knows what there is, and not whose it is. It has no owners, no permission bits but the one that
lets a file be executed, no access lists and no umask, so nothing on it is ever refused to a process:
whatever is there can be read, changed and removed, and what a process makes is open to it. Nor does a
disk know times or the numbers of its entries, so that a directory made again is the same directory.

Paths are a different matter: what a path leads to is the business of `FreshBuild.Disk.Resolve`. There
a process may be refused one thing, which is to look names up in a directory.
-/
import FreshBuild.Path

namespace FreshBuild

/-- The name of an entry in its directory. -/
abbrev Name := Bytes

/-- The names from the root down to an entry. -/
abbrev Location := List Name

/-- The path of a location: absolute, with one slash between names. -/
def Location.path (at_ : Location) : Path :=
  at_.foldl (fun (p : Path) name => p.join ⟨name⟩) ⟨[Path.slash]⟩

/-- What can stand at a location. -/
inductive Entry where
  | directory
  | file (content : Bytes) (executable : Bool)
  | link (target : Path)
  /-- An executable that the machine itself provides, known by its name. -/
  | program (name : String)
  /-- The device that is always empty and takes everything. -/
  | null
deriving DecidableEq

namespace Entry

def isDirectory : Entry → Bool
  | .directory => true
  | _ => false

end Entry

/-- The entries of a file system other than its root, which is always a directory. Nothing is said of
permissions: whatever is reached can be read, changed and removed. -/
structure Disk where
  rows : List (Location × Entry)
  /-- The directories that were removed, the latest first. A process may still stand in one. -/
  removed : List Location
deriving DecidableEq

namespace Disk

/-- What stands at a location. -/
def get? (d : Disk) (at_ : Location) : Option Entry :=
  if at_ = [] then some .directory else d.rows.lookup at_

/-- A directory stands at the location. -/
def hasDirectory (d : Disk) (at_ : Location) : Bool :=
  (d.get? at_).any Entry.isDirectory

/-- Only the entries at locations that are to be kept are left. -/
def restrict (d : Disk) (kept : Location → Bool) : Disk where
  rows := d.rows.filter fun (l, _) => kept l
  removed :=
    (d.rows.filterMap fun (l, e) => if e.isDirectory && !kept l then some l else none) ++ d.removed

/-- Everything strictly below a location is gone. -/
def clear (d : Disk) (at_ : Location) : Disk :=
  d.restrict fun l => !(at_.isPrefixOf l && l != at_)

/-- The location and everything below it are gone. -/
def erase (d : Disk) (at_ : Location) : Disk :=
  d.restrict fun l => !at_.isPrefixOf l

/-- The location holds one new entry, with nothing below it. -/
def put (d : Disk) (at_ : Location) (e : Entry) : Disk :=
  { d.erase at_ with rows := (d.erase at_).rows ++ [(at_, e)] }

/-- The names in a directory, in no particular order. -/
def children (d : Disk) (at_ : Location) : List Name :=
  d.rows.filterMap fun (l, _) =>
    if l.dropLast = at_ then l.getLast? else none

/-- The rows strictly below a location, with the names from there on. A directory comes right before
what it holds, and the entries of a directory are in the order of their bytes. -/
def listing (d : Disk) (at_ : Location) : List (Location × Entry) :=
  let below := d.rows.filterMap fun (l, e) =>
    if at_.isPrefixOf l && l != at_ then some (l.drop at_.length, e) else none
  below.mergeSort fun a b => !decide (b.1 < a.1)

end Disk

/-! ## Standing in a directory -/

/-- Where a process stands: in the directory that was at a location when so many directories had been
removed. -/
structure Station where
  at_ : Location
  since : Nat
deriving DecidableEq

namespace Station

/-- A process enters the directory at a location. -/
def enter (d : Disk) (at_ : Location) : Station := ⟨at_, d.removed.length⟩

/-- A location next to `at_` that no path leads to. It stands for a directory that was removed while a
process stood in it: nothing is found there and nothing can be made there, and yet it has a parent. -/
def nowhere (at_ : Location) : Location := at_.dropLast ++ [[]]

/-- The current directory of the process. A new directory in the place of the one it entered is not
the one it stands in. -/
def here (s : Station) (d : Disk) : Location :=
  if (d.removed.take (d.removed.length - s.since)).contains s.at_ then nowhere s.at_ else s.at_

end Station

end FreshBuild
