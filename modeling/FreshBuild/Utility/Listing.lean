/-
# FreshBuild.Utility.Listing — listing directories.

The entries of a directory are listed in the order of their bytes, one to a line. Operands that are no
directories come first, and if there is more than one operand each directory has a headline.
-/
import FreshBuild.Utility.Copies

namespace FreshBuild.Utility

/-- How `ls` lists. -/
structure View where
  /-- Names that start with a dot are listed too, and with `everything` the two special ones. -/
  hidden : Bool
  everything : Bool
  /-- Directories are listed as entries. -/
  asEntry : Bool
  recursive : Bool
  backwards : Bool
  /-- A mark behind a name tells the sort of entry: of all, or of directories alone. -/
  marks : Bool
  slashes : Bool

/-- The order of bytes. -/
def inOrder (a b : Bytes) : Bool := !decide (b < a)

/-- A name with the mark of its entry. -/
def View.show (v : View) (name : Bytes) (e : Entry) : Bytes :=
  let mark : Bytes := match e with
    | .directory => if v.marks || v.slashes then [0x2F] else []
    | .link _ => if v.marks then [0x40] else []
    | .file _ true | .program _ => if v.marks then [0x2A] else []
    | _ => []
  name ++ mark ++ [0x0A]

/-- Names in the order of the view. -/
def View.order (v : View) (names : List Bytes) : List Bytes :=
  let sorted := names.mergeSort inOrder
  if v.backwards then sorted.reverse else sorted

/-- The names of a directory that the view lists. -/
def View.names (v : View) (d : Disk) (l : Location) : List Bytes :=
  let all := if v.everything then [Path.here, Path.up] ++ d.children l else d.children l
  v.order (all.filter fun n => v.hidden || n.head? != some Path.dot)

/-- The lines of one directory. -/
def View.body (v : View) (d : Disk) (l : Location) : Bytes :=
  (v.names d l).flatMap fun name =>
    v.show name (if name = Path.here || name = Path.up then .directory
      else (d.get? (l ++ [name])).getD .null)

/-- A directory and, in a recursive listing, the directories below it, each with its path. Every
level costs one unit of `fuel`. -/
def View.tree (v : View) (d : Disk) : Nat → Bytes → Location → List (Bytes × Location)
  | 0, _, _ => []
  | fuel + 1, path, l =>
    let below := if v.recursive then
        (v.names d l).filter fun n =>
          n != Path.here && n != Path.up && d.hasDirectory (l ++ [n])
      else []
    (path, l) :: below.flatMap fun n => v.tree d fuel (inside path n) (l ++ [n])

/-- Lists operands. -/
def View.list (v : View) (operands : List Bytes) (t : Task) : Finish :=
  let d := t.disk
  let look (operand : Bytes) : Except Cause (Location × Entry) :=
    let through := !(v.asEntry || v.marks)
    match d.inspect through t.at_ ⟨operand⟩ with
    | .ok found => .ok found
    | .error cause => if cause.isAbsence then d.inspect false t.at_ ⟨operand⟩ else .error cause
  let w := each t.begin operands fun w operand =>
    match look operand with
    | .ok _ => w
    | .error cause => (failedOn w "cannot access" operand cause).fail 2
  let found := (v.order operands).filterMap fun operand =>
    (look operand).toOption.map fun (l, e) => (operand, l, e)
  let (directories, others) := found.partition fun (_, _, e) => e.isDirectory && !v.asEntry
  let w := w.print (others.flatMap fun (operand, _, e) => v.show operand e)
  let shown := directories.flatMap fun (operand, l, _) => v.tree d (d.rows.length + 1) operand l
  let headed := v.recursive || operands.length > 1
  let sections := shown.map fun (path, l) =>
    (if headed then path ++ [0x3A, 0x0A] else []) ++ v.body d l
  let gap : Bytes := if others != [] && sections != [] then [0x0A] else []
  (w.print (gap ++ (sections.intersperse [0x0A]).flatten)).finishAtOnce

def ls : Task → Finish :=
  withOptions ⟨"abcdfghiklmnopqrstuvxABCDFGHLNQRSUXZ1", "wITT", [("all", 'a', .nothing),
      ("almost-all", 'A', .nothing), ("directory", 'd', .nothing), ("classify", 'F', .perhaps),
      ("recursive", 'R', .nothing), ("reverse", 'r', .nothing), ("color", 'K', .perhaps),
      ("file-type", 'p', .nothing)], false⟩ 2 fun g t =>
    let v : View :=
      { hidden := g.has 'a' || g.has 'A' || g.has 'f'
        everything := g.last? ['a', 'A', 'f'] == some 'a' || g.last? ['a', 'A', 'f'] == some 'f'
        asEntry := g.has 'd'
        recursive := g.has 'R' && !g.has 'd'
        backwards := g.has 'r'
        marks := g.has 'F'
        slashes := g.has 'p' }
    v.list (if g.operands = [] then [Path.here] else g.operands) t

end FreshBuild.Utility
