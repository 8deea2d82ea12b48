/-
# FreshBuild.Disk.Operations — reading and changing a disk through paths.

Every operation takes the current directory and a path, and answers either a result or the cause of
its failure. An operation that fails leaves the disk alone, with one exception: `removeTree` empties
a directory before it removes it, so a failure of the last step leaves an empty directory behind.

They are the operations of a process that may search every directory. `inspect`, `readFile`, `enter`,
`make` and `removeDir` can be asked about another process as well.
-/
import FreshBuild.Disk.Resolve

namespace FreshBuild.Disk

/-- Hands a path to the machine. -/
def request {α : Type} (p : Path) (act : Except Errno α) : Except Cause α :=
  match accept p with
  | .error cause => .error cause
  | .ok () => act.mapError .system

/-! ## Looking -/

/-- The entry a path leads to; `through` tells whether a link at the end counts as its target. -/
def inspect (d : Disk) (through : Bool) (at_ : Location) (p : Path) (may : Access := .full) :
    Except Cause (Location × Entry) :=
  request p do
    match ← d.follow through false maxLinks at_ p may with
    | .entry l e => return (l, e)
    | .vacant .. => throw .noEntry

/-- The content of a file. -/
def readFile (d : Disk) (at_ : Location) (p : Path) (may : Access := .full) :
    Except Cause Bytes := do
  match ← d.inspect true at_ p may with
  | (_, .file content _) => return content
  | (_, .directory) => throw (.system .isDirectory)
  | (_, _) => return []

/-- The directory a path leads to. A process enters only what it may search. -/
def enter (d : Disk) (at_ : Location) (p : Path) (may : Access := .full) :
    Except Cause Location := do
  match ← d.inspect true at_ p may with
  | (l, .directory) => if may l then return l else throw (.system .access)
  | (_, _) => throw (.system .notDirectory)

/-! ## Making -/

/-- Makes an entry under a free name. -/
def make (d : Disk) (at_ : Location) (p : Path) (e : Entry) (may : Access := .full) :
    Except Cause Disk :=
  request p do
    match ← d.parent at_ p may with
    | (dir, .name name) =>
      if maxName < name.length then throw .nameTooLong
      else if (d.get? (dir ++ [name])).isSome then throw .alreadyExists
      -- the current directory may have been removed under a relative path
      else if !d.hasDirectory dir then throw .noEntry
      else return d.put (dir ++ [name]) e
    | _ => throw .alreadyExists

/-- Makes a directory; its parent must exist. -/
def makeDir (d : Disk) (at_ : Location) (p : Path) (may : Access := .full) : Except Cause Disk :=
  d.make at_ p .directory may

/-- The paths that stop after the first name of `p`, after the second, and so on. -/
def frontPaths (p : Path) : List Path :=
  let start : Path := if p.isAbsolute then ⟨[Path.slash]⟩ else ⟨[]⟩
  ((List.range p.names.length).map fun n =>
    (p.names.take (n + 1)).foldl (fun (q : Path) name => q.join ⟨name⟩) start)

/-- Makes a directory together with the parents it lacks. What exists already is left alone. -/
def makeDirs (d : Disk) (at_ : Location) (p : Path) : Disk :=
  (frontPaths p).foldl (fun d q => match d.makeDir at_ q with
    | .ok d' => d'
    | .error _ => d) d

/-- The location a file is written to: the end of the path with links followed. -/
def target (d : Disk) (at_ : Location) (p : Path) : Except Cause (Location × Option Entry) := do
  let last ← request p (d.follow true false maxLinks at_ p)
  match last with
  | .entry _ .directory => throw (.system .isDirectory)
  | .entry l e => return (l, some e)
  | .vacant dir name =>
    if p.endsInSlash then throw (.system .isDirectory)
    else if !d.hasDirectory dir then throw (.system .noEntry)
    else return (dir ++ [name], none)

/-- Writes a file. An existing file keeps its permission; a new one is executable on request. -/
def writeFile (d : Disk) (at_ : Location) (p : Path) (change : Bytes → Bytes)
    (executable : Bool) : Except Cause Disk := do
  match ← d.target at_ p with
  | (l, some (.file content x)) => return d.put l (.file (change content) (x || executable))
  | (_, some .null) => return d
  | (l, _) => return d.put l (.file (change []) executable)

/-! ## Removing -/

/-- Removes an entry that is no directory. A link is removed itself. -/
def unlink (d : Disk) (at_ : Location) (p : Path) : Except Cause Disk :=
  request p do
    match ← d.parent at_ p with
    | (dir, .name name) =>
      if maxName < name.length then throw .nameTooLong
      else match d.get? (dir ++ [name]) with
        | none => throw .noEntry
        | some .directory => throw .isDirectory
        | some _ => if p.endsInSlash then throw .notDirectory else return d.erase (dir ++ [name])
    | _ => throw .isDirectory

/-- Removes an empty directory. A link is no directory here, even with a slash behind it. -/
def removeDir (d : Disk) (at_ : Location) (p : Path) (may : Access := .full) : Except Cause Disk :=
  request p do
    match ← d.parent at_ p may with
    | (dir, .name name) =>
      if maxName < name.length then throw .nameTooLong
      else match d.get? (dir ++ [name]) with
        | none => throw .noEntry
        | some .directory =>
          if (d.children (dir ++ [name])).isEmpty then return d.erase (dir ++ [name])
          else throw .notEmpty
        | some _ => throw .notDirectory
    | (_, .root) => throw .busy
    | (_, .here) => throw .invalid
    | (_, .up) => throw .notEmpty

/-- Removes a directory with everything below it, links as links. The directory is emptied first and
then removed under the same path; if the path no longer leads anywhere by then, that is as good. -/
def removeTree (d : Disk) (at_ : Location) (p : Path) : Disk × Except Cause Unit :=
  match d.inspect false at_ p with
  | .error cause => (d, .error cause)
  | .ok (l, .directory) =>
    let emptied := d.clear l
    match emptied.removeDir at_ p with
    | .ok removed => (removed, .ok ())
    | .error cause => (emptied, if cause.isAbsence then .ok () else .error cause)
  | .ok (_, .link _) =>
    match d.unlink at_ p with
    | .ok removed => (removed, .ok ())
    | .error cause => (d, .error cause)
  | .ok (_, _) => (d, .error (.system .notDirectory))

/-! ## Renaming -/

/-- The entry at one location, with everything below it, stands at another. -/
def relocate (d : Disk) (source target : Location) : Disk :=
  let moved := d.rows.filterMap fun (l, e) =>
    if source.isPrefixOf l then some (target ++ l.drop source.length, e) else none
  let kept := d.rows.filter fun (l, _) => !source.isPrefixOf l && !target.isPrefixOf l
  { d with rows := kept ++ moved }

/-- Gives an entry another path. What stands there already is replaced if it is of the same sort, and
a directory only if it is empty. -/
def rename (d : Disk) (at_ : Location) (source target : Path) : Except Cause Disk := do
  let (from_, e) ← d.inspect false at_ source
  request source do
    match ← d.parent at_ source, ← d.parent at_ target with
    | (_, .name _), (dir, .name name) =>
      let to_ := dir ++ [name]
      if maxName < name.length then throw .nameTooLong
      else if !d.hasDirectory dir then throw .noEntry
      else if from_ = to_ then return d
      else if from_.isPrefixOf to_ then throw .invalid
      else match d.get? to_, e.isDirectory with
        | none, isDirectory =>
          if target.endsInSlash && !isDirectory then throw .notDirectory else return d.relocate from_ to_
        | some .directory, true =>
          if (d.children to_).isEmpty then return d.relocate from_ to_ else throw .notEmpty
        | some .directory, false => throw .isDirectory
        | some _, true => throw .notDirectory
        | some _, false => return d.relocate from_ to_
    | _, _ => throw .busy

end FreshBuild.Disk
