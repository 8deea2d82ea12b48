/-
# FreshBuild.Main — the command line on a real machine.

The program itself is a function from one disk to another. Here the part of the real file system that
a run can look at is read into a disk, the function is applied, what it changed is written back, and
its output is printed. Tools are the machine's own small programs and scripts for its shell.

A link is read with its target in full, and a file counts as executable if it names an interpreter.
-/
import FreshBuild.Program

namespace FreshBuild.Main

/-- Rows of a disk. -/
abbrev Rows := List (Location × Entry)

/-! ## Reading -/

/-- The name of an entry and everything below it. -/
partial def rowsOf (at_ : Location) (e : IO.FS.DirEntry) : IO Rows := do
  let l := at_ ++ [Utf8.ofString e.fileName]
  match (← e.path.symlinkMetadata).type with
  | .dir =>
    let below ← (← e.path.readDir).toList.mapM (rowsOf l)
    return (l, .directory) :: below.flatten
  | .file =>
    let content := (← IO.FS.readBinFile e.path).toList
    return [(l, .file content (Launch.interpreter? content).isSome)]
  | .symlink => return [(l, .link (Path.ofString (← IO.FS.realPath e.path).toString))]
  | .other => return [(l, .null)]

/-- The directories and links that a path leads through, itself included. -/
def rowsAlong (path : String) : IO Rows := do
  let here ← IO.currentDir
  let names := (Path.ofString path).names
  let locations := (List.range names.length).map fun n => names.take (n + 1)
  let rows ← locations.mapM fun (l : Location) => do
    let place := here / (Location.path l).display
    try
      match (← place.symlinkMetadata).type with
      | .dir => return [(l, Entry.directory)]
      | .symlink => return [(l, .link (Path.ofString (← IO.FS.realPath place).toString))]
      | .file =>
        let content := (← IO.FS.readBinFile place).toList
        return [(l, .file content (Launch.interpreter? content).isSome)]
      | .other => return [(l, .null)]
    catch _ => return []
  return rows.flatten

/-- Everything below a path. -/
def rowsBelow (path : String) : IO Rows := do
  let here ← IO.currentDir
  try
    let rows ← (← (here / path).readDir).toList.mapM (rowsOf (Path.ofString path).names)
    return rows.flatten
  catch _ => return []

/-- A disk with the machine's own programs and all that lies on or below the given paths. Of two rows
for one location the first counts. -/
def snapshot (paths : List String) : IO Disk := do
  let rows ← paths.mapM fun (path : String) => do
    let along ← rowsAlong path
    try
      let real := (← IO.FS.realPath path).toString
      return along ++ (← rowsAlong real) ++ (← rowsBelow real)
    catch _ => return along
  return ⟨rows.flatten.foldl (fun (kept : Rows) row =>
    if (kept.lookup row.1).isSome then kept else kept ++ [row]) Launch.machine.rows, []⟩

/-- The paths whose content a command line can reach. -/
def reach (env : Environment) (args : List Bytes) (here : Location) : List String :=
  match CommandLine.read env args with
  | .ok (.run o) =>
    ([o.root] ++ o.config.toList).map fun p => ((Location.path here).join p).display
  | _ => []

/-! ## Writing -/

/-- Makes the real file system differ from what it was as the one disk differs from the other. -/
def commit (before after : Disk) : IO Unit := do
  let gone := before.rows.filter fun (l, e) => after.get? l != some e
  let fresh := after.rows.filter fun (l, e) => before.get? l != some e
  for (l, e) in gone.mergeSort (fun a b => b.1.length ≤ a.1.length) do
    let place := (Location.path l).display
    if e.isDirectory then IO.FS.removeDir place else IO.FS.removeFile place
  for (l, e) in fresh.mergeSort (fun a b => a.1.length ≤ b.1.length) do
    let place := (Location.path l).display
    match e with
    | .directory => IO.FS.createDir place
    | .file content _ => IO.FS.writeBinFile place ⟨content.toArray⟩
    | _ => pure ()

/-! ## The machine around the program -/

/-- The variables that the program and its tools look at. -/
def environment : IO Environment := do
  let names := ["PATH", "HOME", "CLICOLOR_FORCE", "NO_COLOR", CommandLine.rootVariable,
    CommandLine.jobsVariable]
  let values ← names.mapM fun (name : String) => return (name, ← IO.getEnv name)
  return values.filterMap fun (name, value?) => value?.map fun v => (name, Utf8.ofString v)

/-- The number of hardware threads, or zero if it cannot be found out. -/
def threads : IO Nat := do
  try
    let lines ← IO.FS.lines "/proc/cpuinfo"
    return (lines.filter (·.startsWith "processor")).size
  catch _ => return 0

end FreshBuild.Main

open FreshBuild in
/-- Runs the program. -/
def main (args : List String) : IO UInt32 := do
  let env ← Main.environment
  let here := (Path.ofString (← IO.currentDir).toString).names
  let args := args.map Utf8.ofString
  let before ← Main.snapshot (Main.reach env args here)
  let a := Program.answer (← Main.threads) env args here before
  Main.commit before a.disk
  (← IO.getStdout).write ⟨a.out.toArray⟩
  (← IO.getStderr).write ⟨a.err.toArray⟩
  return UInt32.ofNat a.exitCode
