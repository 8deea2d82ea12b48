/-
# FreshBuild.Shell.Builtin.Places — the current directory.

A shell remembers the way by which it came to its directory, links and all. A relative path is first
put behind that way, name by name, and `..` takes the last name back; only then is the directory
entered. Where the way is not to be remembered, the machine's own path of the directory counts.
-/
import FreshBuild.Shell.Builtin.Arguments
import FreshBuild.Shell.Finding

namespace FreshBuild.Shell.Builtin

open FreshBuild.Utility

/-- The path that a directory was reached by, after a further path. None if the first is not known. -/
def wayTo? (directory path : Bytes) : Option Path :=
  let step (names : List Bytes) (name : Bytes) : List Bytes :=
    if name = Path.here then names else if name = Path.up then names.tail else name :: names
  let spelled (front : Path) (names : List Bytes) : Path :=
    names.reverse.foldl (fun (p : Path) name => p.join ⟨name⟩) front
  let front (p : Path) : Path :=
    if p.startsInDoubleSlash then ⟨[Path.slash, Path.slash]⟩ else ⟨[Path.slash]⟩
  let p : Path := ⟨path⟩
  if p.isAbsolute then some (spelled (front p) (p.names.foldl step []))
  else if directory = [] then none
  else
    let start : Path := ⟨directory⟩
    some (spelled (front start) (p.names.foldl step start.names.reverse))

/-- The machine's own path of the current directory, if there still is one. -/
def physical? (s : State) : Option Bytes :=
  if s.world.disk.hasDirectory s.here then some (Location.path s.here).bytes else none

/-- Complains that the current directory has no path. -/
def noPlace : Run Unit :=
  Run.warn ["getcwd() failed: ", Errno.noEntry.text]

/-- The shell stands in a directory that it reached by a path. -/
def settleIn (l : Location) (way : Option Path) : Run Unit := do
  let s ← get
  let old := s.directory
  set { s with station := Station.enter s.world.disk l }
  let directory ← match way with
    | some p => pure p.bytes
    | none =>
      match physical? (← get) with
      | some path => pure path
      | none =>
        noPlace
        pure []
  let exported (s : State) (name : String) (value : Bytes) : State :=
    (s.assign name value).modifyVariable name fun v => { v with exported := true }
  modify fun s => { exported (exported s "OLDPWD" old) "PWD" directory with directory }

/-- Goes to a directory, by the remembered way or by the path as it is. The answer tells whether that
was possible. -/
def goTo (isPhysical : Bool) (path : Bytes) : Run Bool := do
  let s ← get
  let way := if isPhysical then none else wayTo? s.directory path
  match s.world.disk.enter s.here (way.getD ⟨path⟩) with
  | .error _ => return false
  | .ok l =>
    settleIn l way
    return true

/-- The options of commands about directories: the machine's own path is wanted. -/
def wantsPhysical (args : List Bytes) : Run (Bool × List Bytes) := do
  let (options, operands) ← Letters.read ⟨"LP", ""⟩ args
  return ((options.getLast?.map Prod.fst) = some 'P', operands)

/-- The path is not looked for anywhere else. -/
def isAnchored (path : Bytes) : Bool :=
  match (Path.stretches path).head? with
  | some first => first = [] || first = Path.here || first = Path.up
  | none => true

def cd (args : List Bytes) : Run Nat := do
  let (isPhysical, operands) ← wantsPhysical args
  let s ← get
  let isBack := operands.head? == some [0x2D]
  let wanted : Bytes := match operands with
    | [] => (s.lookup? "HOME").getD []
    | path :: _ => if isBack then (s.lookup? "OLDPWD").getD [] else path
  let path := if wanted = [] then Path.here else wanted
  let fronts := if isAnchored path then [] else elementsOf ((s.lookup? "CDPATH").getD [])
  let found := fronts.find? fun front =>
    front != [] && (s.world.disk.enter s.here ⟨nameIn front path⟩).toOption.isSome
  let target := (found.map (nameIn · path)).getD path
  if ← goTo isPhysical target then
    if isBack || found.isSome then Run.print ((← get).directory ++ [0x0A])
    return 0
  else Run.fail ["can't cd to ", wanted]

def pwd (args : List Bytes) : Run Nat := do
  let (isPhysical, _) ← wantsPhysical args
  let s ← get
  if isPhysical then
    match physical? s with
    | some path => Run.print (path ++ [0x0A])
    | none =>
      noPlace
      Run.print [0x0A]
  else Run.print (s.directory ++ [0x0A])
  return 0

end FreshBuild.Shell.Builtin
