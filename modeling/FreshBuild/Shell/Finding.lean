/-
# FreshBuild.Shell.Finding — what a name means at the front of a command.

A function comes before a command of the shell's own, and that before a program. A program whose name
has no slash is looked for in the directories of the search path; there any file counts, and whether
it can be run shows only when it is started.
-/
import FreshBuild.Shell.State

namespace FreshBuild.Shell

open FreshBuild.Utility

/-! ## The shell's own commands -/

/-- The commands that a shell carries out itself and that a program could replace. -/
def regularNames : List String :=
  ["[", "alias", "bg", "cd", "chdir", "command", "echo", "false", "fg", "getopts", "hash", "jobs",
    "kill", "printf", "pwd", "read", "test", "true", "type", "ulimit", "umask", "unalias", "wait"]

def isSpecialName (name : Bytes) : Bool := specialNames.any fun n => Utf8.ofString n = name

def isOwnName (name : Bytes) : Bool :=
  isSpecialName name || regularNames.any fun n => Utf8.ofString n = name

/-- The command takes assignments as arguments. -/
def takesAssignments (name : Bytes) : Bool :=
  ["alias", "export", "local", "readonly"].any fun n => Utf8.ofString n = name

/-! ## Programs -/

/-- The search path of a machine that names none. -/
def standardPath : Bytes :=
  "/usr/local/sbin:/usr/local/bin:/usr/sbin:/usr/bin:/sbin:/bin"

/-- The elements of a list of directories. -/
def elementsOf (list : Bytes) : List Bytes :=
  list.foldr (fun b parts => match parts with
    | part :: rest => if b = 0x3A then [] :: part :: rest else (b :: part) :: rest
    | [] => [[b]]) [[]]

/-- A name in a directory. The empty directory is the current one. -/
def nameIn (directory name : Bytes) : Bytes :=
  if directory = [] then name else directory ++ Path.slash :: name

/-- The paths of a search for a name. -/
def searchPaths (searchPath name : Bytes) : List Bytes :=
  (elementsOf searchPath).map (nameIn · name)

/-- What the search for a program has found at a path. -/
inductive Spot where
  | program
  | nothing
  /-- Something is there, or may be, that is no program. -/
  | blocked (errno : Errno)

/-- Looks at a path. -/
def Spot.at (s : State) (path : Bytes) : Spot :=
  match s.world.disk.inspect true s.here ⟨path⟩ with
  | .ok (_, .file ..) | .ok (_, .program _) => .program
  | .ok _ => .blocked .access
  | .error (.system errno) =>
    if errno = .noEntry || errno = .notDirectory then .nothing else .blocked errno
  | .error _ => .nothing

/-- The paths from the first one that leads to a program on, or else what was in the way. -/
def Spot.search (s : State) : Errno → List Bytes → Except Errno (List Bytes)
  | errno, [] => .error errno
  | errno, path :: rest =>
    match Spot.at s path with
    | .program => .ok (path :: rest)
    | .nothing => Spot.search s errno rest
    | .blocked errno' => Spot.search s errno' rest

/-- The words for a program that could not be run. -/
def programReason (errno : Errno) : Bytes :=
  if errno = .noEntry || errno = .notDirectory then "not found" else errno.text

/-! ## Commands -/

/-- What is run for the name of a command. -/
inductive Found where
  | function (line : Nat) (body : Node)
  | own (isSpecial : Bool)
  /-- The paths at which there may be a program, to be tried in order. -/
  | program (paths : List Bytes)
  | missing (errno : Errno)

/-- What a name means with a search path. `functions` tells whether functions count. -/
def Found.of (s : State) (searchPath : Bytes) (functions : Bool) (name : Bytes) : Found :=
  if name.contains Path.slash then .program [name]
  else match functions, s.functions.lookup (Utf8.lossy name) with
    | true, some (line, body) => .function line body
    | _, _ =>
      if isOwnName name then .own (isSpecialName name)
      else match Spot.search s .noEntry (searchPaths searchPath name) with
        | .ok paths => .program paths
        | .error errno => .missing errno

/-- The search path of the shell. -/
def State.searchPath (s : State) : Bytes := (s.lookup? "PATH").getD []

end FreshBuild.Shell
