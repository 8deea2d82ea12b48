/-
# FreshBuild.Launch — starting programs.

A program is started in three stages: its arguments must be fit for the machine, its directory is
entered, and then an executable is looked up and run. A name with a slash is a path from the new
directory; any other name is tried in every directory of the search path. The first stage that fails
names the cause. Because the directory comes before the program, a missing directory and a missing
program show the same cause, and `system` cannot tell them apart either.

An executable is a program of the machine or a file that names its interpreter in its first line. The
interpreter may be such a file again, up to five times.

What else a file may hold is not looked at, machine code included: the machine has its own programs as
entries of another kind. Nor is there a bound here on how much room the arguments and the environment
take, or a shortage of processes or of memory.
-/
import FreshBuild.Run
import FreshBuild.Shell
import FreshBuild.Utility

namespace FreshBuild.Launch

/-! ## Interpreters -/

/-- The bytes of a file that are looked at for its interpreter. -/
def window : Nat := 256

def isBlank (b : UInt8) : Bool := b == 0x20 || b == 0x09

/-- What stands behind the mark of an interpreter in the first line of a file. A line that goes beyond
the window is cut there, provided that the name of the interpreter ends before. -/
def interpreterLine? (content : Bytes) : Option Bytes :=
  let buffer := content.take window ++ List.replicate (window - content.length) 0
  match buffer with
  | 0x23 :: 0x21 :: rest =>
    let line := rest.takeWhile fun b => b != 0x0A && b != 0
    if (rest.drop line.length).head? = some 0x0A then some line
    else
      let name := rest.dropWhile isBlank
      if name.any fun b => isBlank b || b == 0 then some rest.dropLast else none
  | _ => none

/-- The interpreter that a file names, and the one argument it may be given there. -/
def interpreter? (content : Bytes) : Option (Bytes × Option Bytes) :=
  match interpreterLine? content with
  | none => none
  | some line =>
    let trimmed := ((line.reverse.dropWhile isBlank).reverse).dropWhile isBlank
    if trimmed = [] then none
    else
      let program := trimmed.takeWhile fun b => !isBlank b && b != 0
      match trimmed.drop program.length with
      | [] => some (program, none)
      | sep :: rest =>
        if sep = 0 then some (program, none)
        else some (program, some ((rest.dropWhile isBlank).takeWhile (· != 0)))

/-! ## Executables -/

/-- What a path leads to, links followed. -/
def entryAt (d : Disk) (at_ : Location) (path : Bytes) : Except Errno Entry :=
  match d.inspect true at_ ⟨path⟩ with
  | .ok (_, entry) => .ok entry
  | .error (.system errno) => .error errno
  | .error _ => .error .invalid

/-- A program of the machine, with the name it is started under and its arguments. -/
structure Image where
  program : String
  zero : Bytes
  args : List Bytes

/-- The interpreters of interpreters that are allowed. -/
def maxInterpreters : Nat := 5

/-- The program that a path stands for. The path of a file goes in front of the arguments that its
interpreter gets. -/
def image (d : Disk) (at_ : Location) : Nat → Bytes → Bytes → List Bytes → Except Errno Image
  | left, path, zero, args =>
    match entryAt d at_ path with
    | .error errno => .error errno
    | .ok (.program name) => .ok ⟨name, zero, args⟩
    | .ok (.file content true) =>
      match interpreter? content, left with
      | none, _ => .error .execFormat
      | some (program, arg), left + 1 =>
        image d at_ left program program (arg.toList ++ path :: args)
      | some (program, _), 0 =>
        match entryAt d at_ program with
        | .ok (.program _) | .ok (.file _ true) => .error .loop
        | .ok _ => .error .access
        | .error errno => .error errno
    | .ok _ => .error .access

/-! ## The search -/

/-- Tries paths in order. A path that leads nowhere is passed over, and so is one that may not be
executed. If no path is left, the cause of the last one counts, unless one of them might not be
executed: then it is that. -/
def firstOf (run : Bytes → Except Errno Finish) : Errno → List Bytes → Except Errno Finish
  | remembered, [] => .error remembered
  | remembered, path :: rest =>
    match run path with
    | .ok f => .ok f
    | .error errno =>
      if errno = .access ∨ errno = .noEntry ∨ errno = .notDirectory then
        firstOf run (if remembered = .access then .access else errno) rest
      else .error errno

/-- The search path of an environment that names none. -/
def standardPath : Bytes := Utf8.ofString "/bin:/usr/bin"

/-- The directories of a search path in which a name is looked for. One whose path is too long for the
machine is left out if it is the last one. Otherwise the current directory takes its place, since the
library of the machine then goes on at the colon behind it. -/
def directories : List Bytes → List Bytes
  | [] => []
  | [last] => if last.length < Disk.pathLimit then [last] else []
  | directory :: rest =>
    (if directory.length < Disk.pathLimit then directory else []) :: directories rest

/-- The paths at which a name is looked for. -/
def candidates (env : Environment) (name : Bytes) : List Bytes :=
  (directories (Shell.elementsOf ((env.value? "PATH").getD standardPath))).map (Shell.nameIn · name)

/-- Looks a program name up and runs it. Where there is nothing to be tried no attempt has named a cause,
and the library of the machine answers with one that it keeps for this: that there is no child. -/
def search (run : Bytes → Except Errno Finish) (env : Environment) (name : Bytes) :
    Except Errno Finish :=
  if name = [] then .error .noEntry
  else if name.contains Path.slash then run name
  else firstOf run .noChild (candidates env name)

/-! ## Running -/

/-- A program by its name. -/
def program? (name : String) : Option Program :=
  if name = "sh" || name = "dash" then some Shell.run else Utility.program? name

/-- The started program takes a millisecond before it does anything. -/
def after (t : Task) (run : Task → Finish) : Finish :=
  match t.limit with
  | some 0 => ⟨t.disk, [], t.input, .expired, 1⟩
  | limit =>
    let f := run { t with limit := limit.map (· - 1) }
    { f with spent := f.spent + 1 }

/-- The way to start programs. Programs can start programs up to a depth. -/
def starter : Nat → Starter
  | 0, _, _ => .error .tryAgain
  | depth + 1, name, t =>
    let run (path : Bytes) : Except Errno Finish :=
      match image t.disk t.at_ maxInterpreters path t.zero t.args with
      | .error errno => .error errno
      | .ok i =>
        match program? i.program with
        | some program => .ok (after { t with
            zero := i.zero
            args := i.args } (program (starter depth)))
        | none => .error .noEntry
    search run t.environment name

/-- How deep programs can start programs. -/
def maxDepth : Nat := 40

/-! ## The runner -/

/-- What tools have printed. -/
structure Console where
  out : Bytes
  err : Bytes
deriving DecidableEq

/-- Nothing printed yet. -/
def Console.empty : Console := ⟨[], []⟩

/-- The outcome of an ending. -/
def outcome : Ending → Outcome
  | .exited code => .ofExit (code = 0) (some code)
  | .signalled _ => .ofExit false none
  | .expired => .timedOut

/-- The fault of a program that did not start. Absence has a fault of its own. -/
def notStarted (i : Invocation) (cause : Cause) : Fault :=
  if cause.isAbsence then .toolNotFound i.step i.program
  else .toolInvocation i.step "spawn" i.program cause

/-- Starts the program of an invocation and waits for its end. -/
def start (env : Environment) (at_ : Location) (d : Disk) (i : Invocation) :
    Except Cause Finish :=
  let name := Utf8.ofString i.program
  if name.contains 0 || i.args.any (·.contains 0) || i.workdir.bytes.contains 0 then
    .error .nulInArgument
  else match d.enter at_ i.workdir with
    | .error cause => .error cause
    | .ok dir =>
      (starter maxDepth name ⟨d, dir, env, name, i.args, [], false, i.timeoutMillis⟩).mapError
        .system

/-- The runner that starts programs in the directory each invocation names. -/
def system (env : Environment) (at_ : Location) : Runner Console := fun d console i =>
  match start env at_ d i with
  | .ok f =>
    ⟨f.disk, ⟨console.out ++ f.output .out, console.err ++ f.output .err⟩, .ok (outcome f.ending)⟩
  | .error cause => ⟨d, console, .error (notStarted i cause)⟩

/-! ## The machine -/

/-- A disk with nothing on it but the machine's own programs and the null device. -/
def machine : Disk :=
  let names := "sh" :: "dash" :: Utility.programs.map Prod.fst
  let programs (dir : Location) : List (Location × Entry) :=
    (dir, Entry.directory) :: names.map fun name => (dir ++ [Utf8.ofString name], .program name)
  let usr := Utf8.ofString "usr"
  let bin := Utf8.ofString "bin"
  let dev := Utf8.ofString "dev"
  ⟨programs [bin] ++ ([usr], .directory) :: programs [usr, bin] ++
    [([dev], .directory), ([dev, Utf8.ofString "null"], .null)], []⟩

end FreshBuild.Launch
