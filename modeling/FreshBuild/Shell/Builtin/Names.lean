/-
# FreshBuild.Shell.Builtin.Names — commands about the names of commands.

A name at the front of a command can be a keyword, an alias, a function, a command of the shell's own
or a program, and the first of these counts.
-/
import FreshBuild.Shell.Builtin.Arguments
import FreshBuild.Shell.Finding

namespace FreshBuild.Shell.Builtin

open FreshBuild.Utility

/-! ## Aliases -/

/-- How an alias is shown. -/
def aliasText (name value : Bytes) : Bytes := name ++ 0x3D :: singleQuoted value ++ [0x0A]

/-- The aliases in the order in which they are listed, that of the variables of programs. -/
def listedAliases (s : State) : List (Bytes × Bytes) :=
  (List.range 39).flatMap fun n => s.aliases.filter fun (name, _) =>
    State.bucket (Utf8.lossy name) = n

def alias_ (args : List Bytes) : Run Nat := do
  if args = [] then
    for (name, value) in listedAliases (← get) do
      Run.print (aliasText name value)
    return 0
  else
    let mut status := 0
    for arg in args do
      let s ← get
      match arg with
      | first :: rest =>
        let name := first :: rest.takeWhile (· != 0x3D)
        match rest.dropWhile (· != 0x3D), s.aliases.lookup arg with
        | _ :: value, _ =>
          set { s with aliases :=
            if (s.aliases.lookup name).isSome then
              s.aliases.map fun (n, v) => (n, if n = name then value else v)
            else s.aliases ++ [(name, value)] }
        | [], some value => Run.print (aliasText arg value)
        | [], none =>
          Run.write 2 (Utf8.ofString "alias: " ++ arg ++ Utf8.ofString " not found\n")
          status := 1
      | [] =>
        Run.write 2 (Utf8.ofString "alias:  not found\n")
        status := 1
    return status

def unalias (args : List Bytes) : Run Nat := do
  let (options, operands) ← Letters.read ⟨"a", ""⟩ args
  if options != [] then
    modify fun s => { s with aliases := [] }
    return 0
  else
    let mut status := 0
    for arg in operands do
      let s ← get
      if (s.aliases.lookup arg).isSome then
        set { s with aliases := s.aliases.filter (·.1 != arg) }
      else
        Run.write 2 (Utf8.ofString "unalias: " ++ arg ++ Utf8.ofString " not found\n")
        status := 1
    return status

/-! ## Descriptions -/

/-- How a name is described. -/
inductive Wording where
  | short
  | long
deriving DecidableEq

/-- Describes what a name means; the answer is the status. -/
def describe (wording : Wording) (searchPath name : Bytes) : Run Nat := do
  let s ← get
  let print (short : Bytes) (long : String) : Run Nat := do
    Run.print ((if wording = .short then short else name ++ Utf8.ofString long) ++ [0x0A])
    return 0
  let absent : Run Nat := do
    if wording = .long then Run.print (name ++ Utf8.ofString ": not found\n")
    return 127
  let program (path : Bytes) : Run Nat := do
    Run.print ((if wording = .short then path else name ++ Utf8.ofString " is " ++ path) ++ [0x0A])
    return 0
  if isOneOf name Token.keywords then print name " is a shell keyword"
  else match s.aliases.lookup name with
    | some value =>
      if wording = .short then
        Run.print (Utf8.ofString "alias " ++ aliasText name value)
      else
        Run.print (name ++ Utf8.ofString " is an alias for " ++ value ++ [0x0A])
      return 0
    | none =>
      match Found.of s searchPath true name with
      | .function .. => print name " is a shell function"
      | .own true => print name " is a special shell builtin"
      | .own false => print name " is a shell builtin"
      | .missing _ => absent
      | .program paths =>
        match paths with
        | [path] =>
          if path.contains Path.slash && (s.world.disk.inspect true s.here ⟨path⟩).toOption.isNone then
            absent
          else program path
        | path :: _ => program path
        | [] => absent

def type_ (args : List Bytes) : Run Nat := do
  let mut status := 0
  for arg in args do
    let n ← describe .long (← get).searchPath arg
    status := if n = 0 then status else n
  return status

/-- The arguments of `command`: the wording, if a description is asked for, whether the standard
path counts, and the operands. -/
def commandOptions (args : List Bytes) : Run (Option Wording × Bool × List Bytes) := do
  let (options, operands) ← Letters.read ⟨"pvV", ""⟩ args
  let wording : Option Wording :=
    if options.any (·.1 == 'V') then some .long
    else if options.any (·.1 == 'v') then some .short
    else none
  return (wording, options.any (·.1 == 'p'), operands)

/-- Looks programs up. -/
def hash (args : List Bytes) : Run Nat := do
  let (_, operands) ← Letters.read ⟨"r", ""⟩ args
  let mut status := 0
  for arg in operands do
    match Found.of (← get) (← get).searchPath true arg with
    | .missing errno =>
      Run.warn [arg, ": ", programReason errno]
      status := 1
    | _ => pure ()
  return status

end FreshBuild.Shell.Builtin
