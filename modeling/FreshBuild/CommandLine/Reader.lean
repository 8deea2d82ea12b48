/-
# FreshBuild.CommandLine.Reader — reading a command line.

Arguments are read from left to right, and the first one that asks for help or the version, or that
is wrong, decides. A value that is attached to its option is judged at once. A value that is an
argument of its own is judged one step later: when the next known option is met or the arguments end.
So an argument that has no meaning at all is reported before a bad value right in front of it.

The environment is asked last, and only about an option that was not given.
-/
import FreshBuild.CommandLine.Options
import FreshBuild.Environment

namespace FreshBuild.CommandLine

/-! ## Arguments -/

/-- What an argument is, by its look alone. -/
inductive Argument where
  /-- No later argument is an option. -/
  | separator
  | setting (s : Setting) (attached : Option Bytes)
  | flag (f : Flag)
  | help
  | version
  /-- A value attached to an option that takes none. -/
  | needless (option : String) (value : Bytes)
  | unknown
  /-- No option; the lone hyphen is one of these. -/
  | operand
deriving DecidableEq

def hyphen : UInt8 := 0x2D
def equalsSign : UInt8 := 0x3D

/-- The part behind the first equals sign. -/
def attached? (arg : Bytes) : Option Bytes :=
  match arg.dropWhile (· != equalsSign) with
  | _ :: value => some value
  | [] => none

/-- An option by its long name, read after its two hyphens. -/
def longOption (arg : Bytes) : Argument :=
  let value := attached? arg
  let without (option : String) (a : Argument) : Argument :=
    value.elim a (.needless option)
  match Utf8.lossy (arg.takeWhile (· != equalsSign)) with
  | "root" => .setting .root value
  | "config" => .setting .config value
  | "jobs" => .setting .jobs value
  | "check" => without Flag.check.usage (.flag .check)
  | "dry-run" => without Flag.dryRun.usage (.flag .dryRun)
  | "json" => without Flag.json.usage (.flag .json)
  | "help" => without "--help" .help
  | "version" => without "--version" .version
  | _ => .unknown

/-- An option by its letter, read after its hyphen. What follows `j` is its value, with or without
an equals sign; what follows the other two letters comes too late to matter. -/
def shortOption (letter : UInt8) (rest : Bytes) : Argument :=
  if letter = 0x6A then
    .setting .jobs <| match rest with
      | [] => none
      | b :: value => some (if b = equalsSign then value else b :: value)
  else if letter = 0x68 then .help
  else if letter = 0x56 then .version
  else .unknown

/-- What an argument looks like. -/
def Argument.of (arg : Bytes) : Argument :=
  match arg with
  | a :: b :: rest =>
    if a != hyphen then .operand
    else if b != hyphen then shortOption b rest
    else if rest = [] then .separator
    else longOption rest
  | _ => .operand

/-! ## Options read so far -/

/-- The options read so far. -/
structure Given where
  root : Option Path
  config : Option Path
  jobs : Option Jobs
  flags : List Flag

/-- Nothing is given yet. -/
def Given.nothing : Given := ⟨none, none, none, []⟩

/-- A path as a value; it must not be empty. -/
def pathValue (s : Setting) (value : Bytes) : Except UsageError Path :=
  if value = [] then .error (.missing s) else .ok ⟨value⟩

/-- A job count as a value. -/
def jobsValue (value : Bytes) : Except UsageError Jobs :=
  match Utf8.decode? value with
  | none => .error .notText
  | some chars =>
    (Jobs.parse (String.ofList chars)).mapError (.invalidJobs (String.ofList chars))

namespace Given

def has (g : Given) : Setting → Bool
  | .root => g.root.isSome
  | .config => g.config.isSome
  | .jobs => g.jobs.isSome

/-- Gives a setting its value, which it must not have yet. -/
def give (g : Given) (s : Setting) (value : Bytes) : Except UsageError Given :=
  if g.has s then .error (.repeated s.usage)
  else match s with
    | .root => (pathValue s value).map fun p => { g with root := some p }
    | .config => (pathValue s value).map fun p => { g with config := some p }
    | .jobs => (jobsValue value).map fun j => { g with jobs := some j }

/-- Raises a flag, which must not be up yet. -/
def raise (g : Given) (f : Flag) : Except UsageError Given :=
  if g.flags.contains f then .error (.repeated f.usage) else .ok { g with flags := g.flags ++ [f] }

end Given

/-- A setting whose value has not been judged, or not even been met. -/
abbrev Pending := Option (Setting × Option Bytes)

/-- Judges what is pending. -/
def settle (g : Given) : Pending → Except UsageError Given
  | none => .ok g
  | some (s, none) => .error (.missing s)
  | some (s, some value) => g.give s value

/-! ## Reading -/

/-- The answer of a reading: the options, or a text that was asked for. -/
inductive Reading where
  | options (g : Given)
  | help
  | version

/-- Reads arguments. -/
def readArgs : Given → Pending → List Bytes → Except UsageError Reading
  | g, pending, [] => (settle g pending).map .options
  | g, pending, arg :: rest =>
    match Argument.of arg with
    | .separator =>
      match rest with
      | [] => (settle g pending).map .options
      | operand :: _ => .error (.unexpected operand)
    | .unknown => .error (.unexpected arg)
    | .needless option value => .error (.needless option value)
    | .operand =>
      match pending with
      | some (s, none) => readArgs g (some (s, some arg)) rest
      | _ => .error (.unexpected arg)
    | .help => (settle g pending).map fun _ => .help
    | .version => (settle g pending).map fun _ => .version
    | .flag f => do
      let g ← settle g pending
      let g ← g.raise f
      readArgs g none rest
    | .setting s none => do
      let g ← settle g pending
      readArgs g (some (s, none)) rest
    | .setting s (some value) => do
      let g ← settle g pending
      let g ← g.give s value
      readArgs g none rest

/-- The options with the environment asked about what was not given. -/
def complete (env : Environment) (g : Given) : Except UsageError Options := do
  let root ← match g.root, env.value? rootVariable with
    | some p, _ => pure p
    | none, some value => pathValue .root value
    | none, none => pure Options.standard.root
  let jobs ← match g.jobs, env.value? jobsVariable with
    | some j, _ => pure (some j)
    | none, some value => (jobsValue value).map some
    | none, none => pure none
  return { root, jobs
           config := g.config
           check := g.flags.contains .check
           dryRun := g.flags.contains .dryRun
           json := g.flags.contains .json }

/-- Reads a command line. -/
def read (env : Environment) (args : List Bytes) : Except UsageError Request := do
  match ← readArgs .nothing none args with
  | .options g => (complete env g).map .run
  | .help => return .help
  | .version => return .version

end FreshBuild.CommandLine
