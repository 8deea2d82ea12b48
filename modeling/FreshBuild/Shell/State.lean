/-
# FreshBuild.Shell.State — a shell between two commands.

A shell shares some things with the shells it starts for parts of a script: the disk, the outputs, the
places its descriptors lead to, and the time. All else is its own, and a copy of it can be changed
without anybody noticing. Running a command is a function on the state that can be cut short, and what
was done before the cut stays done.
-/
import FreshBuild.Disk.Operations
import FreshBuild.Shell.Grammar
import FreshBuild.Task
import FreshBuild.Text.Numeral
import FreshBuild.Utility.Naming
import FreshBuild.Word

namespace FreshBuild.Shell

open FreshBuild.Utility

/-! ## What shells share -/

/-- Where a descriptor leads. -/
inductive Stream where
  /-- An output of the first shell. -/
  | port (p : Port)
  /-- An input that is read from its front; it may be that of a file. -/
  | source (left : Bytes) (isFile : Bool)
  | file (at_ : Location) (offset : Nat) (append : Bool)
  | null
  /-- An output that somebody is going to read, in pieces, the latest first. -/
  | gathered (pieces : List Bytes)
deriving Inhabited

/-- What a shell shares with the shells it starts. -/
structure World where
  disk : Disk
  /-- What has been written to the outputs, the latest first. -/
  written : List (Port × Bytes)
  streams : Array Stream
  /-- The milliseconds spent, and those that may be spent. -/
  spent : Nat
  limit : Option Nat
  /-- The steps that loops may still take. -/
  budget : Nat
  /-- The documents of the scripts that were read, by number. -/
  documents : List (Nat × Word)
  nextDocument : Nat
  /-- The number of the next process. -/
  nextProcess : Nat
  /-- The signals that the first shell was sent and has not dealt with, the latest first. -/
  pending : List Nat

/-! ## What a shell has of its own -/

/-- A variable. One without a value has been mentioned and not set. -/
structure Variable where
  value : Option Bytes
  exported : Bool
  readOnly : Bool

abbrev Variables := List (String × Variable)

/-- What is passed over on the way out of loops, functions and sourced files. -/
inductive Leaving where
  | loops (left : Nat)
  | next (left : Nat)
  | function
deriving DecidableEq

/-- A process in the background: how it ended, and when. -/
structure Job where
  process : Nat
  ending : Ending
  finished : Nat

/-- What is to be done about a signal; the end of the shell counts as signal zero. -/
structure Trap where
  signal : Nat
  action : Bytes

structure State where
  world : World
  station : Station
  /-- The current directory as it was entered. -/
  directory : Bytes
  descriptors : List (Nat × Nat)
  variables_ : Variables
  functions : List (String × (Nat × Node))
  /-- The name in complaints, which is also parameter zero. -/
  zero : Bytes
  args : List Bytes
  status : Nat
  /-- The letters of the options that are set. -/
  options : List Char
  traps : List Trap
  aliases : List (Bytes × Bytes)
  jobs : List Job
  lastJob : Option Nat
  process : Nat
  /-- The line of the command. -/
  line : Nat
  /-- The line up to which the script has been read. -/
  sourceLine : Nat
  /-- The script is an argument of the shell. -/
  isArgument : Bool
  leaving : Option Leaving
  /-- The loops around the command, in its function. -/
  loops : Nat
  /-- The variables that commands have made their own, with what they were before. -/
  locals : List (List (String × Option Variable))
  /-- The command that complaints name. -/
  command : Option Bytes
  /-- The status of the last command whose output was used. -/
  lastOutput : Nat
  /-- The number of the argument that `getopts` is at, and the letters of it that are behind. -/
  optionIndex : Nat
  optionOffset : Option Nat
  /-- What a command of the shell's own has printed, the latest first. -/
  printed : List Bytes
  /-- The permissions that new files lack. -/
  mask : Nat
  /-- A copy runs a part of a script for another shell. -/
  isCopy : Bool

/-- Why running is cut short. -/
inductive Abort where
  /-- The shell exits with its status. -/
  | exit
  /-- An error that ends the shell unless a command of its own ran into it. -/
  | error
  /-- The process is over: nothing else happens. -/
  | over (ending : Ending)

/-- Running something. -/
abbrev Run := EStateM Abort State

/-! ## Variables -/

namespace State

/-- The current directory on the disk. -/
def here (s : State) : Location := s.station.here s.world.disk

def lookup? (s : State) (name : String) : Option Bytes :=
  (s.variables_.lookup name).bind Variable.value

/-- Changes a variable, or makes it. -/
def modifyVariable (s : State) (name : String) (change : Variable → Variable) : State :=
  if (s.variables_.lookup name).isSome then
    { s with variables_ := s.variables_.map fun (n, v) => (n, if n = name then change v else v) }
  else { s with variables_ := s.variables_ ++ [(name, change ⟨none, false, false⟩)] }

def hasOption (s : State) (letter : Char) : Bool := s.options.contains letter

/-- Sets a variable without asking whether it may be set. -/
def assign (s : State) (name : String) (value : Bytes) : State :=
  s.modifyVariable name fun v =>
    { v with value := some value, exported := v.exported || s.hasOption 'a' }

/-- Sets a variable for the script. A new number of an option starts that argument afresh. -/
def assignForScript (s : State) (name : String) (value : Bytes) : State :=
  let s := s.assign name value
  if name = "OPTIND" then
    { s with
      optionIndex := max 1 (((Numeral.decimal? value).map Int.toNat).getD 1)
      optionOffset := none }
  else s

/-- The characters at which fields are cut. -/
def separators (s : State) : Bytes := (s.lookup? "IFS").getD [0x20, 0x09, 0x0A]

/-- The place of a variable among those that programs are given: names are sorted into 39 groups by a
sum of their characters, in which the first counts sixteenfold. -/
def bucket (name : String) : Nat :=
  match name.toList with
  | [] => 0
  | c :: rest => (rest.foldl (fun n d => n + d.toNat) (c.toNat * 16 + c.toNat)) % 39

/-- The variables that programs are given. -/
def environment (s : State) : Environment :=
  let exported := s.variables_.filterMap fun (name, v) =>
    if v.exported then v.value.map (name, ·) else none
  (List.range 39).flatMap fun n => exported.filter fun (name, _) => bucket name = n

end State

/-! ## Writing -/

/-- The content of a file with bytes written at an offset. -/
def overwritten (content : Bytes) (offset : Nat) (bytes : Bytes) : Bytes :=
  content.take offset ++ List.replicate (offset - content.length) 0 ++ bytes ++
    content.drop (offset + bytes.length)

/-- Writes to a stream. -/
def World.write (w : World) (stream : Nat) (bytes : Bytes) : World :=
  if bytes = [] then w
  else match w.streams[stream]? with
    | some (.port p) => { w with written := (p, bytes) :: w.written }
    | some (.gathered pieces) =>
      { w with streams := w.streams.setIfInBounds stream (.gathered (bytes :: pieces)) }
    | some (.file at_ offset append) =>
      match w.disk.get? at_ with
      | some (.file content x) =>
        let offset := if append then content.length else offset
        { w with
          disk := w.disk.put at_ (.file (overwritten content offset bytes) x)
          streams := w.streams.setIfInBounds stream (.file at_ (offset + bytes.length) append) }
      | _ => w
    | _ => w

namespace Run

/-- The descriptor can be written to. -/
def isWritable (descriptor : Nat) : Run Bool := do
  let s ← get
  match (s.descriptors.lookup descriptor).bind (s.world.streams[·]?) with
  | some (.source ..) | none => return false
  | _ => return true

/-- Writes to a descriptor; one that is closed takes nothing. -/
def write (descriptor : Nat) (bytes : Bytes) : Run Unit := do
  let s ← get
  match s.descriptors.lookup descriptor with
  | some stream => set { s with world := s.world.write stream bytes }
  | none => return

/-- The front of a complaint: the name, the line and the command. -/
def complaintFront : Run Bytes := do
  let s ← get
  let front : List Bytes := [s.zero, ": ", numeral s.line, ": "]
  let name : List Bytes := match s.command with
    | some name => [name, ": "]
    | none => []
  return (front ++ name).flatten

/-- Complains, and goes on. -/
def warn (parts : List Bytes) : Run Unit := do
  write 2 ((← complaintFront) ++ parts.flatten ++ [0x0A])

/-- Complains, and gives up with a status. -/
def failWith {α : Type} (status : Nat) (parts : List Bytes) : Run α := do
  warn parts
  modify fun s => { s with status }
  throw .error

/-- Prints for a command of the shell's own. -/
def print (bytes : Bytes) : Run Unit :=
  modify fun s => { s with printed := if bytes = [] then s.printed else bytes :: s.printed }

/-- Complains, and gives up. -/
def fail {α : Type} (parts : List Bytes) : Run α := failWith 2 parts

/-- Complains about the script as it was read. -/
def failSyntax {α : Type} (words : Bytes) : Run α := do
  modify fun s => { s with line := s.sourceLine }
  fail ["Syntax error: ", words]

/-- A new stream, and its number. -/
def newStream (stream : Stream) : Run Nat := do
  let s ← get
  set { s with world := { s.world with streams := s.world.streams.push stream } }
  return s.world.streams.size

/-- Lets a descriptor lead to a stream. -/
def point (descriptor stream : Nat) : Run Unit :=
  modify fun s => { s with
    descriptors := (descriptor, stream) :: s.descriptors.filter (·.1 != descriptor) }

def changeDisk (disk : Disk) : Run Unit :=
  modify fun s => { s with world := { s.world with disk } }

/-- Sets a variable, unless it is protected. -/
def assign (name : String) (value : Bytes) : Run Unit := do
  let s ← get
  if (s.variables_.lookup name).any Variable.readOnly then
    fail [Utf8.ofString name, ": is read only"]
  else set (s.assignForScript name value)

/-- Time goes by, and may be up. -/
def spend (millis : Nat) : Run Unit := do
  let s ← get
  let spent := s.world.spent + millis
  set { s with world := { s.world with spent } }
  if s.world.limit.any (· < spent) then throw (.over .expired) else return

/-- Takes a step of a loop. A loop that goes on and on is stopped when its time is up. -/
def step : Run Unit := do
  let s ← get
  match s.world.budget with
  | 0 => throw (.over .expired)
  | budget + 1 => set { s with world := { s.world with budget } }

end Run

/-! ## Reading -/

/-- What can still be read from a descriptor, and whether it is a file. -/
def State.input (s : State) (descriptor : Nat) : Bytes × Bool :=
  match (s.descriptors.lookup descriptor).bind (s.world.streams[·]?) with
  | some (.source left isFile) => (left, isFile)
  | some (.file at_ offset _) =>
    match s.world.disk.get? at_ with
    | some (.file content _) => (content.drop offset, true)
    | _ => ([], true)
  | some .null => ([], false)
  | _ => ([], false)

/-- Goes over what was read: of what could be read only so many bytes are left. -/
def State.consume (s : State) (descriptor : Nat) (left : Nat) : State :=
  match s.descriptors.lookup descriptor with
  | none => s
  | some n =>
    let stream := match s.world.streams[n]? with
      | some (.source bytes isFile) => some (Stream.source (bytes.drop (bytes.length - left)) isFile)
      | some (.file at_ offset append) =>
        some (.file at_ (offset + ((s.input descriptor).1.length - left)) append)
      | _ => none
    match stream with
    | some stream =>
      { s with world := { s.world with streams := s.world.streams.setIfInBounds n stream } }
    | none => s

end FreshBuild.Shell
