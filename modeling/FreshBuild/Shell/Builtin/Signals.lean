/-
# FreshBuild.Shell.Builtin.Signals — commands for signals and other processes.

A signal is known by its number and by its name. The end of a shell counts as signal zero among traps.
-/
import FreshBuild.Shell.Builtin.Arguments

namespace FreshBuild.Shell.Builtin

open FreshBuild.Utility

/-! ## Signals -/

/-- The names of the signals in order, from one on. -/
def signalNames : List String :=
  ["HUP", "INT", "QUIT", "ILL", "TRAP", "ABRT", "BUS", "FPE", "KILL", "USR1", "SEGV", "USR2", "PIPE",
    "ALRM", "TERM", "STKFLT", "CHLD", "CONT", "STOP", "TSTP", "TTIN", "TTOU", "URG", "XCPU", "XFSZ",
    "VTALRM", "PROF", "WINCH", "IO", "PWR", "SYS"]

/-- Signals without a name of their own. -/
def realTimeNames : List String :=
  let plus (n : Nat) : String := if n = 0 then "RTMIN" else "RTMIN+" ++ Digits.text n
  let minus (n : Nat) : String := if n = 0 then "RTMAX" else "RTMAX-" ++ Digits.text n
  ["32", "33"] ++ (List.range 16).map plus ++ (List.range 15).reverse.map minus

/-- The names of all signals and of the end of a shell. -/
def allNames : List String := "EXIT" :: signalNames ++ realTimeNames

/-- The name of a signal. -/
def signalName (signal : Nat) : Bytes := (allNames[signal]?).getD ""

/-- The signal that a number or a name in letters of either case stands for. -/
def signal? (least : Nat) (arg : Bytes) : Option Nat :=
  match (if arg.all Numeral.isDigit then Numeral.decimal? arg else none) with
  | some n => if least ≤ n.toNat && n.toNat < allNames.length then some n.toNat else none
  | none =>
    (allNames.zipIdx.find? fun (name, n) =>
      least ≤ n && Utf8.ofString name = capitals arg).map Prod.snd
where
  capitals (s : Bytes) : Bytes := s.map fun b => if 0x61 ≤ b && b ≤ 0x7A then b - 0x20 else b

/-- What a process that was ended by a signal is reported with; nothing for the two signals that
people and pipes use to end things. -/
def signalReport (signal : Nat) : Option String :=
  if signal = 2 || signal = 13 then none
  else some (((["Hangup", "Interrupt", "Quit", "Illegal instruction", "Trace/breakpoint trap",
    "Aborted", "Bus error", "Floating point exception", "Killed", "User defined signal 1",
    "Segmentation fault", "User defined signal 2", "Broken pipe", "Alarm clock", "Terminated",
    "Stack fault", "Child exited", "Continued", "Stopped (signal)", "Stopped", "Stopped (tty input)",
    "Stopped (tty output)", "Urgent I/O condition", "CPU time limit exceeded",
    "File size limit exceeded", "Virtual timer expired", "Profiling timer expired", "Window changed",
    "I/O possible", "Power failure", "Bad system call"] : List String)[signal - 1]?).getD
      ("Real-time signal " ++ Digits.text (signal - 34)))

/-- Another process has ended in front of the shell: the status, after a report if a signal has ended
it. A process that does not end keeps the shell waiting. -/
def reap (ending : Ending) : Run Nat := do
  match ending with
  | .exited code => return code % 256
  | .signalled signal =>
    match signalReport signal with
    | some report => Run.write 2 (Utf8.ofString report ++ [0x0A])
    | none => pure ()
    return 128 + signal
  | .expired => throw (.over .expired)

/-- A process does not mind the signal unless it has a trap for it. -/
def isHarmless (signal : Nat) : Bool :=
  signal = 0 || signal = 17 || signal = 18 || signal = 23 || signal = 28

/-! ## Traps -/

/-- The trap of a signal. -/
def trap? (s : State) (signal : Nat) : Option Bytes :=
  (s.traps.find? (·.signal == signal)).map Trap.action

def trap (args : List Bytes) : Run Nat := do
  let operands ← operandsOf args
  let s ← get
  match operands with
  | [] =>
    for (name, n) in allNames.zipIdx do
      match trap? s n with
      | some action =>
        Run.print (Utf8.ofString "trap -- " ++ singleQuoted action ++ 0x20 :: Utf8.ofString name ++ [0x0A])
      | none => pure ()
    return 0
  | first :: rest =>
    let isReset := rest = [] || first = [0x2D] ||
      first.all Numeral.isDigit && first != [] && (signal? 0 first).isSome
    let named := if rest = [] || first != [0x2D] && isReset then operands else rest
    let mut status := 0
    for arg in named do
      match signal? 0 arg with
      | none =>
        if status = 0 then
          Run.write 2 (Utf8.ofString "trap: " ++ arg ++ Utf8.ofString ": bad trap\n")
        status := 1
      | some n =>
        if status = 0 then
          modify fun s => { s with
            traps := (if isReset then [] else [⟨n, first⟩]) ++ s.traps.filter (·.signal != n) }
    return status

/-! ## Processes -/

/-- The number of the process that an argument names: its own, or a percent sign and the number of
the job. -/
def processOf (arg : Bytes) : Run Nat := do
  match arg with
  | 0x25 :: number =>
    let jobs := (← get).jobs
    let found := if number = [] || number = [0x25] || number = [0x2B] then jobs.getLast?
      else (Numeral.decimal? number).bind fun n => if n < 1 then none else jobs[n.toNat - 1]?
    match found with
    | some job => return job.process
    | none => Run.fail ["No such job: ", arg]
  | _ => numberOf arg

/-- The shell itself receives a signal. The copies of a shell leave it to the first one. -/
def receive (signal : Nat) : Run Unit := do
  let s ← get
  match trap? s signal with
  | some [] => if signal = 9 then throw (.over (.signalled signal)) else return
  | action =>
    if signal = 0 then return
    else if s.isCopy || action.isSome && signal != 9 then
      set { s with world := { s.world with pending := signal :: s.world.pending } }
    else if isHarmless signal then return
    else throw (.over (.signalled signal))

/-- Sends a signal to a process; the answer tells whether there is such a process. -/
def send (signal process : Nat) : Run Bool := do
  let s ← get
  if process = s.process || process = 0 then
    receive signal
    return true
  else match s.jobs.find? (·.process == process) with
    | none => return false
    | some job =>
      let now := s.world.spent
      if now < job.finished && !isHarmless signal then
        set { s with jobs := s.jobs.map fun (j : Job) =>
          if j.process = process then ⟨process, .signalled signal, now⟩ else j }
      return true

def killUsage : Bytes :=
  "Usage: kill [-s sigspec | -signum | -sigspec] [pid | job]... or\nkill -l [exitstatus]"

/-- Lists the names of the signals, or the one name that is asked for. -/
def listSignals : List Bytes → Run Nat
  | [] => do
    Run.print "0\n"
    for name in allNames.tail do
      Run.print (Utf8.ofString name ++ [0x0A])
    return 0
  | arg :: _ => do
    let n ← numberOf arg
    let n := if 128 < n then n - 128 else n
    if 0 < n && n < allNames.length then
      Run.print (signalName n ++ [0x0A])
      return 0
    else Run.fail ["invalid signal number or exit status: ", arg]

def kill (args : List Bytes) : Run Nat := do
  let direct : Option Nat := match args with
    | (0x2D :: name) :: _ => signal? 1 name
    | _ => none
  let (options, operands) ← match direct, args with
    | some _, _ :: rest => pure ([], rest)
    | _, args => Letters.read ⟨"l", "s"⟩ args
  let isList := options.any (·.1 == 'l')
  let named : Option Nat ← match (options.find? (·.1 == 's')).map Prod.snd with
    | some name =>
      match signal? 1 name with
      | some n => pure (some n)
      | none => Run.fail ["invalid signal number or name: ", name]
    | none => pure direct
  if isList then
    if named.isSome then Run.fail [killUsage] else listSignals operands
  else if operands = [] then Run.fail [killUsage]
  else
    let mut status := 0
    for arg in operands do
      let process ← match arg with
        | 0x2D :: rest => processOf rest
        | arg => processOf arg
      unless ← send (named.getD 15) process do
        Run.warn [Errno.noProcess.text, [0x0A]]
        status := 1
    return status

/-- Waits for a process; the answer is its status. -/
def waitFor (process : Nat) : Run (Option Nat) := do
  let s ← get
  match s.jobs.find? (·.process == process) with
  | none => return none
  | some job =>
    Run.spend (job.finished - s.world.spent)
    return some (← reap job.ending)

def wait (args : List Bytes) : Run Nat := do
  match ← operandsOf args with
  | [] =>
    let last := (← get).jobs.foldl (fun n job => max n job.finished) 0
    Run.spend (last - (← get).world.spent)
    return 0
  | operands =>
    let mut status := 127
    for arg in operands do
      status := (← waitFor (← processOf arg)).getD status
    return status

end FreshBuild.Shell.Builtin
