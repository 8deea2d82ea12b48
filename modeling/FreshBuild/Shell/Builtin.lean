/-
# FreshBuild.Shell.Builtin — the commands that a shell carries out itself.

What such a command prints is kept back until it is done, and what it complains about is not. A command
that fails with an error of the shell stops there; whether the shell stops with it depends on the
command.
-/
import FreshBuild.Shell.Builtin.Conditions
import FreshBuild.Shell.Builtin.Names
import FreshBuild.Shell.Builtin.Places
import FreshBuild.Shell.Builtin.Signals
import FreshBuild.Shell.Builtin.Variables
import FreshBuild.Utility.Format

namespace FreshBuild.Shell.Builtin

open FreshBuild.Utility

/-! ## Text -/

/-- Prints words with their escapes. -/
def echo (args : List Bytes) : Run Nat := do
  let isOpen := args.head? == some (Utf8.ofString "-n")
  let words := if isOpen then args.tail else args
  let (text, stop) := Reader.shell.argumentEscapes.apply ((words.intersperse [0x20]).flatten)
  Run.print (text ++ if isOpen || stop = .ended then [] else [0x0A])
  return 0

def printf (args : List Bytes) : Run Nat := do
  match ← operandsOf args with
  | [] => Run.fail ["usage: printf format [arg ...]"]
  | format :: args =>
    let (p, stop) := printFormat .shell format args
    for complaint in p.complaints do
      Run.warn [complaint]
    Run.print p.out
    match stop with
    | .senseless complaint => Run.fail [complaint]
    | _ => return if p.failed then 1 else 0

/-- A condition on the disk that the shell sees. -/
def test (bracket : Bool) (args : List Bytes) : Run Nat := do
  let s ← get
  let task : Task := ⟨s.world.disk, s.here, [], [], args, [], false, none⟩
  match testResult task bracket with
  | (status, none) => return status
  | (status, some complaint) => Run.failWith status [complaint]

/-! ## Leaving -/

/-- Leaves loops, or goes on with their next round. There may be fewer than asked for. -/
def leaveLoops (leaving : Nat → Leaving) (args : List Bytes) : Run Nat := do
  let n ← firstNumber args 1
  if n = 0 then noNumber (args.head?.getD [])
  else
    modify fun s => { s with
      leaving := if s.loops = 0 then s.leaving else some (leaving (min n s.loops)) }
    return 0

def return_ (args : List Bytes) : Run Nat := do
  let status ← firstNumber args (← get).status
  modify fun s => { s with leaving := some .function }
  return status

def exit (args : List Bytes) : Run Nat := do
  let status ← firstNumber args (← get).status
  modify fun s => { s with status }
  throw .exit

/-! ## The process -/

/-- The letters of permissions. -/
def permissionText (bits : Nat) : String :=
  String.join ([(4, "r"), (2, "w"), (1, "x")].map fun (bit, letter) =>
    if bits / bit % 2 = 1 then letter else "")

/-- The change that a text makes to the permissions that new files may have. -/
def changedPermissions (given : Nat) (text : List Char) : Option Nat :=
  let parts := text.splitBy fun a b => a != ',' && b != ','
  parts.foldlM (fun given part =>
    if part = [','] then some given
    else
      let who := part.takeWhile ['u', 'g', 'o', 'a'].contains
      let places := if who = [] || who.contains 'a' then ['u', 'g', 'o'] else who
      match part.drop who.length with
      | sign :: letters =>
        if !(['+', '-', '='].contains sign) || !(letters.all ['r', 'w', 'x'].contains) then none
        else
          let value := [('r', 4), ('w', 2), ('x', 1)].foldl (fun n (c, bit) =>
            if letters.contains c then n + bit else n) 0
          some (([('u', 64), ('g', 8), ('o', 1)] : List (Char × Nat)).foldl (fun n (c, unit) =>
            let old := given / unit % 8
            let new := if !places.contains c then old
              else match sign with
                | '+' => Nat.lor old value
                | '-' => Nat.land old (7 - value)
                | _ => value
            n + new * unit) 0)
      | [] => none) given

def umask (args : List Bytes) : Run Nat := do
  let (options, operands) ← Letters.read ⟨"S", ""⟩ args
  let mask := (← get).mask
  match operands with
  | [] =>
    if options != [] then
      let text := ["u", "g", "o"].zip [64, 8, 1] |>.map fun (who, unit) =>
        who ++ "=" ++ permissionText (7 - mask / unit % 8)
      Run.print (Utf8.ofString (String.intercalate "," text ++ "\n"))
    else
      let digits := radixDigits 8 mask
      Run.print (List.replicate (4 - digits.length) 0x30 ++ digits ++ [0x0A])
    return 0
  | arg :: _ =>
    if arg.head?.any Numeral.isDigit then
      if Numeral.digits 8 arg = arg && Numeral.value 8 arg < 512 then
        modify fun s => { s with mask := Numeral.value 8 arg }
        return 0
      else Run.fail ["Illegal number: ", arg]
    else match changedPermissions (511 - mask) (Text.ofBytes arg) with
      | some given =>
        modify fun s => { s with mask := 511 - given }
        return 0
      | none => Run.fail ["Illegal mode: ", arg]

def times : Run Nat := do
  let line : Bytes := "0m0.000000s 0m0.000000s\n"
  Run.print (line ++ line)
  return 0

def ulimit (args : List Bytes) : Run Nat := do
  let (_, operands) ← Letters.read ⟨"HStfdscmlpnvwr", ""⟩ args
  if operands = [] then Run.print "unlimited\n"
  return 0

/-! ## The table -/

/-- Carries out a command that runs no other commands. -/
def run? (name : String) (args : List Bytes) : Option (Run Nat) :=
  match name with
  | ":" | "true" => some (return 0)
  | "false" => some (return 1)
  | "[" => some (test true args)
  | "test" => some (test false args)
  | "alias" => some (alias_ args)
  | "break" => some (leaveLoops .loops args)
  | "cd" | "chdir" => some (cd args)
  | "continue" => some (leaveLoops .next args)
  | "echo" => some (echo args)
  | "exit" => some (exit args)
  | "export" => some (export_ args)
  | "getopts" => some (getopts args)
  | "hash" => some (hash args)
  | "jobs" => some (do
    let _ ← Letters.read ⟨"lp", ""⟩ args
    return 0)
  | "fg" | "bg" => some (Run.fail ["No current job"])
  | "kill" => some (kill args)
  | "local" => some (local_ args)
  | "printf" => some (printf args)
  | "pwd" => some (pwd args)
  | "read" => some (read args)
  | "readonly" => some (readonly_ args)
  | "return" => some (return_ args)
  | "set" => some (set_ args)
  | "shift" => some (shift args)
  | "times" => some times
  | "trap" => some (trap args)
  | "type" => some (type_ args)
  | "ulimit" => some (ulimit args)
  | "umask" => some (umask args)
  | "unalias" => some (unalias args)
  | "unset" => some (unset args)
  | "wait" => some (wait args)
  | _ => none

end FreshBuild.Shell.Builtin
