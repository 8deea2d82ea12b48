/-
# FreshBuild.Shell.Opening — carrying out redirections.

The words of all redirections of a command are expanded first. Then the redirections are carried out
from left to right, each of them seeing the ones before it, and the first that fails ends it. A file
that is protected is not written over if the shell was told to protect files.
-/
import FreshBuild.Shell.Expansion

namespace FreshBuild.Shell

open FreshBuild.Utility

/-- A redirection with its words expanded. -/
inductive Turn where
  | file (descriptor : Nat) (mode : Mode) (path : Bytes)
  /-- To where another descriptor leads; without one the descriptor is closed. -/
  | duplicate (descriptor : Nat) (source : Option Nat)
  | document (descriptor : Nat) (number : Nat)

/-- The descriptor that is redirected. -/
def Turn.descriptor : Turn → Nat
  | .file d .. | .duplicate d _ | .document d _ => d

/-- A state with the descriptors of redirections as they were before. Others stay as they have
become. -/
def State.withDescriptorsOf (after before : State) (turns : List Turn) : State :=
  let isTurned (entry : Nat × Nat) : Bool := turns.any (·.descriptor == entry.1)
  { after with
    descriptors := before.descriptors.filter isTurned ++ after.descriptors.filter (!isTurned ·) }

/-- Expands the word of a redirection. -/
def Turn.of (output : Output) : Redirection → Run Turn
  | .file descriptor mode target => return .file descriptor mode (← wordValue output .first target)
  | .document descriptor number => return .document descriptor number
  | .duplicate descriptor target => do
    match ← wordValue output .first target with
    | [0x2D] => return .duplicate descriptor none
    | [b] =>
      if Numeral.isDigit b then return .duplicate descriptor (some (b.toNat - 0x30))
      else Run.failSyntax "Bad fd number"
    | _ => Run.failSyntax "Bad fd number"

/-- The words for a file that could not be opened, or made. -/
def openingReason (making : Bool) : Cause → Bytes
  | .system errno =>
    if errno = .noEntry || errno = .notDirectory then
      if making then "Directory nonexistent" else "No such file"
    else errno.text
  | cause => cause.message

/-- Complains about a file that could not be opened, or made. -/
def notOpened {α : Type} (making : Bool) (path : Bytes) (cause : Cause) : Run α :=
  Run.fail ["cannot ", if making then "create " else "open ", path, ": ", openingReason making cause]

/-- Opens a file for writing, after a change of its content. -/
def openForWriting (path : Bytes) (change : Bytes → Bytes) (append : Bool) : Run Stream := do
  let s ← get
  match s.world.disk.writeFile s.here ⟨path⟩ change false with
  | .error cause => notOpened true path cause
  | .ok disk =>
    Run.changeDisk disk
    match disk.target s.here ⟨path⟩ with
    | .ok (_, some .null) | .error _ => return .null
    | .ok (l, _) => return .file l 0 append

/-- Opens a file. -/
def openFile (mode : Mode) (path : Bytes) : Run Stream := do
  let s ← get
  let found := s.world.disk.inspect true s.here ⟨path⟩
  match mode with
  | .read =>
    match found with
    | .ok (_, .file content _) => return .source content true
    | .ok (_, .null) => return .null
    | .ok _ => return .source [] true
    | .error cause => notOpened false path cause
  | .write =>
    match s.hasOption 'C', found with
    | true, .ok (_, .file ..) | true, .ok (_, .program _) =>
      notOpened true path (.system .alreadyExists)
    | _, _ => openForWriting path (fun _ => []) false
  | .overwrite => openForWriting path (fun _ => []) false
  | .append => openForWriting path id true
  | .update => openForWriting path id false

/-- Carries out a redirection. -/
def Turn.apply (output : Output) : Turn → Run Unit
  | .file descriptor mode path => do Run.point descriptor (← Run.newStream (← openFile mode path))
  | .duplicate descriptor none =>
    modify fun s => { s with descriptors := s.descriptors.filter (·.1 != descriptor) }
  | .duplicate descriptor (some source) => do
    match (← get).descriptors.lookup source with
    | some stream => Run.point descriptor stream
    | none => Run.fail [numeral source, ": ", Errno.badDescriptor.text]
  | .document descriptor number => do
    let word := ((← get).world.documents.lookup number).getD []
    let content := spelled (← expand output maxNesting ⟨false, false, .none⟩ word)
    Run.point descriptor (← Run.newStream (.source content false))

end FreshBuild.Shell
