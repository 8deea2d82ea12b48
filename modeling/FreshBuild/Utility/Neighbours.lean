/-
# FreshBuild.Utility.Neighbours — lines that repeat.

Neighbouring lines count as the same if the parts of them that are compared are. A run of such lines
appears as its first line, with its length if that is asked for.
-/
import FreshBuild.Utility.Sorting

namespace FreshBuild.Utility

/-- What is compared of a line: what is left behind some fields and bytes, up to a length. -/
structure Compared where
  fields : Nat
  bytes : Nat
  length : Option Nat
  folded : Bool

def Compared.part (c : Compared) (line : Bytes) : Bytes :=
  let rest := (((sortFields none line).drop c.fields).flatten).drop c.bytes
  let part := (c.length.map rest.take).getD rest
  if c.folded then part.map upperCase else part

/-- Runs of neighbouring lines with the same part. -/
def Compared.runs (c : Compared) (lines : List Bytes) : List (List Bytes) :=
  lines.splitBy fun a b => c.part a = c.part b

/-- The count that an option gives, or a complaint about it. -/
def countOf (g : Given) (letter : Char) (what : String) : Except (List Bytes) (Option Nat) :=
  match g.value? letter with
  | none => .ok none
  | some text =>
    match Numeral.decimal? text with
    | some n => if n < 0 then .error [text, ": invalid number of ", what] else .ok (some n.toNat)
    | none => .error [text, ": invalid number of ", what]

/-- What the options have compared. -/
def Compared.ofOptions (g : Given) : Except (List Bytes) Compared := do
  let fields ← countOf g 'f' "fields to skip"
  let bytes ← countOf g 's' "bytes to skip"
  let length ← countOf g 'w' "bytes to compare"
  return ⟨fields.getD 0, bytes.getD 0, length, g.has 'i'⟩

/-- The lines that appear for a run. -/
def runText (g : Given) (lineEnd : UInt8) (run : List Bytes) : Bytes :=
  let line := run.head?.getD []
  if g.has 'D' then
    if run.length < 2 then [] else run.flatMap (· ++ [lineEnd])
  else if g.has 'd' && run.length < 2 || g.has 'u' && 1 < run.length then []
  else (if g.has 'c' then padded 7 (numeral run.length) ++ [0x20] else []) ++ line ++ [lineEnd]

/-- Leaves one of several equal lines that follow each other. The file for the result is emptied before
anything is read. -/
def uniq : Task → Finish :=
  withOptions ⟨"cdDiuz", "fsw", [("all-repeated", 'D', .perhaps), ("check-chars", 'w', .value),
      ("count", 'c', .nothing), ("ignore-case", 'i', .nothing), ("repeated", 'd', .nothing),
      ("skip-chars", 's', .value), ("skip-fields", 'f', .value), ("unique", 'u', .nothing),
      ("zero-terminated", 'z', .nothing)], false⟩ 1 fun g t =>
    let failed (w : Work) (parts : List Bytes) : Finish := ((w.complain parts).fail 1).finish
    let source := g.operands.head?.getD [0x2D]
    let result? := (g.operands[1]?).filter (· != [0x2D])
    let lineEnd : UInt8 := if g.has 'z' then 0 else 0x0A
    let store (w : Work) (text : Bytes) : Except Cause Work := match result? with
      | none => .ok (w.print text)
      | some file => (w.task.disk.writeFile w.task.at_ ⟨file⟩ (fun _ => text) false).map w.withDisk
    match Compared.ofOptions g, g.operands with
    | .error complaint, _ => failed t.begin complaint
    | .ok _, _ :: _ :: extra :: _ => refuse t 1 ["extra operand ", cited extra]
    | .ok c, _ =>
      if g.has 'c' && g.has 'D' then
        refuse t 1 ["printing all duplicated lines and repeat counts is meaningless"]
      else
        let isDirectory (cause : Cause) : Bool := cause == .system .isDirectory
        match (t.begin.readOperand source).1.mapError isDirectory, store t.begin [] with
        | .error false, _ =>
          match t.begin.readOperand source with
          | (.error cause, w) => failed w [named source, ": ", reason cause]
          | (.ok _, w) => w.finish
        | _, .error cause => failed t.begin [named (result?.getD []), ": ", reason cause]
        | _, .ok w =>
          match w.readOperand source with
          | (.error cause, w) => failed w ["error reading ", quoted source, ": ", reason cause]
          | (.ok content, w) =>
            let text := (c.runs (contentsUpTo lineEnd content)).flatMap (runText g lineEnd)
            ((store w text).toOption.getD w).finish

end FreshBuild.Utility
