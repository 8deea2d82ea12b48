/-
# FreshBuild.Shell.Builtin.Arguments — the arguments of the shell's own commands.

Options stand in front of the other arguments, behind a hyphen, and a double hyphen ends them. A number
is written in decimal and is not negative.
-/
import FreshBuild.Shell.State

namespace FreshBuild.Shell.Builtin

open FreshBuild.Utility

/-- The options of a command: the letters without a value, and those with one. -/
structure Letters where
  plain : String
  valued : String

/-- The options of one argument, and whether the value of the last of them is still to come. -/
def Letters.ofArgument (l : Letters) : Bytes → Run (List (Char × Bytes) × Option Char)
  | [] => return ([], none)
  | b :: rest => do
    let c := Char.ofNat b.toNat
    if l.valued.contains c then
      return if rest = [] then ([], some c) else ([(c, rest)], none)
    else if l.plain.contains c then
      let (more, open_) ← l.ofArgument rest
      return ((c, []) :: more, open_)
    else Run.fail ["Illegal option -", [b]]

/-- The options with their values, and the other arguments. -/
def Letters.read (l : Letters) : List Bytes → Run (List (Char × Bytes) × List Bytes)
  | [] => return ([], [])
  | [0x2D, 0x2D] :: rest => return ([], rest)
  | (0x2D :: b :: letters) :: rest => do
    let (found, open_) ← l.ofArgument (b :: letters)
    match open_, rest with
    | none, rest =>
      let (more, operands) ← l.read rest
      return (found ++ more, operands)
    | some c, value :: rest =>
      let (more, operands) ← l.read rest
      return (found ++ (c, value) :: more, operands)
    | some c, [] => Run.fail ["No arg for -", [c.toUInt8], " option"]
  | operands => return ([], operands)

/-- The operands of a command without options. -/
def operandsOf (args : List Bytes) : Run (List Bytes) := return (← Letters.read ⟨"", ""⟩ args).2

/-- The largest number that a command takes. -/
def maxNumber : Int := Int.ofNat (Word.size 31) - 1

def noNumber {α : Type} (arg : Bytes) : Run α := Run.fail ["Illegal number: ", arg]

/-- The number that an argument spells, with blanks around it. -/
def numberOf (arg : Bytes) : Run Nat := do
  let trimmed := (arg.dropWhile Numeral.isSpace).reverse.dropWhile Numeral.isSpace |>.reverse
  match Numeral.decimal? trimmed with
  | some n => if 0 ≤ n && n ≤ maxNumber then return n.toNat else noNumber arg
  | none => noNumber arg

/-- The number in the first argument, if there is one. -/
def firstNumber (args : List Bytes) (other : Nat) : Run Nat :=
  match args with
  | arg :: _ => numberOf arg
  | [] => return other

/-- A text between single quotes, its own ones between double quotes. -/
def singleQuoted (s : Bytes) : Bytes :=
  let isQuote (b : UInt8) : Bool := b == 0x27
  let groups := s.splitBy fun a b => isQuote a == isQuote b
  let shown := groups.flatMap fun g =>
    if g.any isQuote then 0x22 :: g ++ [0x22] else 0x27 :: g ++ [0x27]
  if s.head?.all isQuote then 0x27 :: 0x27 :: shown else shown

/-- Is the text one of the strings? -/
def isOneOf (arg : Bytes) (strings : List String) : Bool := strings.any (Utf8.ofString · = arg)

end FreshBuild.Shell.Builtin
