/-
# FreshBuild.Utility.Tests — the program `test`.

How many arguments there are decides how they are read. Up to four of them have fixed shapes, so that
any of them may be an operand whatever it looks like; more of them, and those that a conjunction
joins, are read from left to right by precedence. What stands in parentheses is counted again.
-/
import FreshBuild.Text.Numeral
import FreshBuild.Utility.Conditions
import FreshBuild.Utility.Options

namespace FreshBuild.Utility

/-- Why a test cannot be carried out. -/
inductive TestFault where
  /-- The arguments end too early; this is the last of them. -/
  | missingArgument (last : Bytes)
  | noUnary (arg : Bytes)
  | noBinary (arg : Bytes)
  | noNumber (arg : Bytes)
  | unclosed (found : Option Bytes)
  | extra (arg : Bytes)
  | unbracketed

/-- The complaint about a test. -/
def TestFault.words : TestFault → List Bytes
  | .missingArgument last => ["missing argument after ", cited last]
  | .noUnary arg => [cited arg, ": unary operator expected"]
  | .noBinary arg => [cited arg, ": binary operator expected"]
  | .noNumber arg => ["invalid integer ", cited arg]
  | .unclosed none => ["')' expected"]
  | .unclosed (some found) => ["')' expected, found ", cited found]
  | .extra arg => ["extra argument ", cited arg]
  | .unbracketed => ["missing ']'"]

/-- What a test is judged by: the process, its last argument, and the bracket behind it, if any. -/
structure Trial where
  task : Task
  last : Bytes
  bracket : Option Bytes

/-- The truth of a part of a test, and the arguments behind it. -/
abbrev Verdict := Except TestFault (Bool × List Bytes)

/-- The truth of a part, turned round. -/
def Verdict.negated (v : Verdict) : Verdict := v.map fun (truth, rest) => (!truth, rest)

/-- The argument is an operator between two operands. -/
def isBinary (arg : Bytes) : Bool :=
  isAmong ["=", "==", "!=", "-nt", "-ot", "-ef", "-eq", "-ne", "-lt", "-le", "-gt", "-ge"] arg

/-- A number of any size, with blanks around it. -/
def testNumber (arg : Bytes) : Except TestFault Int :=
  let isBlank (b : UInt8) : Bool := b == 0x20 || b == 0x09
  let bare := ((arg.dropWhile isBlank).reverse.dropWhile isBlank).reverse
  match Numeral.decimal? bare with
  | some n => .ok n
  | none => .error (.noNumber arg)

namespace Trial

/-- The arguments end too early. -/
def short {α : Type} (c : Trial) : Except TestFault α := .error (.missingArgument c.last)

/-- A hyphen with one letter, and its operand. -/
def unary (c : Trial) : List Bytes → Verdict
  | [0x2D, letter] :: operands =>
    if !("edfrwxsSNOGcbpLhugktnz".toUTF8.toList.contains letter) then
      .error (.noUnary [0x2D, letter])
    else match operands with
      | [] => c.short
      | operand :: rest => do
        if letter = 0x74 then
          let _ ← testNumber operand
        return (unaryHolds c.task letter operand, rest)
  | _ => c.short

/-- An operator between its two operands. -/
def binary (c : Trial) : List Bytes → Verdict
  | a :: op :: b :: rest => do
    let exists_ (p : Bytes) : Bool := fileHolds c.task.disk c.task.at_ 'e' p
    match Utf8.lossy op with
    | "=" | "==" => return (a == b, rest)
    | "!=" => return (a != b, rest)
    | "-ef" => return (isSameFile c.task a b, rest)
    | "-nt" => return (exists_ a && !exists_ b, rest)
    | "-ot" => return (!exists_ a && exists_ b, rest)
    | word =>
      match numberRelation? word with
      | some relation =>
        let x ← testNumber a
        let y ← testNumber b
        return (relation x y, rest)
      | none => .error (.noBinary op)
  | _ => c.short

/-- One argument is true if it has a character in it. -/
def one (c : Trial) : List Bytes → Verdict
  | arg :: rest => .ok (arg != [], rest)
  | [] => c.short

/-- Two arguments are a negation, or an operator with its operand. -/
def two (c : Trial) : List Bytes → Verdict
  | [0x21] :: rest => (c.one rest).negated
  | args => c.unary args

/-- The parts of a test, from the loosest binding to the tightest, and those that have a number of
arguments. -/
inductive Part where
  | disjunction
  | conjunction
  | term
  | counted (n : Nat)

/-- Judges the part at the front of the arguments. Every step inwards costs one unit of `fuel`. -/
def judge (c : Trial) : Nat → Part → List Bytes → Verdict
  | 0, _, args => .ok (false, args)
  | fuel + 1, .disjunction, args => do
    let (left, rest) ← c.judge fuel .conjunction args
    match rest with
    | [0x2D, 0x6F] :: more =>
      let (right, rest) ← c.judge fuel .disjunction more
      return (left || right, rest)
    | rest => return (left, rest)
  | fuel + 1, .conjunction, args => do
    let (left, rest) ← c.judge fuel .term args
    match rest with
    | [0x2D, 0x61] :: more =>
      let (right, rest) ← c.judge fuel .conjunction more
      return (left && right, rest)
    | rest => return (left, rest)
  | fuel + 1, .term, args => do
    match args with
    | [] => c.short
    | [0x21] :: rest => (c.judge fuel .term rest).negated
    | [0x28] :: [] => c.short
    | [0x28] :: inner =>
      let n := (inner.tail.takeWhile (· != [0x29])).length + 1
      let (truth, rest) ← c.judge fuel (.counted (if n > 4 then inner.length else n)) inner
      match rest with
      | [] => .error (.unclosed c.bracket)
      | [0x29] :: rest => return (truth, rest)
      | found :: _ => .error (.unclosed (some found))
    | arg :: rest =>
      if rest.length ≥ 2 && rest.head?.any isBinary then c.binary args
      else match arg with
        | [0x2D, _] => c.unary args
        | _ => return (arg != [], rest)
  | _, .counted 1, args => c.one args
  | _, .counted 2, args => c.two args
  | fuel + 1, .counted 3, args =>
    match args with
    | a :: op :: b :: _ =>
      if isBinary op then c.binary args
      else if a = [0x21] then (c.two args.tail).negated
      else if a = [0x28] && b = [0x29] then
        (c.one args.tail).map fun (truth, rest) => (truth, rest.tail)
      else if op = [0x2D, 0x61] || op = [0x2D, 0x6F] then c.judge fuel .disjunction args
      else .error (.noBinary op)
    | _ => c.short
  | fuel + 1, .counted n, args =>
    match args with
    | [0x21] :: rest =>
      if n = 4 then (c.judge fuel (.counted 3) rest).negated else c.judge fuel .disjunction args
    | [0x28] :: rest =>
      if n = 4 && args[3]? = some [0x29] then
        (c.two rest).map fun (truth, rest) => (truth, rest.tail)
      else c.judge fuel .disjunction args
    | _ => c.judge fuel .disjunction args

/-- The truth of all arguments together. Without an argument there is nothing true. -/
def truth (c : Trial) (args : List Bytes) : Except TestFault Bool :=
  if args = [] then .ok false
  else do
    let (truth, rest) ← c.judge (5 * args.length + 5) (.counted args.length) args
    match rest with
    | [] => return truth
    | arg :: _ => .error (.extra arg)

end Trial

/-- A test. Under its other name the last argument has to be a closing bracket, which does not count. -/
def test (bracket : Bool) (t : Task) : Finish :=
  let args := if bracket then t.args.dropLast else t.args
  let trial : Trial := ⟨t, args.getLast?.getD t.zero, if bracket then some [0x5D] else none⟩
  let verdict : Except TestFault Bool :=
    if bracket && t.args.getLast? != some [0x5D] then .error .unbracketed else trial.truth args
  match verdict with
  | .ok truth => t.exit [] [] (if truth then 0 else 1)
  | .error fault => ((t.begin.complain fault.words).fail 2).finish

end FreshBuild.Utility
