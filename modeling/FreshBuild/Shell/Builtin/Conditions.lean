/-
# FreshBuild.Shell.Builtin.Conditions — the conditions of the shell's own test.

A condition is read straight from the arguments while it is evaluated. Whether an argument is an
operator or an operand depends on what comes after it, and conditions of three and four arguments have
rules of their own, so that any operand can be compared.
-/
import FreshBuild.Text.Numeral
import FreshBuild.Utility.Conditions

namespace FreshBuild.Shell.Builtin

open FreshBuild.Utility

/-- Why a condition makes no sense. -/
inductive Senseless where
  | unexpected (arg : Bytes)
  | missingOperand (operator : Bytes)
  | unclosed
  | noNumber (arg : Bytes)
deriving DecidableEq

/-- The words for a condition that makes no sense. -/
def Senseless.words : Senseless → Bytes
  | .unexpected arg => arg ++ Utf8.ofString ": unexpected operator"
  | .missingOperand op => op ++ Utf8.ofString ": argument expected"
  | .unclosed => Utf8.ofString "closing paren expected"
  | .noNumber arg => Utf8.ofString "Illegal number: " ++ arg

/-- What an argument is where it stands. -/
inductive Sign where
  | operand
  | unary
  | binary
  | not
  | and
  | or
  | opening
  | closing
  | finish
deriving DecidableEq

def unaryOperators : List String :=
  ["-r", "-w", "-x", "-e", "-f", "-d", "-c", "-b", "-p", "-u", "-g", "-k", "-s", "-t", "-z", "-n",
    "-h", "-O", "-G", "-L", "-S"]

def binaryOperators : List String :=
  ["=", "!=", "<", ">", "-eq", "-ne", "-ge", "-gt", "-le", "-lt", "-nt", "-ot", "-ef"]

/-- What kind of operator a text is, wherever it stands. -/
def operatorKind? (arg : Bytes) : Option Sign :=
  if isAmong unaryOperators arg then some .unary
  else if isAmong binaryOperators arg then some .binary
  else [("!", Sign.not), ("-a", .and), ("-o", .or), ("(", .opening), (")", .closing)].findSome?
    fun (op, sign) => if Utf8.ofString op = arg then some sign else none

/-- What the first argument is. A unary operator without an operand behind it, or in front of a
binary one, is an operand itself. -/
def signAt : List Bytes → Sign
  | [] => .finish
  | arg :: rest =>
    match operatorKind? arg, rest with
    | some .unary, [] => .operand
    | some .unary, [_] => .unary
    | some .unary, next :: _ =>
      if operatorKind? next = some .binary then .operand else .unary
    | some .opening, [] => .operand
    | some sign, _ => sign
    | none, _ => .operand

/-! ## Primaries -/

/-- A number in a condition: decimal, with blanks around it. -/
def conditionNumber (arg : Bytes) : Except Senseless Int :=
  let trimmed := (arg.dropWhile Numeral.isSpace).reverse.dropWhile Numeral.isSpace |>.reverse
  match Numeral.decimal? trimmed with
  | some n => if Word.holdsSigned 64 n then .ok n else .error (.noNumber arg)
  | none => .error (.noNumber arg)

/-- A condition with two operands. -/
def binaryHolds (t : Task) (a op b : Bytes) : Except Senseless Bool :=
  match Utf8.lossy op with
  | "=" => .ok (a = b)
  | "!=" => .ok (a != b)
  | "<" => .ok (decide (a < b))
  | ">" => .ok (decide (b < a))
  | "-ef" => .ok (isSameFile t a b)
  | word =>
    match numberRelation? word with
    | some relation => do
      let x ← conditionNumber a
      let y ← conditionNumber b
      return relation x y
    | none => .ok false

/-! ## Conditions -/

/-- A part of a condition: its truth, the last argument that belongs to it, and those behind it. -/
structure Part where
  truth : Bool
  last : Bytes
  rest : List Bytes

/-- The parts of a condition, from the loosest binding to the tightest. -/
inductive Level where
  | disjunction
  | conjunction
  | negation
  | primary

/-- Evaluates the part at the front of the arguments. Every level costs one unit of `fuel`, and so
does every operator. -/
def evaluate (t : Task) : Nat → Level → List Bytes → Except Senseless Part
  | 0, _, args => .ok ⟨false, [], args⟩
  | fuel + 1, .disjunction, args => do
    let left ← evaluate t fuel .conjunction args
    if signAt left.rest = .or then
      let right ← evaluate t fuel .disjunction left.rest.tail
      return { right with truth := left.truth || right.truth }
    else return left
  | fuel + 1, .conjunction, args => do
    let left ← evaluate t fuel .negation args
    if signAt left.rest = .and then
      let right ← evaluate t fuel .conjunction left.rest.tail
      return { right with truth := left.truth && right.truth }
    else return left
  | fuel + 1, .negation, args => do
    if signAt args = .not then
      if args.tail = [] then return ⟨true, args.head?.getD [], []⟩
      else
        let part ← evaluate t fuel .negation args.tail
        return { part with truth := !part.truth }
    else evaluate t fuel .primary args
  | fuel + 1, .primary, args => do
    match args with
    | [] => return ⟨false, [], []⟩
    | arg :: rest =>
      match signAt args, rest with
      | .opening, _ =>
        if signAt rest = .closing then return ⟨false, rest.head?.getD [], rest.tail⟩
        else
          let part ← evaluate t fuel .disjunction rest
          if signAt part.rest = .closing then
            return ⟨part.truth, part.rest.head?.getD [], part.rest.tail⟩
          else throw .unclosed
      | .unary, operand :: rest => return ⟨unaryHolds t (arg.getLast?.getD 0) operand, operand, rest⟩
      | _, _ =>
        if signAt rest = .binary then
          match rest with
          | op :: operand :: rest => return ⟨← binaryHolds t arg op operand, operand, rest⟩
          | op :: [] => throw (.missingOperand op)
          | [] => return ⟨arg != [], arg, []⟩
        else return ⟨arg != [], arg, rest⟩

/-- Evaluates a whole condition, and its contrary if `negated`. -/
def evaluateAll (t : Task) (negated : Bool) (args : List Bytes) :
    Except Senseless Bool := do
  let part ← evaluate t (6 * args.length + 6) .disjunction args
  match part.rest with
  | [] => return part.truth != negated
  | _ :: _ => throw (.unexpected part.last)

/-- The truth of a condition. Three or four arguments are read in a way of their own: a binary
operator in the middle wins, then parentheses around the rest, then a negation. -/
def holds (t : Task) : Nat → Bool → List Bytes → Except Senseless Bool
  | 0, negated, args => evaluateAll t negated args
  | fuel + 1, negated, args =>
    let special := args.length = 3 || args.length = 4
    let middle := (args[1]?).bind operatorKind?
    if args = [] then .ok false
    else match args, args.length, middle with
      | [a, op, b], _, some .binary => (binaryHolds t a op b).map (· != negated)
      | _, _, _ =>
        if special && args.head? = some [0x28] && args.getLast? = some [0x29] then
          evaluateAll t negated args.tail.dropLast
        else if special && args.head? = some [0x21] then holds t fuel true args.tail
        else evaluateAll t negated args

/-- A test: its status, and a complaint if the condition makes no sense. Under its other name the test
wants a closing bracket. -/
def testResult (t : Task) (bracket : Bool) : Nat × Option Bytes :=
  if bracket && t.args.getLast? != some [0x5D] then (2, some (Utf8.ofString "missing ]"))
  else match holds t 5 false (if bracket then t.args.dropLast else t.args) with
    | .ok truth => (if truth then 0 else 1, none)
    | .error e => (2, some e.words)

end FreshBuild.Shell.Builtin
