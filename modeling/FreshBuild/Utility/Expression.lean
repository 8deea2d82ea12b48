/-
# FreshBuild.Utility.Expression — the expressions of `expr`.

An expression is a list of arguments, each an operand or an operator. Values are texts, and a text that
is the numeral of an integer counts as one where an operator asks for integers. The operators have six
ranks and all of them group to the left.
-/
import FreshBuild.Text.Regex
import FreshBuild.Utility.Options

namespace FreshBuild.Utility

/-- The words of a complaint. -/
abbrev ExpressionFlaw := List Bytes

/-- An empty text or a zero counts as false. -/
def isFalse (s : Bytes) : Bool :=
  s = [] || (Numeral.decimal? s).any fun n => n == 0 && s.head? != some 0x2B

/-- An integer as a text may write it: digits with at most a minus. -/
def integerOf? (s : Bytes) : Option Int :=
  if s.head? = some 0x2B then none else Numeral.decimal? s

def integerText (n : Int) : Bytes := Utf8.ofString (Digits.signedText n)

/-- The operators of each rank, from the loosest to the tightest. -/
def operatorsOfRank : Nat → List String
  | 0 => ["|"]
  | 1 => ["&"]
  | 2 => ["<", "<=", "=", "==", "!=", ">=", ">"]
  | 3 => ["+", "-"]
  | 4 => ["*", "/", "%"]
  | _ => [":"]

/-- Groups of an expression are in it. -/
def hasGroup : Regex → Bool
  | .group .. => true
  | .seq a b | .alt a b => hasGroup a || hasGroup b
  | .repeated r _ _ => hasGroup r
  | _ => false

/-- What an expression finds at the front of a text: the group, or the length of the match. -/
def matchValue (text pattern : Bytes) : Except ExpressionFlaw Bytes :=
  match Regex.ofBytes false pattern with
  | .error flaw => .error [flaw.text]
  | .ok r =>
    match r.matchAt? text 0 with
    | some m =>
      .ok (if hasGroup r then Regex.groupText text m.state 1 else numeral m.stop)
    | none => .ok (if hasGroup r then [] else [0x30])

def truth (b : Bool) : Bytes := if b then [0x31] else [0x30]

/-- The value of an operator on two values. -/
def binaryValue (op : String) (a b : Bytes) : Except ExpressionFlaw Bytes :=
  let compared (onIntegers : Int → Int → Bool) (onTexts : Bytes → Bytes → Bool) : Bytes :=
    match integerOf? a, integerOf? b with
    | some x, some y => truth (onIntegers x y)
    | _, _ => truth (onTexts a b)
  let computed (f : Int → Int → Except ExpressionFlaw Int) : Except ExpressionFlaw Bytes :=
    match integerOf? a, integerOf? b with
    | some x, some y => (f x y).map integerText
    | _, _ => .error ["non-integer argument"]
  let divided (f : Int → Int → Int) : Except ExpressionFlaw Bytes :=
    computed fun x y => if y = 0 then .error ["division by zero"] else .ok (f x y)
  match op with
  | "|" => .ok (if !isFalse a then a else if !isFalse b then b else [0x30])
  | "&" => .ok (if isFalse a || isFalse b then [0x30] else a)
  | "<" => .ok (compared (decide <| · < ·) (decide <| · < ·))
  | "<=" => .ok (compared (decide <| · ≤ ·) (fun a b => !decide (b < a)))
  | "=" | "==" => .ok (compared (· == ·) (· == ·))
  | "!=" => .ok (compared (· != ·) (· != ·))
  | ">=" => .ok (compared (decide <| · ≥ ·) (fun a b => !decide (a < b)))
  | ">" => .ok (compared (decide <| · > ·) (fun a b => decide (b < a)))
  | "+" => computed fun x y => .ok (x + y)
  | "-" => computed fun x y => .ok (x - y)
  | "*" => computed fun x y => .ok (x * y)
  | "/" => divided Int.tdiv
  | "%" => divided Int.tmod
  | _ => matchValue a b

/-- A place among the arguments: what was read last, and what follows. -/
structure Place where
  last : Bytes
  rest : List Bytes

def missingAfter (p : Place) : ExpressionFlaw :=
  ["syntax error: missing argument after ", cited p.last]

/-- A value that stands alone: its place holds at least one argument. -/
abbrev ValueReader := Place → Except ExpressionFlaw (Bytes × Place)

/-- A chain of operators of one rank, read from the value to the left of the first. -/
def chain (rank : Nat) (next : ValueReader) : Nat → Bytes × Place → Except ExpressionFlaw (Bytes × Place)
  | 0, found => .ok found
  | fuel + 1, (value, p) =>
    match p.rest with
    | op :: rest =>
      match (operatorsOfRank rank).find? fun o => Utf8.ofString o = op with
      | none => .ok (value, p)
      | some name => do
        let (right, p) ← next ⟨op, rest⟩
        let value ← binaryValue name value right
        chain rank next fuel (value, p)
    | [] => .ok (value, p)

/-- Reads an expression of a rank; behind the last rank come functions and parentheses. -/
def readExpression : Nat → Nat → ValueReader
  | 0, _, p => .error (missingAfter p)
  | fuel + 1, rank, p =>
    if rank ≤ 5 then do
      let found ← readExpression fuel (rank + 1) p
      chain rank (readExpression fuel (rank + 1)) p.rest.length found
    else
      match p.rest with
      | [] => .error (missingAfter p)
      | word :: rest =>
        let p : Place := ⟨word, rest⟩
        let argument : ValueReader := readExpression fuel 6
        match Utf8.lossy word, rest with
        | "+", quoted :: rest => .ok (quoted, ⟨quoted, rest⟩)
        | "+", [] => .error (missingAfter p)
        | "(", _ => do
          let (value, p) ← readExpression fuel 0 p
          match p.rest with
          | [0x29] :: rest => return (value, ⟨[0x29], rest⟩)
          | [] => .error ["syntax error: expecting ')' after ", cited p.last]
          | other :: _ => .error ["syntax error: expecting ')' instead of ", cited other]
        | ")", _ => .error ["syntax error: unexpected ')'"]
        | "length", _ => do
          let (value, p) ← argument p
          return (numeral value.length, p)
        | "match", _ => do
          let (text, p) ← argument p
          let (pattern, p) ← argument p
          return (← matchValue text pattern, p)
        | "index", _ => do
          let (text, p) ← argument p
          let (members, p) ← argument p
          let before := text.takeWhile (!members.contains ·)
          return (numeral (if before.length < text.length then before.length + 1 else 0), p)
        | "substr", _ => do
          let (text, p) ← argument p
          let (start, p) ← argument p
          let (count, p) ← argument p
          match integerOf? start, integerOf? count with
          | some start, some count =>
            if start ≤ 0 || count ≤ 0 then return ([], p)
            else return ((text.drop (start.toNat - 1)).take count.toNat, p)
          | _, _ => return ([], p)
        | _, _ => .ok (word, p)

/-- Prints the value of an expression. A false one gives the code 1. -/
def expr (t : Task) : Finish :=
  let args := if t.args.head? = some [0x2D, 0x2D] then t.args.tail else t.args
  if args = [] then refuse t 2 ["missing operand"]
  else
    let result : Except ExpressionFlaw Bytes := do
      let (value, p) ← readExpression (10 * args.length + 20) 0 ⟨[], args⟩
      match p.rest with
      | [] => return value
      | extra :: _ => .error ["syntax error: unexpected argument ", cited extra]
    match result with
    | .ok value => t.exit (value ++ [0x0A]) [] (if isFalse value then 1 else 0)
    | .error words => ((t.begin.complain words).fail 2).finish

end FreshBuild.Utility
