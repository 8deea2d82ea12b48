/-
# FreshBuild.Shell.Arithmetic — arithmetic expressions.

An expression is about signed words of 64 bits. The operators between two operands have eight ranks and
group to the left; the operands that a logical operator or a choice passes over are not evaluated, so
an assignment in them does not happen.

A text that is no expression has a flaw at one place. What stands before that place is evaluated all
the same, and may fail on its own before the flaw is come upon. So a flaw is a leaf of the tree, with
nothing behind it.
-/
import FreshBuild.Shell.Script
import FreshBuild.Text.Numeral
import FreshBuild.Word

namespace FreshBuild.Shell

/-! ## Expressions -/

inductive Arithmetic where
  | number (n : Int)
  | name (name : String)
  | negative (e : Arithmetic)
  | not (e : Arithmetic)
  | complement (e : Arithmetic)
  | binary (op : String) (a b : Arithmetic)
  | and (a b : Arithmetic)
  | or (a b : Arithmetic)
  | choice (test yes no : Arithmetic)
  | assign (name : String) (op : Option String) (value : Arithmetic)
  /-- The text is no expression from here on. -/
  | flaw (words : String)
  /-- The text goes on behind the expression in a way that makes no sense. -/
  | flawed (e : Arithmetic) (words : String)

inductive ArithmeticToken where
  | number (n : Int)
  | name (name : String)
  | sign (op : String)
  | other
deriving DecidableEq

/-- The operators, longer ones before those they begin with. -/
def arithmeticSigns : List String :=
  ["<<=", ">>=", "<<", ">>", "<=", ">=", "==", "!=", "&&", "||", "+=", "-=", "*=", "/=", "%=", "&=",
    "^=", "|=", "<", ">", "=", "!", "&", "|", "+", "-", "*", "/", "%", "^", "~", "(", ")", "?", ":"]

/-- The tokens of an expression. -/
def arithmeticTokens : Nat → Text → List ArithmeticToken
  | 0, _ | _, [] => []
  | fuel + 1, c :: rest =>
    if c = ' ' || c = '\t' || c = '\n' then arithmeticTokens fuel rest
    else if c.isDigit then
      match Numeral.natural? (Text.bytes (c :: rest)) with
      | some (n, after) =>
        .number (min (Int.ofNat n) (Int.ofNat (Word.size 63) - 1)) ::
          arithmeticTokens fuel (Text.ofBytes after)
      | none => .other :: arithmeticTokens fuel rest
    else if isNameStart c then
      let name := c :: rest.takeWhile isNameChar
      .name (String.ofList name) :: arithmeticTokens fuel (rest.dropWhile isNameChar)
    else match arithmeticSigns.find? fun op => op.toList.isPrefixOf (c :: rest) with
      | some op => .sign op :: arithmeticTokens fuel (rest.drop (op.length - 1))
      | none => .other :: arithmeticTokens fuel rest

/-- The rank of an operator between two operands; none for other tokens. A lower rank binds tighter. -/
def rank? : ArithmeticToken → Option Nat
  | .sign op =>
    [("*", 0), ("/", 0), ("%", 0), ("+", 1), ("-", 1), ("<<", 2), (">>", 2), ("<", 3), ("<=", 3),
      (">", 3), (">=", 3), ("==", 4), ("!=", 4), ("&", 5), ("^", 6), ("|", 7)].lookup op
  | _ => none

/-- The parts of an expression, from the loosest binding to the tightest. -/
inductive ArithmeticPart where
  | assignment
  | choice
  | disjunction
  | conjunction
  | chain
  | primary

/-- An assignment operator, and the operator it applies first. -/
def assignmentSign? : ArithmeticToken → Option (Option String)
  | .sign "=" => some none
  | .sign op =>
    if ["<<=", ">>=", "+=", "-=", "*=", "/=", "%=", "&=", "^=", "|="].contains op then
      some (some (op.dropEnd 1).toString)
    else none
  | _ => none

/-- The operators and operands behind a first operand, as a tree. -/
def grouped : Nat → Arithmetic → List (String × Nat × Arithmetic) → Arithmetic
  | 0, a, _ => a
  | _, a, [] => a
  | fuel + 1, a, items =>
    -- the loosest operator that comes last splits the chain
    let loosest := items.foldl (fun n (_, rank, _) => max n rank) 0
    let last := items.zipIdx.foldl (fun n ((_, rank, _), i) => if rank = loosest then i else n) 0
    match items.drop last with
    | (op, _, b) :: after =>
      .binary op (grouped fuel a (items.take last)) (grouped fuel b after)
    | [] => a

/-- An expression and the tokens behind it. Behind a flaw nothing is read any more. -/
abbrev Part := Arithmetic × Option (List ArithmeticToken)

/-- A flaw in place of an expression. -/
def Part.flaw (words : String) : Part := (.flaw words, none)

/-- Goes on behind a part, unless it had a flaw. -/
def Part.andThen (p : Part) (next : Arithmetic → List ArithmeticToken → Part) : Part :=
  match p with
  | (e, some rest) => next e rest
  | (e, none) => (e, none)

/-- Puts a part into a larger one. -/
def Part.map (f : Arithmetic → Arithmetic) (p : Part) : Part := (f p.1, p.2)

/-- Operators, each with its rank and the operand behind it. -/
def operands (operand : List ArithmeticToken → Part) :
    Nat → List ArithmeticToken → List (String × Nat × Arithmetic) × Option (List ArithmeticToken)
  | 0, ts => ([], some ts)
  | more + 1, ts =>
    match ts with
    | .sign op :: rest =>
      match rank? (.sign op) with
      | none => ([], some ts)
      | some rank =>
        match operand rest with
        | (b, none) => ([(op, rank, b)], none)
        | (b, some rest) =>
          let (items, rest) := operands operand more rest
          ((op, rank, b) :: items, rest)
    | ts => ([], some ts)

/-- Reads a part of an expression. -/
def readArithmetic : Nat → ArithmeticPart → List ArithmeticToken → Part
  | 0, _, _ => .flaw "expecting primary"
  | fuel + 1, part, ts =>
    match part, ts with
    | .assignment, .name name :: t :: rest =>
      match assignmentSign? t with
      | some op => (readArithmetic fuel .assignment rest).map (.assign name op)
      | none => readArithmetic fuel .choice ts
    | .assignment, ts => readArithmetic fuel .choice ts
    | .choice, ts =>
      (readArithmetic fuel .disjunction ts).andThen fun test rest =>
        match rest with
        | .sign "?" :: rest =>
          match readArithmetic fuel .assignment rest with
          | (yes, none) => (.choice test yes (.number 0), none)
          | (yes, some (.sign ":" :: rest)) =>
            (readArithmetic fuel .choice rest).map (.choice test yes)
          | (yes, some _) => (.choice test (.flawed yes "expecting ':'") (.number 0), none)
        | rest => (test, some rest)
    | .disjunction, ts =>
      (readArithmetic fuel .conjunction ts).andThen fun a rest =>
        match rest with
        | .sign "||" :: rest => (readArithmetic fuel .disjunction rest).map (.or a)
        | rest => (a, some rest)
    | .conjunction, ts =>
      (readArithmetic fuel .chain ts).andThen fun a rest =>
        match rest with
        | .sign "&&" :: rest => (readArithmetic fuel .conjunction rest).map (.and a)
        | rest => (a, some rest)
    | .chain, ts =>
      (readArithmetic fuel .primary ts).andThen fun a rest =>
        let (items, rest) := operands (readArithmetic fuel .primary) rest.length rest
        (grouped (items.length + 1) a items, rest)
    | .primary, ts =>
      match ts with
      | .number n :: rest => (.number n, some rest)
      | .name name :: rest => (.name name, some rest)
      | .sign "(" :: rest =>
        (readArithmetic fuel .assignment rest).andThen fun e rest =>
          match rest with
          | .sign ")" :: rest => (e, some rest)
          | _ => (.flawed e "expecting ')'", none)
      | .sign "+" :: rest => readArithmetic fuel .primary rest
      | .sign "-" :: rest => (readArithmetic fuel .primary rest).map .negative
      | .sign "!" :: rest => (readArithmetic fuel .primary rest).map .not
      | .sign "~" :: rest => (readArithmetic fuel .primary rest).map .complement
      | _ => .flaw "expecting primary"

/-- The expression that a text holds, perhaps with a flaw. -/
def Arithmetic.ofText (s : Text) : Arithmetic :=
  let ts := arithmeticTokens (s.length + 1) s
  match readArithmetic (8 * ts.length + 8) .assignment ts with
  | (e, some (_ :: _)) => .flawed e "expecting EOF"
  | (e, _) => e

/-- The flaw of an expression, if it has one. -/
def Arithmetic.flaw? : Arithmetic → Option String
  | .number _ | .name _ => none
  | .negative e | .not e | .complement e | .assign _ _ e => e.flaw?
  | .binary _ a b | .and a b | .or a b => a.flaw?.or b.flaw?
  | .choice a b c => (a.flaw?.or b.flaw?).or c.flaw?
  | .flaw words | .flawed _ words => some words

/-! ## Values -/

/-- An integer as a signed word of 64 bits. -/
def wrapped (n : Int) : Int := n.bmod (Word.size 64)

/-- The bits of a word as a natural number. -/
def wordBits (n : Int) : Nat := (n % Int.ofNat (Word.size 64)).toNat

def truthValue (b : Bool) : Int := if b then 1 else 0

/-- The value of an operator on two values; none if it divides by zero. -/
def operatorValue? (op : String) (a b : Int) : Option Int :=
  let bitwise (f : Nat → Nat → Nat) : Int := wrapped (Int.ofNat (f (wordBits a) (wordBits b)))
  let count := wordBits b % 64
  match op with
  | "*" => some (wrapped (a * b))
  | "/" => if b = 0 then none else some (wrapped (a.tdiv b))
  | "%" => if b = 0 then none else some (a.tmod b)
  | "+" => some (wrapped (a + b))
  | "-" => some (wrapped (a - b))
  | "<<" => some (wrapped (a * Int.ofNat (Nat.pow 2 count)))
  | ">>" => some (a / Int.ofNat (Nat.pow 2 count))
  | "<" => some (truthValue (a < b))
  | "<=" => some (truthValue (a ≤ b))
  | ">" => some (truthValue (a > b))
  | ">=" => some (truthValue (a ≥ b))
  | "==" => some (truthValue (a == b))
  | "!=" => some (truthValue (a != b))
  | "&" => some (bitwise Nat.land)
  | "^" => some (bitwise Nat.xor)
  | _ => some (bitwise Nat.lor)

/-- What evaluating an expression asks for. -/
structure Handler (m : Type → Type) where
  lookup : String → m Int
  assign : String → Int → m Unit
  fail : String → m Int

/-- The words for a division by zero. -/
def divisionByZero : String := "division by zero"

/-- Evaluates an expression. A flaw fails even where it is passed over. -/
def Arithmetic.eval {m : Type → Type} [Monad m] (h : Handler m) : Arithmetic → m Int
  | .number value => pure value
  | .name n => h.lookup n
  | .negative e => return wrapped (-(← e.eval h))
  | .not e => return truthValue ((← e.eval h) == 0)
  | .complement e => return -(← e.eval h) - 1
  | .binary op a b => do
    let x ← a.eval h
    let y ← b.eval h
    match operatorValue? op x y with
    | some n => pure n
    | none => h.fail divisionByZero
  | .and a b => do
    if (← a.eval h) = 0 then passOver b 0
    else return truthValue ((← b.eval h) != 0)
  | .or a b => do
    if (← a.eval h) = 0 then return truthValue ((← b.eval h) != 0)
    else passOver b 1
  | .choice test yes no => do
    if (← test.eval h) = 0 then
      match yes.flaw? with
      | some words => h.fail words
      | none => no.eval h
    else
      let value ← yes.eval h
      passOver no value
  | .assign target op value => do
    let new ← value.eval h
    let n ← match op with
      | none => pure new
      | some op =>
        let old ← h.lookup target
        match operatorValue? op old new with
        | some n => pure n
        | none => h.fail divisionByZero
    h.assign target n
    return n
  | .flaw words => h.fail words
  | .flawed e words => do
    let _ ← e.eval h
    h.fail words
where
  passOver (e : Arithmetic) (value : Int) : m Int :=
    match e.flaw? with
    | some words => h.fail words
    | none => pure value

end FreshBuild.Shell
