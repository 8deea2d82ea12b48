/-
# FreshBuild.Proofs.Json.Reader — what a JSON text denotes.

The program writes JSON and never reads any. What its output means to others is said by the grammar of
JSON, and `read?` is this grammar, the whole of it: all kinds of values, white space wherever it may
stand, all escapes of a string with the pairs of surrogates, and numbers with fraction and exponent. A
text that the grammar does not derive has no meaning.

Numbers are decimals, so that none is rounded, and the members of an object keep their order.
-/
import FreshBuild.Digits

namespace FreshBuild.Json

/-- What a text denotes. A number is its mantissa times a power of ten. -/
inductive Datum where
  | null
  | boolean (b : Bool)
  | number (mantissa exponent : Int)
  | string (text : String)
  | array (items : List Datum)
  | object (members : List (String × Datum))

namespace Grammar

/-- Takes something off the front of a text. -/
abbrev Reader (α : Type) := List Char → Option (α × List Char)

/-! ## White space -/

def isSpace (c : Char) : Bool :=
  c == ' ' || c == '\t' || c == '\n' || c == '\r'

def skip (s : List Char) : List Char := s.dropWhile isSpace

/-! ## Strings -/

/-- Four hexadecimal digits, in either letter case. -/
def codeUnit : Reader Nat
  | a :: b :: c :: d :: rest => (Digits.value? 16 [a, b, c, d]).map fun unit => (unit, rest)
  | _ => none

/-- The character of a code unit, or of two that are the halves of a pair. Half a pair is none. -/
def escapedUnits : Reader Char := fun s =>
  match codeUnit s with
  | none => none
  | some (unit, rest) =>
    if 0xD800 ≤ unit && unit < 0xDC00 then
      match rest with
      | '\\' :: 'u' :: more =>
        match codeUnit more with
        | some (low, rest) =>
          if 0xDC00 ≤ low && low < 0xE000 then
            some (Char.ofNat (0x10000 + (unit - 0xD800) * 0x400 + (low - 0xDC00)), rest)
          else none
        | none => none
      | _ => none
    else if 0xDC00 ≤ unit && unit < 0xE000 then none
    else some (Char.ofNat unit, rest)

/-- The character that a letter behind a backslash stands for. -/
def escaped? : Char → Option Char
  | '"' => some '"'
  | '\\' => some '\\'
  | '/' => some '/'
  | 'b' => some '\x08'
  | 'f' => some '\x0C'
  | 'n' => some '\n'
  | 'r' => some '\r'
  | 't' => some '\t'
  | _ => none

/-- One character of a string, which is not the closing quote. -/
def character : Reader Char
  | [] => none
  | '\\' :: 'u' :: rest => escapedUnits rest
  | '\\' :: c :: rest => (escaped? c).map fun e => (e, rest)
  | c :: rest => if c = '"' || c = '\\' || c.toNat < 0x20 then none else some (c, rest)

/-- So many characters at most, up to the closing quote. -/
def characters : Nat → Reader (List Char)
  | 0, _ => none
  | _ + 1, '"' :: rest => some ([], rest)
  | n + 1, s =>
    match character s with
    | none => none
    | some (c, rest) => (characters n rest).map fun (cs, rest) => (c :: cs, rest)

def quoted : Reader String
  | '"' :: rest =>
    (characters rest.length rest).map fun (cs, rest) => (String.ofList cs, rest)
  | _ => none

/-! ## Numbers -/

/-- One digit at least: the number and how many digits it has. -/
def digits : Reader (Nat × Nat) := fun s =>
  let run := s.takeWhile Char.isDigit
  (Digits.value? 10 run).map fun n => ((n, run.length), s.dropWhile Char.isDigit)

/-- The part in front of the point. A zero in front stands alone. -/
def whole : Reader Nat
  | '0' :: rest => some (0, rest)
  | s => (digits s).map fun ((n, _), rest) => (n, rest)

/-- The part behind the point, if there is a point: the number and how many digits it has. -/
def fraction : Reader (Nat × Nat)
  | '.' :: rest => digits rest
  | s => some ((0, 0), s)

/-- The power of ten, if there is one. -/
def power : Reader Int
  | c :: rest =>
    if c = 'e' || c = 'E' then
      match rest with
      | '-' :: rest => (digits rest).map fun ((n, _), rest) => (-n, rest)
      | '+' :: rest => (digits rest).map fun ((n, _), rest) => (n, rest)
      | rest => (digits rest).map fun ((n, _), rest) => (n, rest)
    else some (0, c :: rest)
  | [] => some (0, [])

/-- A number without its sign: mantissa and exponent. -/
def unsigned : Reader (Nat × Int) := fun s => do
  let (n, s) ← whole s
  let ((part, places), s) ← fraction s
  let (exponent, s) ← power s
  return ((n * Nat.pow 10 places + part, exponent - places), s)

def number : Reader Datum
  | '-' :: rest => (unsigned rest).map fun ((n, exponent), rest) => (.number (-n) exponent, rest)
  | s => (unsigned s).map fun ((n, exponent), rest) => (.number n exponent, rest)

/-! ## Values -/

/-- So many items at most, with commas between them, up to the closing bracket. -/
def items {α : Type} (item : Reader α) (close : Char) : Nat → Reader (List α)
  | 0, _ => none
  | n + 1, s =>
    match item s with
    | none => none
    | some (x, rest) =>
      match skip rest with
      | [] => none
      | c :: rest =>
        if c = ',' then (items item close n (skip rest)).map fun (xs, rest) => (x :: xs, rest)
        else if c = close then some ([x], rest)
        else none

/-- What stands behind an opening bracket: items, or nothing but the closing bracket. -/
def bracketed {α : Type} (item : Reader α) (close : Char) : Reader (List α) := fun s =>
  match skip s with
  | [] => none
  | c :: rest =>
    if c = close then some ([], rest) else items item close rest.length (c :: rest)

/-- A member of an object. -/
def member (value : Reader Datum) : Reader (String × Datum) := fun s =>
  match quoted s with
  | none => none
  | some (name, rest) =>
    match skip rest with
    | ':' :: rest => (value (skip rest)).map fun (v, rest) => ((name, v), rest)
    | _ => none

/-- A value in which values nest to less than this depth. -/
def value : Nat → Reader Datum
  | 0, _ => none
  | depth + 1, s =>
    match s with
    | '\x7b' :: rest =>
      (bracketed (member (value depth)) '\x7d' rest).map fun (members, rest) =>
        (.object members, rest)
    | '[' :: rest => (bracketed (value depth) ']' rest).map fun (vs, rest) => (.array vs, rest)
    | '"' :: _ => (quoted s).map fun (text, rest) => (.string text, rest)
    | 'n' :: 'u' :: 'l' :: 'l' :: rest => some (.null, rest)
    | 't' :: 'r' :: 'u' :: 'e' :: rest => some (.boolean true, rest)
    | 'f' :: 'a' :: 'l' :: 's' :: 'e' :: rest => some (.boolean false, rest)
    | _ => number s

/-- The value of a text: one value with white space around it, and nothing else. Every level of nesting
takes a bracket, so the length of the text is depth enough. -/
def read? (s : List Char) : Option Datum :=
  match value s.length (skip s) with
  | some (v, rest) => if skip rest = [] then some v else none
  | none => none

end Grammar

end FreshBuild.Json
