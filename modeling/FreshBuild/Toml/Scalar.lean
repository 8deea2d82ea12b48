/-
# FreshBuild.Toml.Scalar — values that are a single word.

Booleans, integers, floats and moments in time are written as one word without quotes. The word is
taken first and then classified. The classes do not overlap, but for the garbled integers: those are
the words that look like integers and are none.
-/
import FreshBuild.Digits
import FreshBuild.Toml.Blanks
import FreshBuild.Toml.Value

namespace FreshBuild.Toml

/-! ## Numbers -/

/-- The digits of a group in which an underscore may stand between two digits. -/
def ungroup (isDigit : Char → Bool) : List Char → Option (List Char)
  | [] => none
  | [c] => if isDigit c then some [c] else none
  | c :: '_' :: rest => if isDigit c then (ungroup isDigit rest).map (c :: ·) else none
  | c :: rest => if isDigit c then (ungroup isDigit rest).map (c :: ·) else none

/-- A digit group as a number. -/
def group? (radix : Nat) (cs : List Char) : Option Nat :=
  (ungroup (fun c => (Digits.digit? radix c).isSome) cs).bind (Digits.value? radix)

/-- A decimal digit group without a redundant zero at its front. -/
def plainGroup? (cs : List Char) : Option Nat :=
  match cs with
  | '0' :: _ :: _ => none
  | _ => group? 10 cs

/-- The sign at the front of a word, and the rest. -/
def splitSign : List Char → Bool × List Char
  | '+' :: rest => (false, rest)
  | '-' :: rest => (true, rest)
  | cs => (false, cs)

/-- A decimal number with or without a sign. A sign may have an underscore after it, behind which
zeros are free. -/
def signedGroup? : List Char → Option (Bool × Nat)
  | '+' :: '_' :: digits => (group? 10 digits).map (false, ·)
  | '-' :: '_' :: digits => (group? 10 digits).map (true, ·)
  | cs => (plainGroup? (splitSign cs).2).map ((splitSign cs).1, ·)

/-- The integer with a sign and a magnitude. -/
def signedInt (negative : Bool) (n : Nat) : Int :=
  if negative then -Int.ofNat n else Int.ofNat n

/-- An integer. Only decimal ones take a sign, and only the others may start with zeros. -/
def integer? : List Char → Option Int
  | '0' :: 'x' :: rest => (group? 16 rest).map Int.ofNat
  | '0' :: 'o' :: rest => (group? 8 rest).map Int.ofNat
  | '0' :: 'b' :: rest => (group? 2 rest).map Int.ofNat
  | cs => (signedGroup? cs).map fun (negative, n) => signedInt negative n

def isExponentMark (c : Char) : Bool := c == 'e' || c == 'E'

/-- Every underscore of a text that follows the character `before` stands between two hexadecimal
digits. -/
def groupsHold (before : Char) : List Char → Bool
  | [] => true
  | '_' :: rest =>
    (Digits.digit? 16 before).isSome && (rest.head?.bind (Digits.digit? 16)).isSome &&
      groupsHold '_' rest
  | c :: rest => groupsHold c rest

/-- A word that passes for an integer until its number is asked for: a radix without digits, or a
decimal number that has an underscore after its first digits and then goes on with anything that
makes it neither a float nor two words. A sign counts as a digit here. -/
def isGarbled (cs : List Char) : Bool :=
  let body := (splitSign cs).2
  let tail := body.dropWhile Char.isDigit
  cs == ['0', 'x'] || cs == ['0', 'o'] || cs == ['0', 'b'] ||
    body.head? != some '0' && tail.head? == some '_' &&
      groupsHold (if body.length < cs.length then '0' else ' ') body &&
      tail.all fun c => c != '.' && !isExponentMark c && c != ' '

/-- The exponent part of a float: nothing, or a mark and a number with a sign and free zeros. -/
def exponent? : List Char → Option Int
  | [] => some 0
  | _ :: rest =>
    let (negative, digits) := splitSign rest
    (group? 10 digits).map (signedInt negative)

/-- A float: an infinity, not a number, or a decimal with a fraction or an exponent. -/
def float? (cs : List Char) : Option Decimal :=
  let (negative, body) := splitSign cs
  if body = ['i', 'n', 'f'] then some (.infinite negative)
  else if body = ['n', 'a', 'n'] then some .nan
  else
    let mantissa := cs.takeWhile (!isExponentMark ·)
    let whole := mantissa.takeWhile (· != '.')
    match signedGroup? whole, exponent? (cs.dropWhile (!isExponentMark ·)) with
    | some (negative, n), some e =>
      match mantissa.dropWhile (· != '.') with
      | [] => if mantissa.length = cs.length then none else some (.finite negative n e)
      | _ :: fraction =>
        match ungroup (fun c => (Digits.digit? 10 c).isSome) fraction with
        | some digits =>
          (Digits.valueFrom 10 n digits).map fun m => .finite negative m (e - digits.length)
        | none => none
    | _, _ => none

/-! ## Moments -/

/-- A field of exactly `width` digits whose value lies in `lo … hi`. -/
def field (width lo hi : Nat) : Reader Nat := fun s =>
  if (s.take width).length = width then
    match Digits.value? 10 (s.take width) with
    | some n => if lo ≤ n ∧ n ≤ hi then some (n, s.drop width) else none
    | none => none
  else none

/-- One given character. -/
def mark (c : Char) : Reader Unit
  | d :: rest => if d = c then some ((), rest) else none
  | [] => none

def isLeapYear (year : Nat) : Bool :=
  year % 4 == 0 && (year % 100 != 0 || year % 400 == 0)

def daysInMonth (year month : Nat) : Nat :=
  if month = 2 then (if isLeapYear year then 29 else 28)
  else if month = 4 ∨ month = 6 ∨ month = 9 ∨ month = 11 then 30
  else 31

/-- A date of the calendar; returns the text after it. -/
def date? (s : List Char) : Option (List Char) := do
  let (year, s) ← field 4 0 9999 s
  let (_, s) ← mark '-' s
  let (month, s) ← field 2 1 12 s
  let (_, s) ← mark '-' s
  let (_, s) ← field 2 1 (daysInMonth year month) s
  return s

/-- The seconds of a time, with a fraction of any length, or nothing. -/
def seconds? : List Char → Option (List Char)
  | ':' :: s => do
    let (_, s) ← field 2 0 60 s
    match s with
    | '.' :: fraction =>
      if (fraction.takeWhile Char.isDigit).isEmpty then none
      else some (fraction.dropWhile Char.isDigit)
    | _ => some s
  | s => some s

/-- A time of the day; returns the text after it. -/
def time? (s : List Char) : Option (List Char) := do
  let (_, s) ← field 2 0 23 s
  let (_, s) ← mark ':' s
  let (_, s) ← field 2 0 59 s
  seconds? s

/-- A distance from universal time that ends the word. -/
def isOffset : List Char → Bool
  | ['Z'] | ['z'] => true
  | sign :: s =>
    (sign == '+' || sign == '-') &&
      ((do
        let (_, s) ← field 2 0 23 s
        let (_, s) ← mark ':' s
        let (_, s) ← field 2 0 59 s
        return s) == some [])
  | [] => false

/-- A date, a time, or a date and a time with or without an offset. -/
def isMoment (cs : List Char) : Bool :=
  match date? cs with
  | some [] => true
  | some (separator :: rest) =>
    (separator == 'T' || separator == 't' || separator == ' ') &&
      match time? rest with
      | some [] => true
      | some offset => isOffset offset
      | none => false
  | none => time? cs == some []

/-! ## Words -/

/-- A character that no word holds, blanks apart. -/
def isPunctuation (c : Char) : Bool :=
  c == '=' || c == ',' || c == '[' || c == ']' || c == '\x7b' || c == '\x7d' || c == '#' ||
    c == '\r' || c == '\n'

/-- Whether a further part of a word stands after blanks. -/
def resumes (s : List Char) : Bool :=
  match s.dropWhile isBlank with
  | c :: _ => !isPunctuation c && c != '.' && c != '"' && c != '\''
  | [] => false

/-- The word at the front of the text. Blanks between two parts belong to it, since a time may stand
apart from its date. -/
def word : List Char → List Char × List Char
  | [] => ([], [])
  | c :: rest =>
    if isPunctuation c || isBlank c && !resumes rest then ([], c :: rest)
    else (c :: (word rest).1, (word rest).2)

/-- The value a word denotes. -/
def wordValue? (word : List Char) : Option Value :=
  if word = ['t', 'r', 'u', 'e'] then some (.boolean true)
  else if word = ['f', 'a', 'l', 's', 'e'] then some (.boolean false)
  else match integer? word with
    | some n => some (.integer n)
    | none => match float? word with
      | some x => some (.float x)
      | none =>
        if isMoment word then some (.moment (String.ofList word))
        else if isGarbled word then some (.garbled (String.ofList word))
        else none

/-- A value that is a single word. -/
def scalar : Reader Value := fun s =>
  (wordValue? (word s).1).map (·, (word s).2)

end FreshBuild.Toml
