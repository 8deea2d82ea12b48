/-
# FreshBuild.Text.Numeral — numbers at the front of a text.

A number may have blanks and a sign before it, and where it ends the rest of the text begins; what
becomes of a rest is the reader's business. Integers are decimal, octal behind a zero, hexadecimal
behind `0x` and binary behind `0b`. Reals are decimals with a point and an exponent, hexadecimals with
a binary exponent, or one of the words for what is no number.
-/
import FreshBuild.Decimal.Shortest
import FreshBuild.Text.Utf8

namespace FreshBuild.Numeral

/-- A byte between words. -/
def isSpace (b : UInt8) : Bool := b == 0x20 || 0x09 ≤ b && b ≤ 0x0D

def isDigit (b : UInt8) : Bool := 0x30 ≤ b && b ≤ 0x39

/-- The value of a digit of a radix. -/
def digit? (radix : Nat) (b : UInt8) : Option Nat :=
  Digits.digit? radix (Char.ofNat b.toNat)

/-- The digits at the front of a text. -/
def digits (radix : Nat) (s : Bytes) : Bytes :=
  s.takeWhile fun b => (digit? radix b).isSome

/-- The value of a list of digits. -/
def value (radix : Nat) (ds : Bytes) : Nat :=
  ds.foldl (fun n b => n * radix + (digit? radix b).getD 0) 0

/-- The sign at the front of a text. -/
def sign (s : Bytes) : Bool × Bytes :=
  match s with
  | 0x2D :: rest => (true, rest)
  | 0x2B :: rest => (false, rest)
  | s => (false, s)

/-- A number with its sign. -/
def signed (negative : Bool) (n : Nat) : Int := if negative then -Int.ofNat n else Int.ofNat n

/-- A letter of either case. -/
def isLetter (lower : Char) (b : UInt8) : Bool :=
  b == lower.toUInt8 || b == lower.toUpper.toUInt8

/-- The text begins with a word, in letters of either case. -/
def hasWord (word : String) (s : Bytes) : Bool :=
  (s.take word.length).length = word.length &&
    (word.toList.zip s).all fun (c, b) => isLetter c b

/-! ## Integers -/

/-- A natural number in decimal, octal, hexadecimal or binary, and what follows it. -/
def natural? (s : Bytes) : Option (Nat × Bytes) :=
  let radixed (radix : Nat) (body : Bytes) : Option (Nat × Bytes) :=
    match digits radix body with
    | [] => none
    | ds => some (value radix ds, body.drop ds.length)
  match s with
  | 0x30 :: mark :: body =>
    let marked :=
      if isLetter 'x' mark then radixed 16 body
      else if isLetter 'b' mark then radixed 2 body
      else none
    match marked with
    | some found => some found
    | none => radixed 8 s
  | s => radixed (if s.head? = some 0x30 then 8 else 10) s

/-- An integer and what follows it. -/
def integer? (s : Bytes) : Option (Int × Bytes) :=
  let (negative, body) := sign (s.dropWhile isSpace)
  (natural? body).map fun (n, rest) => (signed negative n, rest)

/-- An integer that is all of a text, in decimal. -/
def decimal? (s : Bytes) : Option Int :=
  let (negative, body) := sign s
  let ds := digits 10 body
  if ds = [] || ds.length < body.length then none else some (signed negative (value 10 ds))

/-! ## Reals -/

/-- What a text can say of a real number. -/
inductive Real where
  | finite (negative : Bool) (magnitude : Decimal.Ratio)
  | infinite (negative : Bool)
  | nan (negative : Bool)

/-- An exponent behind its mark, and what follows it. Without digits there is none. -/
def exponent (mark : Char) (s : Bytes) : Int × Bytes :=
  match s with
  | b :: rest =>
    let (negative, body) := sign rest
    let ds := digits 10 body
    if isLetter mark b && ds != [] then (signed negative (value 10 ds), body.drop ds.length)
    else (0, s)
  | [] => (0, s)

/-- The digits before and behind a point, and what follows them. -/
def pointed? (radix : Nat) (s : Bytes) : Option (Bytes × Bytes × Bytes) :=
  let whole := digits radix s
  let (places, rest) : Bytes × Bytes := match s.drop whole.length with
    | 0x2E :: rest => (digits radix rest, rest.drop (digits radix rest).length)
    | rest => ([], rest)
  if whole = [] && places = [] then none else some (whole, places, rest)

/-- A decimal as a ratio. One that is far too large or far too small is settled without its power. -/
def decimalRatio (n : Nat) (e : Int) : Decimal.Ratio :=
  let magnitude := e + ((Digits.decimal n).length : Int)
  if n = 0 || magnitude < -5000 then ⟨0, 1⟩
  else Decimal.Ratio.scale ⟨n, 1⟩ 10 (if magnitude > 5000 then 5000 else e)

/-- A magnitude without sign, and what follows it. -/
def magnitude? (s : Bytes) : Option (Decimal.Ratio × Bytes) :=
  let hexadecimal : Option (Decimal.Ratio × Bytes) :=
    if hasWord "0x" s then
      (pointed? 16 (s.drop 2)).map fun (whole, places, rest) =>
        let (e, rest) := exponent 'p' rest
        (Decimal.Ratio.scale ⟨value 16 (whole ++ places), 1⟩ 2
          (max (-5000) (min 5000 (e - 4 * (places.length : Int)))), rest)
    else none
  match hexadecimal with
  | some found => some found
  | none =>
    (pointed? 10 s).map fun (whole, places, rest) =>
      let (e, rest) := exponent 'e' rest
      (decimalRatio (value 10 (whole ++ places)) (e - (places.length : Int)), rest)

/-- A real number and what follows it. -/
def real? (s : Bytes) : Option (Real × Bytes) :=
  let (negative, body) := sign (s.dropWhile isSpace)
  if hasWord "infinity" body then some (.infinite negative, body.drop 8)
  else if hasWord "inf" body then some (.infinite negative, body.drop 3)
  else if hasWord "nan" body then some (.nan negative, body.drop 3)
  else (magnitude? body).map fun (r, rest) => (.finite negative r, rest)

end FreshBuild.Numeral
