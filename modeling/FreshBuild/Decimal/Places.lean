/-
# FreshBuild.Decimal.Places — numbers with a given number of places.

A ratio is rounded once, to the nearest decimal with so many places, a tie to the even one. The three
forms are the positional one, the one with an exponent, and the one that picks between them by the
size of the number and drops zeros at the end.
-/
import FreshBuild.Decimal.Shortest

namespace FreshBuild.Decimal

/-- Digits with a point before the last `places` of them. Without places there is a point only if it
is wanted. -/
def pointedDigits (digits : Nat) (places : Nat) (point : Bool) : List Char :=
  let cs := Digits.decimal digits
  let padded := List.replicate (places + 1 - cs.length) '0' ++ cs
  let whole := padded.take (padded.length - places)
  if places = 0 && !point then whole else whole ++ '.' :: padded.drop (padded.length - places)

/-- The ratio with `places` places. -/
def fixedText (r : Ratio) (places : Nat) (point : Bool) : List Char :=
  pointedDigits (r.scale 10 places).roundEven places point

/-- The digits of a ratio with `places` places behind the first, and the power of ten of the first. -/
def leadingDigits (r : Ratio) (places : Nat) : Nat × Int :=
  if r.num = 0 then (0, 0)
  else
    let power := pointPlace r - 1
    let digits := (r.scale 10 ((places : Int) - power)).roundEven
    if digits = Nat.pow 10 (places + 1) then (digits / 10, power + 1) else (digits, power)

/-- An exponent behind its mark, with a sign and at least two digits. -/
def exponentText (power : Int) : List Char :=
  let cs := Digits.decimal power.natAbs
  'e' :: (if power < 0 then '-' else '+') :: List.replicate (2 - cs.length) '0' ++ cs

/-- The ratio with one digit before the point and an exponent. -/
def scientificText (r : Ratio) (places : Nat) (point : Bool) : List Char :=
  let (digits, power) := leadingDigits r places
  pointedDigits digits places point ++ exponentText power

/-- A text without the zeros at the end of its places. -/
def dropZeros (cs : List Char) : List Char :=
  if cs.contains '.' then
    let kept := cs.reverse.dropWhile (· == '0')
    (if kept.head? = some '.' then kept.tail else kept).reverse
  else cs

/-- The ratio with `significant` digits, in the positional form unless it is very small or has more
digits than that. Zeros at the end stay only if `full`. -/
def generalText (r : Ratio) (significant : Nat) (full : Bool) : List Char :=
  let significant := max significant 1
  let (digits, power) := leadingDigits r (significant - 1)
  let trimmed (cs : List Char) : List Char := if full then cs else dropZeros cs
  if -4 ≤ power && power < (significant : Int) then
    trimmed (fixedText r ((significant : Int) - 1 - power).toNat full)
  else trimmed (pointedDigits digits (significant - 1) full) ++ exponentText power

/-! ## Hexadecimal -/

/-- A float of extended width with a hexadecimal digit in front of the point, as many places as it
needs or as asked for, and a power of two. The first digit takes the upper four of the bits. -/
def hexadecimalText (b : Binary) (places : Option Nat) (point : Bool) : List Char :=
  if b.mantissa = 0 then
    let zeros := List.replicate (places.getD 0) '0'
    '0' :: (if zeros = [] && !point then [] else '.' :: zeros) ++ ['p', '+', '0']
  else
    let shift := Width.extended.precision - (b.mantissa.log2 + 1)
    let mantissa := b.mantissa * Word.size shift
    let exponent := b.exponent - shift + (Width.extended.precision - 4 : Nat)
    -- the fifteen digits behind the first are rounded to the places
    let (digits, power) : Nat × Int := match places with
      | some n =>
        if n < 15 then
          let digits := (⟨mantissa, Word.size (4 * (15 - n))⟩ : Ratio).roundEven
          if digits = Word.size (4 * (n + 1)) then (digits / 16, exponent + 4)
          else (digits, exponent)
        else (mantissa * Word.size (4 * (n - 15)), exponent)
      | none => (mantissa, exponent)
    let cs := Nat.toDigits 16 digits
    let behind := match places with
      | some _ => cs.tail
      | none => (cs.tail.reverse.dropWhile (· == '0')).reverse
    cs.take 1 ++ (if behind = [] && !point then [] else '.' :: behind) ++
      'p' :: (if power < 0 then '-' else '+') :: Digits.decimal power.natAbs

end FreshBuild.Decimal
