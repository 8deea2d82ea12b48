/-
# FreshBuild.Decimal.Shortest — binary floats and their shortest decimal text.

A decimal number is first rounded to the nearest binary float of 53 significant bits, a tie to the
even one. Its text then has the fewest digits that read back to the same float, and of those the
digits nearest to it; of two equally near ones the larger is taken. All arithmetic is on natural
numbers, so nothing is rounded twice.
-/
import FreshBuild.Digits
import FreshBuild.Word

namespace FreshBuild.Decimal

/-- A finite float without its sign, `mantissa · 2 ^ exponent`. -/
structure Binary where
  mantissa : Nat
  exponent : Int
deriving DecidableEq

/-- A fraction of natural numbers. -/
structure Ratio where
  num : Nat
  den : Nat

namespace Ratio

/-- `r · base ^ e`. -/
def scale (r : Ratio) (base : Nat) (e : Int) : Ratio :=
  if 0 ≤ e then ⟨r.num * Nat.pow base e.toNat, r.den⟩
  else ⟨r.num, r.den * Nat.pow base (-e).toNat⟩

def le (a b : Ratio) : Bool := a.num * b.den ≤ b.num * a.den

def lt (a b : Ratio) : Bool := a.num * b.den < b.num * a.den

/-- The nearest natural number, a tie to the even one. -/
def roundEven (r : Ratio) : Nat :=
  let q := r.num / r.den
  let twice := 2 * (r.num % r.den)
  if twice > r.den || (twice == r.den && q % 2 == 1) then q + 1 else q

end Ratio

/-- The floats of a width: their significant bits, the exponent of the smallest positive one, and the
largest exponent of a finite one. -/
structure Width where
  precision : Nat
  minExponent : Int
  maxExponent : Int

namespace Width

def double : Width := ⟨53, -1074, 971⟩

def extended : Width := ⟨64, -16445, 16320⟩

/-! ## Rounding to binary -/

/-- The exponent at which a positive ratio has as many bits as the width, but no less than the
smallest. The first guess from the bit lengths is the right one or one too small. -/
def exponentOf (w : Width) (r : Ratio) : Int :=
  let guess : Int := (r.num.log2 : Int) - (r.den.log2 : Int) - (w.precision : Int)
  let exponent := if Ratio.lt (r.scale 2 (-guess)) ⟨Word.size w.precision, 1⟩ then guess else guess + 1
  max exponent w.minExponent

/-- The float nearest to a ratio; none if it is beyond the finite ones. -/
def nearest? (w : Width) (r : Ratio) : Option Binary :=
  if r.num = 0 then some ⟨0, w.minExponent⟩
  else
    let exponent := w.exponentOf r
    let mantissa := (r.scale 2 (-exponent)).roundEven
    let b : Binary :=
      if mantissa = Word.size w.precision then ⟨Word.size (w.precision - 1), exponent + 1⟩
      else ⟨mantissa, exponent⟩
    if b.exponent > w.maxExponent then none else some b

end Width

/-- The float nearest to `digits · 10 ^ exponent`. An exponent far outside the range of floats is
settled without forming the power. -/
def ofDecimal? (digits : Nat) (exponent : Int) : Option Binary :=
  let magnitude := exponent + ((Digits.decimal digits).length : Int)
  if digits = 0 || magnitude < -330 then some ⟨0, Width.double.minExponent⟩
  else if magnitude > 320 then none
  else Width.double.nearest? (Ratio.scale ⟨digits, 1⟩ 10 exponent)

/-! ## Shortest digits -/

/-- The value of a float. -/
def Binary.ratio (b : Binary) : Ratio := Ratio.scale ⟨b.mantissa, 1⟩ 2 b.exponent

/-- The lower end of the interval of numbers that round to the float. Below a power of two the floats
lie twice as dense. -/
def Binary.lower (b : Binary) : Ratio :=
  if b.mantissa = Word.size (Width.double.precision - 1) &&
      b.exponent > Width.double.minExponent then
    Ratio.scale ⟨4 * b.mantissa - 1, 1⟩ 2 (b.exponent - 2)
  else Ratio.scale ⟨2 * b.mantissa - 1, 1⟩ 2 (b.exponent - 1)

/-- The upper end of that interval. -/
def Binary.upper (b : Binary) : Ratio :=
  Ratio.scale ⟨2 * b.mantissa + 1, 1⟩ 2 (b.exponent - 1)

/-- A number of the interval; its ends belong to it if the mantissa is even. -/
def Binary.isReadBackFrom (b : Binary) (r : Ratio) : Bool :=
  if b.mantissa % 2 = 0 then b.lower.le r && r.le b.upper else b.lower.lt r && r.lt b.upper

/-- The number of digits in front of the point, for a value of at least one; for a smaller one, the
negative count of the zeros after the point. A float below one is no power of ten, so the length of
its reciprocal's integer part decides. -/
def pointPlace (r : Ratio) : Int :=
  if r.den ≤ r.num then ((Digits.decimal (r.num / r.den)).length : Int)
  else 1 - ((Digits.decimal (r.den / r.num)).length : Int)

/-- The digits at a grid of step `10 ^ e`, if one of the two neighbours of the float reads back. -/
def onGrid? (b : Binary) (e : Int) : Option Nat :=
  let scaled := b.ratio.scale 10 (-e)
  let low := scaled.num / scaled.den
  let readsBack (n : Nat) := b.isReadBackFrom (Ratio.scale ⟨n, 1⟩ 10 e)
  let lowIsNearer := 2 * (scaled.num % scaled.den) < scaled.den
  match readsBack low, readsBack (low + 1) with
  | true, true => some (if lowIsNearer then low else low + 1)
  | true, false => some low
  | false, true => some (low + 1)
  | false, false => none

/-- The digits and the grid of the shortest decimal that reads back, tried on finer and finer grids;
seventeen digits are always enough. The upper neighbour on the first grid can be a power of ten,
whose zero is then dropped. -/
def shortest (b : Binary) : Nat × Int :=
  let place := pointPlace b.ratio
  let grids := (List.range 17).map fun (n : Nat) => place - 1 - (n : Int)
  let (digits, e) := (grids.findSome? fun e => (onGrid? b e).map (·, e)).getD (0, 0)
  if digits % 10 = 0 then (digits / 10, e + 1) else (digits, e)

/-! ## Text -/

/-- `digits · 10 ^ exponent` written without an exponent and with a point. -/
def positional (digits : Nat) (exponent : Int) : String :=
  let cs := Digits.decimal digits
  let text :=
    if 0 ≤ exponent then
      (if digits = 0 then cs else cs ++ List.replicate exponent.toNat '0') ++ ['.', '0']
    else
      let places := (-exponent).toNat
      let padded := List.replicate (places + 1 - cs.length) '0' ++ cs
      padded.take (padded.length - places) ++ '.' :: padded.drop (padded.length - places)
  String.ofList text

/-- The text of a float: always with a point and never with an exponent. -/
def Binary.text (b : Binary) : String :=
  if b.mantissa = 0 then "0.0"
  else
    let (digits, exponent) := shortest b
    positional digits exponent

end FreshBuild.Decimal
