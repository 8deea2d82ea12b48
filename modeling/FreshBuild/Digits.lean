/-
# FreshBuild.Digits — numerals in a radix.

Reading and writing numerals is shared by job counts, the TOML reader and every message that shows a
number. `value` is the place-value reading, `decimal` the shortest decimal writing.
-/

namespace FreshBuild

namespace Digits

/-- The value of a digit of radix at most 16, in either letter case. -/
def digit? (radix : Nat) (c : Char) : Option Nat :=
  let d? :=
    if '0' ≤ c ∧ c ≤ '9' then some (c.toNat - '0'.toNat)
    else if 'a' ≤ c ∧ c ≤ 'f' then some (c.toNat - 'a'.toNat + 10)
    else if 'A' ≤ c ∧ c ≤ 'F' then some (c.toNat - 'A'.toNat + 10)
    else none
  d?.filter (· < radix)

/-- The place value of a digit list read after `start`; `none` if one of them is no digit. -/
def valueFrom (radix : Nat) : Nat → List Char → Option Nat
  | start, [] => some start
  | start, c :: rest =>
    match digit? radix c with
    | some d => valueFrom radix (start * radix + d) rest
    | none => none

/-- The value of a numeral: at least one digit, and nothing but digits. Leading zeros are free. -/
def value? (radix : Nat) : List Char → Option Nat
  | [] => none
  | cs => valueFrom radix 0 cs

/-- The decimal numeral of `n`, without leading zeros. -/
def decimal (n : Nat) : List Char :=
  Nat.toDigits 10 n

/-- The decimal numeral of `n` as a string. -/
def text (n : Nat) : String :=
  String.ofList (decimal n)

/-- The decimal numeral of an integer: a minus in front of a negative one, never a plus. -/
def signedText : Int → String
  | .ofNat n => text n
  | .negSucc n => "-" ++ text (n + 1)

end Digits

end FreshBuild
