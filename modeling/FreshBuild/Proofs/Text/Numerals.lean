/-
# FreshBuild.Proofs.Text.Numerals — numerals that are written and read back.

A numeral is read from the left, each digit after what was read before it (`valueFrom`), and written
from the right, the last digit being the remainder. The two meet in one law, that reading two
stretches of digits is reading the second after the first (`valueFrom_append`). With it both writings
are read back by induction on what is still to be written: the shortest decimal one by the number
(`value?_decimal`), the hexadecimal one of a fixed width by the width (`value?_hex`).

A decimal numeral starts with a zero only if it is the zero (`head?_decimal`), which is what readers
with stricter rules than `value?` ask for.
-/
import FreshBuild.Digits
import Mathlib.Tactic.IntervalCases
import Mathlib.Tactic.Ring
import Mathlib.Tactic.SplitIfs

namespace FreshBuild.Digits

/-- Two stretches of digits are read one after the other. -/
theorem valueFrom_append (radix start : Nat) (front back : List Char) :
    valueFrom radix start (front ++ back) =
      (valueFrom radix start front).bind fun n => valueFrom radix n back := by
  induction front generalizing start with
  | nil => rfl
  | cons c front ih =>
      rw [List.cons_append, valueFrom, valueFrom]
      cases digit? radix c with
      | none => rfl
      | some d => exact ih _

theorem value?_of_ne_nil {radix : Nat} {cs : List Char} (h : cs ≠ []) :
    value? radix cs = valueFrom radix 0 cs := by
  cases cs with
  | nil => exact absurd rfl h
  | cons c cs => rfl

/-! ## Decimal numerals -/

/-- What readers ask about a single decimal digit. -/
theorem digitChar_decimal {d : Nat} (h : d < 10) :
    digit? 10 d.digitChar = some d ∧ d.digitChar.isDigit = true ∧
      (d ≠ 0 → d.digitChar ≠ '0') := by
  interval_cases d <;> decide

/-- A numeral is one digit, or the numeral of the tenth and one more digit. -/
theorem decimal_eq (n : Nat) :
    decimal n = if n < 10 then [n.digitChar] else decimal (n / 10) ++ [(n % 10).digitChar] :=
  Nat.toDigits_eq_if (by decide)

theorem decimal_ne_nil (n : Nat) : decimal n ≠ [] := by
  rw [decimal_eq]
  split <;> simp

/-- **A decimal numeral is read back.** -/
theorem value?_decimal (n : Nat) : value? 10 (decimal n) = some n := by
  rw [value?_of_ne_nil (decimal_ne_nil n)]
  induction n using Nat.strongRecOn with
  | _ n ih =>
      rw [decimal_eq]
      split
      · rename_i hsmall
        rw [valueFrom, (digitChar_decimal hsmall).1]
        simp only [valueFrom, Nat.zero_mul, Nat.zero_add]
      · rename_i hlarge
        have hlast : n % 10 < 10 := Nat.mod_lt n (by decide)
        rw [valueFrom_append, ih (n / 10) (by omega), Option.bind_some, valueFrom,
          (digitChar_decimal hlast).1]
        simp only [valueFrom, Nat.div_add_mod']

theorem isDigit_of_mem_decimal {n : Nat} {c : Char} (h : c ∈ decimal n) : c.isDigit = true := by
  induction n using Nat.strongRecOn with
  | _ n ih =>
      rw [decimal_eq] at h
      split at h
      · rename_i hsmall
        rw [List.mem_singleton.mp h]
        exact (digitChar_decimal hsmall).2.1
      · rename_i hlarge
        rcases List.mem_append.mp h with hfront | hlast
        · exact ih (n / 10) (by omega) hfront
        · rw [List.mem_singleton.mp hlast]
          exact (digitChar_decimal (Nat.mod_lt n (by decide))).2.1

/-- No numeral but the zero's starts with a zero. -/
theorem head?_decimal {n : Nat} (h : n ≠ 0) : (decimal n).head? ≠ some '0' := by
  induction n using Nat.strongRecOn with
  | _ n ih =>
      rw [decimal_eq]
      split
      · rename_i hsmall
        rw [List.head?_cons, ne_eq, Option.some.injEq]
        exact (digitChar_decimal hsmall).2.2 h
      · rename_i hlarge
        have htenth := ih (n / 10) (by omega) (by omega)
        obtain ⟨c, cs, hcs⟩ := List.exists_cons_of_ne_nil (decimal_ne_nil (n / 10))
        rw [hcs] at htenth ⊢
        exact htenth

/-! ## Signed numerals -/

theorem toList_signedText (n : Int) : (signedText n).toList =
    if n < 0 then '-' :: decimal n.natAbs else decimal n.natAbs := by
  cases n with
  | ofNat n => rw [if_neg (by simp), signedText, text, String.toList_ofList]; rfl
  | negSucc n =>
      rw [if_pos (Int.negSucc_lt_zero n), signedText, String.toList_append, text,
        String.toList_ofList, String.toList_ofList]
      rfl

theorem mem_signedText {n : Int} {c : Char} (h : c ∈ (signedText n).toList) :
    c = '-' ∨ c.isDigit = true := by
  rw [toList_signedText] at h
  split at h
  · rcases List.mem_cons.mp h with rfl | h
    · exact Or.inl rfl
    · exact Or.inr (isDigit_of_mem_decimal h)
  · exact Or.inr (isDigit_of_mem_decimal h)

theorem decimal_injective : Function.Injective decimal := fun m n h =>
  Option.some.inj ((value?_decimal m).symm.trans (h ▸ value?_decimal n))

/-- No two integers have one numeral: a minus is no digit. -/
theorem signedText_injective : Function.Injective signedText := by
  intro m n h
  have hchars := congrArg String.toList h
  have hminus : ∀ k l : Nat, '-' :: decimal k ≠ decimal l := by
    intro k l heq
    have hdigit : '-'.isDigit = true := isDigit_of_mem_decimal (heq ▸ List.mem_cons_self)
    exact absurd hdigit (by decide)
  rw [toList_signedText, toList_signedText] at hchars
  split_ifs at hchars with hm hn hn
  · have habs := decimal_injective (List.cons.inj hchars).2
    omega
  · exact absurd hchars (hminus _ _)
  · exact absurd hchars.symm (hminus _ _)
  · have habs := decimal_injective hchars
    omega

/-! ## Hexadecimal numerals of a fixed width -/

/-- A hexadecimal digit, as a small or a capital letter from ten on. -/
def hexDigit (small : Bool) (d : Nat) : Char :=
  if small then d.digitChar else d.digitChar.toUpper

/-- The last `width` hexadecimal digits of `n`. -/
def hex (small : Bool) : Nat → Nat → List Char
  | 0, _ => []
  | width + 1, n => hex small width (n / 16) ++ [hexDigit small (n % 16)]

theorem digit?_hexDigit (small : Bool) {d : Nat} (h : d < 16) :
    digit? 16 (hexDigit small d) = some d := by
  cases small <;> interval_cases d <;> decide

@[simp]
theorem length_hex (small : Bool) (width n : Nat) : (hex small width n).length = width := by
  induction width generalizing n with
  | zero => rfl
  | succ width ih => rw [hex, List.length_append, ih, List.length_singleton]

theorem valueFrom_hex (small : Bool) (width start n : Nat) :
    valueFrom 16 start (hex small width n) = some (start * 16 ^ width + n % 16 ^ width) := by
  induction width generalizing n with
  | zero => simp [hex, valueFrom, Nat.mod_one]
  | succ width ih =>
      have hlast : n % 16 < 16 := Nat.mod_lt n (by decide)
      have hplaces : n % 16 ^ (width + 1) = n % 16 + 16 * (n / 16 % 16 ^ width) := by
        rw [Nat.pow_succ', Nat.mod_mul]
      rw [hex, valueFrom_append, ih, Option.bind_some, valueFrom, digit?_hexDigit small hlast,
        hplaces]
      simp only [valueFrom, Option.some.injEq]
      ring

/-- **A hexadecimal numeral that is wide enough is read back.** -/
theorem value?_hex (small : Bool) {width n : Nat} (hpos : 0 < width) (hwide : n < 16 ^ width) :
    value? 16 (hex small width n) = some n := by
  have hne : hex small width n ≠ [] := List.ne_nil_of_length_pos (by rwa [length_hex])
  rw [value?_of_ne_nil hne, valueFrom_hex, Nat.zero_mul, Nat.zero_add, Nat.mod_eq_of_lt hwide]

end FreshBuild.Digits
