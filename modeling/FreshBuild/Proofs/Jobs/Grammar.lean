/-
# FreshBuild.Proofs.Jobs.Grammar — which texts are job counts.

The reader of job counts trims, lowers and converts. What it accepts can be said without any of that: a
text is white space, a core and white space again, and the core is the word `auto` in any letter case
or a numeral, which is a row of ASCII digits with one plus sign in front at most. A numeral has the
value of its places. There are as many numerals of a number as there are zeros to put in front, so no
bound on its length says whether its value fits a word.

`parse_grammar` decides every text by its core. The four answers exclude one another and leave nothing
out. An invalid text is reported as it came, with the white space that was looked through.
-/
import FreshBuild.Proofs.Jobs.Agreement
import Mathlib.Data.List.TakeWhile
import Mathlib.Data.Nat.Digits.Defs

namespace FreshBuild

/-! ## The core of a text -/

namespace Blank

/-- `core` is what white space leaves of a text when it is taken off at both ends. -/
structure IsCore (core cs : List Char) : Prop where
  around : ∃ front back, cs = front ++ core ++ back ∧ (∀ c ∈ front, isBlank c = true) ∧
    ∀ c ∈ back, isBlank c = true
  first : ∀ c ∈ core.head?, isBlank c = false
  last : ∀ c ∈ core.getLast?, isBlank c = false

/-- What is left of a list starts with something else. -/
theorem head?_dropWhile (cs : List Char) :
    ∀ c ∈ (cs.dropWhile isBlank).head?, isBlank c = false := by
  intro c hc
  have hhead := List.head?_dropWhile_not isBlank cs
  rw [Option.mem_def.mp hc] at hhead
  exact hhead

/-- A list is what trimming its end leaves of it, and white space. -/
theorem trimRight_append (cs : List Char) :
    ∃ back, cs = trimRight cs ++ back ∧ ∀ c ∈ back, isBlank c = true := by
  refine ⟨(cs.reverse.takeWhile isBlank).reverse, ?_, fun c hc => ?_⟩
  · rw [trimRight, ← List.reverse_append, List.takeWhile_append_dropWhile, List.reverse_reverse]
  · exact List.mem_takeWhile_imp (List.mem_reverse.mp hc)

/-- Trimming finds the core. -/
theorem isCore_trim (cs : List Char) : IsCore (trim cs) cs := by
  obtain ⟨back, hback, hblank⟩ := trimRight_append (cs.dropWhile isBlank)
  have hsplit : cs = cs.takeWhile isBlank ++ trim cs ++ back := by
    rw [List.append_assoc, trim, ← hback, List.takeWhile_append_dropWhile]
  refine ⟨⟨_, back, hsplit, fun c hc => List.mem_takeWhile_imp hc, hblank⟩, ?_, ?_⟩
  · intro c hc
    -- what stands first before the end is trimmed stands first afterwards
    refine head?_dropWhile cs c ?_
    rw [hback, List.head?_append]
    exact Option.mem_def.mpr (by rw [trim] at hc; rw [Option.mem_def.mp hc]; rfl)
  · intro c hc
    rw [trim, trimRight, List.getLast?_reverse] at hc
    exact head?_dropWhile _ c hc

/-- **A text has one core**, and trimming finds it. -/
theorem isCore_iff {core cs : List Char} : IsCore core cs ↔ core = trim cs := by
  constructor
  · rintro ⟨⟨front, back, rfl, hfront, hback⟩, hfirst, hlast⟩
    exact (trim_padded hfront hback hfirst hlast).symm
  · rintro rfl
    exact isCore_trim cs

end Blank

/-! ## Rows of digits -/

namespace Digits

/-- The number that a row of decimal digits stands for, each of them worth its place. -/
def placeValue (cs : List Char) : Nat :=
  Nat.ofDigits 10 (cs.map fun c => c.toNat - '0'.toNat).reverse

theorem placeValue_cons (c : Char) (cs : List Char) :
    placeValue (c :: cs) = (c.toNat - '0'.toNat) * 10 ^ cs.length + placeValue cs := by
  rw [placeValue, List.map_cons, Nat.ofDigits_reverse_cons, List.length_map, placeValue]
  ring

/-- A decimal numeral: at least one digit, and nothing but ASCII digits. -/
structure IsDecimal (cs : List Char) (n : Nat) : Prop where
  ne_nil : cs ≠ []
  digits : ∀ c ∈ cs, c.isDigit = true
  value : placeValue cs = n

theorem isDigit_iff {c : Char} : c.isDigit = true ↔ '0' ≤ c ∧ c ≤ '9' := by
  rw [Char.isDigit, Bool.and_eq_true, decide_eq_true_eq, decide_eq_true_eq]
  rfl

theorem digit?_ten (c : Char) :
    digit? 10 c = if c.isDigit then some (c.toNat - '0'.toNat) else none := by
  by_cases hdigit : '0' ≤ c ∧ c ≤ '9'
  · have hhigh : c.toNat ≤ 57 := hdigit.2
    have hzero : '0'.toNat = 48 := rfl
    have hsmall : c.toNat - '0'.toNat < 10 := by omega
    rw [if_pos (isDigit_iff.mpr hdigit), digit?, if_pos hdigit]
    simp only [Option.filter_some, hsmall, decide_true, if_true]
  · rw [if_neg (mt isDigit_iff.mp hdigit), digit?, if_neg hdigit]
    -- a letter is a digit from a radix above ten on
    split_ifs <;> simp

theorem valueFrom_eq_some_iff {start n : Nat} {cs : List Char} :
    valueFrom 10 start cs = some n ↔
      (∀ c ∈ cs, c.isDigit = true) ∧ start * 10 ^ cs.length + placeValue cs = n := by
  -- the reader carries the value of the front along, so the induction is for every start
  induction cs generalizing start with
  | nil => simp [valueFrom, placeValue]
  | cons c cs ih =>
      rw [valueFrom, digit?_ten, List.forall_mem_cons]
      by_cases hdigit : c.isDigit = true
      · have hplaces : start * 10 ^ (c :: cs).length + placeValue (c :: cs) =
            (start * 10 + (c.toNat - '0'.toNat)) * 10 ^ cs.length + placeValue cs := by
          rw [placeValue_cons, List.length_cons, Nat.pow_succ]
          ring
        simp only [hdigit, if_true, true_and]
        rw [ih, hplaces]
      · simp [hdigit]

/-- **A row of digits is read as its place value**, and nothing else is read. -/
theorem value?_eq_some_iff {cs : List Char} {n : Nat} :
    value? 10 cs = some n ↔ IsDecimal cs n := by
  by_cases hne : cs = []
  · subst hne
    simp only [value?, reduceCtorEq, false_iff]
    exact fun h => h.ne_nil rfl
  · rw [value?_of_ne_nil hne, valueFrom_eq_some_iff, Nat.zero_mul, Nat.zero_add]
    exact ⟨fun ⟨hdigits, hvalue⟩ => ⟨hne, hdigits, hvalue⟩, fun h => ⟨h.digits, h.value⟩⟩

end Digits

namespace Jobs

/-! ## What a core can be -/

/-- A numeral of a count: a decimal numeral, with one plus sign in front of it at most. -/
inductive IsNumeral : List Char → Nat → Prop where
  | bare {cs : List Char} {n : Nat} (h : Digits.IsDecimal cs n) : IsNumeral cs n
  | plus {cs : List Char} {n : Nat} (h : Digits.IsDecimal cs n) : IsNumeral ('+' :: cs) n

/-- The word `auto`, each letter small or capital. -/
def SpellsAuto (cs : List Char) : Prop :=
  List.Forall₂ (fun c letter => c = letter ∨ c = letter.toUpper) cs ['a', 'u', 't', 'o']

theorem toNat_toLower (c : Char) : c.toLower.toNat =
    if 65 ≤ c.toNat ∧ c.toNat ≤ 90 then c.toNat + 32 else c.toNat := by
  unfold Char.toLower
  split
  · rename_i hcapital
    have hrange : 65 ≤ c.toNat ∧ c.toNat ≤ 90 := hcapital
    rw [if_pos hrange]
    show (c.val + 32).toNat = c.toNat + 32
    rw [UInt32.toNat_add]
    show (c.toNat + 32) % _ = c.toNat + 32
    omega
  · rename_i hother
    exact (if_neg hother).symm

/-- A character becomes a small letter exactly if it is that letter, small or capital. -/
theorem toLower_eq_iff {c letter : Char} (hsmall : 97 ≤ letter.toNat ∧ letter.toNat ≤ 122)
    (hcapital : letter.toUpper.toNat + 32 = letter.toNat) :
    c.toLower = letter ↔ c = letter ∨ c = letter.toUpper := by
  -- small letters stand 32 codes above capitals, so no other code gets to a letter
  rw [← Char.toNat_inj, ← Char.toNat_inj, ← Char.toNat_inj, toNat_toLower]
  split_ifs <;> omega

theorem map_toLower_iff {cs : List Char} :
    cs.map Char.toLower = ['a', 'u', 't', 'o'] ↔ SpellsAuto cs := by
  have hletter : ∀ letter ∈ ['a', 'u', 't', 'o'], ∀ c : Char,
      c.toLower = letter ↔ c = letter ∨ c = letter.toUpper := by
    intro letter hmem c
    simp only [List.mem_cons, List.not_mem_nil, or_false] at hmem
    rcases hmem with rfl | rfl | rfl | rfl <;> exact toLower_eq_iff (by decide) (by decide)
  rw [SpellsAuto, ← List.forall₂_eq_eq_eq, List.forall₂_map_left_iff, List.forall₂_iff_zip,
    List.forall₂_iff_zip]
  refine and_congr_right fun _ => forall₂_congr fun c letter => ?_
  exact forall_congr' fun hzip => hletter letter (List.of_mem_zip hzip).2 c

/-- A plus sign is no digit, so it is the sign of the numeral. -/
theorem isNumeral_plus_iff {cs : List Char} {n : Nat} :
    IsNumeral ('+' :: cs) n ↔ Digits.IsDecimal cs n := by
  constructor
  · rintro (h | h)
    · exact absurd (h.digits '+' List.mem_cons_self) (by decide)
    · exact h
  · exact .plus

theorem isNumeral_bare_iff {cs : List Char} {n : Nat} (hplus : cs.head? ≠ some '+') :
    IsNumeral cs n ↔ Digits.IsDecimal cs n := by
  constructor
  · rintro (h | h)
    · exact h
    · exact absurd rfl hplus
  · exact .bare

/-- A numeral stands for one number. -/
theorem IsNumeral.unique {cs : List Char} {m n : Nat} (hm : IsNumeral cs m) (hn : IsNumeral cs n) :
    m = n := by
  cases hm with
  | bare hm =>
      cases hn with
      | bare hn => exact hm.value.symm.trans hn.value
      | plus hn => exact absurd (hm.digits '+' List.mem_cons_self) (by decide)
  | plus hm => exact hm.value.symm.trans (isNumeral_plus_iff.mp hn).value

theorem SpellsAuto.not_isNumeral {cs : List Char} (h : SpellsAuto cs) (n : Nat) :
    ¬ IsNumeral cs n := by
  obtain ⟨c, rest, hc, -, rfl⟩ := List.forall₂_cons_right_iff.mp h
  have hfirst : c.isDigit = false ∧ c ≠ '+' := by
    rcases hc with rfl | rfl <;> decide
  rintro (hn | hn)
  · exact absurd (hn.digits c List.mem_cons_self) (by simp [hfirst.1])
  · exact hfirst.2 rfl

/-- The word that a number fits into has the number's value. -/
theorem word_eq_some_iff {m : Nat} {n : UInt64} :
    (if m < UInt64.size then some (UInt64.ofNat m) else none) = some n ↔ m = n.toNat := by
  split_ifs with hm
  · rw [Option.some.injEq, ← UInt64.toNat_inj, UInt64.toNat_ofNat_of_lt' hm]
  · refine iff_of_false (by simp) ?_
    rintro rfl
    exact hm n.toNat_lt_size

/-- **A numeral of a word is read as the word**, and nothing else is. -/
theorem count?_eq_some_iff {cs : List Char} {n : UInt64} :
    count? cs = some n ↔ IsNumeral cs n.toNat := by
  unfold count?
  split
  · rename_i rest
    rw [isNumeral_plus_iff, ← Digits.value?_eq_some_iff]
    cases hvalue : Digits.value? 10 rest with
    | none => simp [hvalue]
    | some m => simpa [hvalue] using word_eq_some_iff
  · rename_i hplus
    have hbare : cs.head? ≠ some '+' := by
      intro hhead
      obtain ⟨rest, rfl⟩ := List.head?_eq_some_iff.mp hhead
      exact hplus rest rfl
    rw [isNumeral_bare_iff hbare, ← Digits.value?_eq_some_iff]
    cases hvalue : Digits.value? 10 cs with
    | none => simp [hvalue]
    | some m => simpa [hvalue] using word_eq_some_iff

/-! ## Texts -/

/-- What is read of a text, by its core. -/
theorem parse_cases (s : String) :
    SpellsAuto (Blank.trim s.toList) ∧ parse s = .ok .auto ∨
    ¬ SpellsAuto (Blank.trim s.toList) ∧
      ((∃ n : UInt64, IsNumeral (Blank.trim s.toList) n.toNat ∧ parse s = ofCount n) ∨
        (∀ n : UInt64, ¬ IsNumeral (Blank.trim s.toList) n.toNat) ∧
          parse s = .error (.invalid s)) := by
  by_cases hauto : SpellsAuto (Blank.trim s.toList)
  · exact Or.inl ⟨hauto, by simp only [parse, map_toLower_iff.mpr hauto, if_true]⟩
  · refine Or.inr ⟨hauto, ?_⟩
    have hother := mt map_toLower_iff.mp hauto
    cases hcount : count? (Blank.trim s.toList) with
    | some n =>
        have hparse : parse s = ofCount n := by simp only [parse, if_neg hother, hcount]
        exact Or.inl ⟨n, count?_eq_some_iff.mp hcount, hparse⟩
    | none =>
        have hparse : parse s = .error (.invalid s) := by simp only [parse, if_neg hother, hcount]
        refine Or.inr ⟨fun n hn => ?_, hparse⟩
        rw [count?_eq_some_iff.mpr hn] at hcount
        cases hcount

/-- What is read of a text is decided by a core. -/
structure DecidedBy (s : String) (core : List Char) : Prop where
  auto_iff : parse s = .ok .auto ↔ SpellsAuto core
  /-- The number of a fixed count is a word other than zero by its type. -/
  fixed_iff : ∀ (n : UInt64) (hn : n ≠ 0), parse s = .ok (.fixed n hn) ↔ IsNumeral core n.toNat
  zero_iff : parse s = .error .zero ↔ IsNumeral core 0
  /-- The text is reported as a whole, and not its core. -/
  invalid_iff : ∀ text, parse s = .error (.invalid text) ↔
    text = s ∧ ¬ SpellsAuto core ∧ ∀ n, IsNumeral core n → 2 ^ 64 ≤ n

theorem decidedBy_trim (s : String) : DecidedBy s (Blank.trim s.toList) := by
  rcases parse_cases s with ⟨hauto, hparse⟩ | ⟨hauto, ⟨m, hm, hparse⟩ | ⟨hnone, hparse⟩⟩
  · -- the word is no numeral
    have hnumeral := hauto.not_isNumeral
    constructor <;> simp [hparse, hauto, hnumeral]
  · -- a numeral of the word `m` is a numeral of nothing else
    have hvalue : ∀ n, IsNumeral (Blank.trim s.toList) n ↔ m.toNat = n :=
      fun n => ⟨hm.unique, fun heq => heq ▸ hm⟩
    have hfits : ∀ text, ¬ (text = s ∧ ¬ SpellsAuto (Blank.trim s.toList) ∧
        ∀ n, IsNumeral (Blank.trim s.toList) n → 2 ^ 64 ≤ n) :=
      fun text h => Nat.not_le.mpr m.toNat_lt_size (h.2.2 m.toNat hm)
    by_cases hzero : m = 0
    · have hanswer : parse s = .error .zero := by rw [hparse, ofCount, dif_pos hzero]
      refine ⟨?_, fun n hn => ?_, ?_, fun text => ?_⟩
      · simp [hanswer, hauto]
      · rw [hanswer, hvalue, UInt64.toNat_inj, hzero]
        simp [Ne.symm hn]
      · simp [hanswer, hvalue, hzero]
      · rw [hanswer]
        exact iff_of_false (by simp) (hfits text)
    · have hanswer : parse s = .ok (.fixed m hzero) := by rw [hparse, ofCount, dif_neg hzero]
      refine ⟨?_, fun n hn => ?_, ?_, fun text => ?_⟩
      · simp [hanswer, hauto]
      · rw [hanswer, hvalue, UInt64.toNat_inj]
        simp
      · rw [hanswer, hvalue]
        simpa [← UInt64.toNat_inj] using hzero
      · rw [hanswer]
        exact iff_of_false (by simp) (hfits text)
  · -- what is no numeral of a word can still be one of a larger number
    have hlarge : ∀ n, IsNumeral (Blank.trim s.toList) n → 2 ^ 64 ≤ n := by
      intro n hn
      by_contra hsmall
      have hword : (UInt64.ofNat n).toNat = n := UInt64.toNat_ofNat_of_lt' (Nat.not_le.mp hsmall)
      exact hnone (UInt64.ofNat n) (hword.symm ▸ hn)
    refine ⟨?_, fun n _ => ?_, ?_, fun text => ?_⟩
    · simp [hparse, hauto]
    · simp [hparse, hnone n]
    · simpa [hparse] using hnone 0
    · rw [hparse]
      simp only [Except.error.injEq, JobsError.invalid.injEq]
      exact ⟨fun heq => ⟨heq.symm, hauto, hlarge⟩, fun h => h.1.symm⟩

/-- **A text is judged by its core**, of which it has one: as `auto` if the core spells the word, as a
count or as zero if it is a numeral of a word, and as invalid in all other cases. -/
theorem parse_grammar (s : String) :
    ∃ core, (∀ cs, Blank.IsCore cs s.toList ↔ cs = core) ∧ DecidedBy s core :=
  ⟨Blank.trim s.toList, fun _ => Blank.isCore_iff, decidedBy_trim s⟩

/-- The largest word with zeros and a plus sign in front, between a no-break space and a line break;
the number after it, in digits that are as many as those of the word; and the word in mixed case. -/
theorem parse_grammar_extreme :
    parse "\u00a0+00018446744073709551615\n" = .ok (.fixed 18446744073709551615 (by decide)) ∧
      parse " 18446744073709551616" = .error (.invalid " 18446744073709551616") ∧
      parse "\u2003aUtO" = .ok .auto := by
  have hcore : ∀ s core, core = Blank.trim s.toList → DecidedBy s core := by
    intro s core hcore
    obtain ⟨found, hunique, hdecided⟩ := parse_grammar s
    exact (hunique core).mp (Blank.isCore_iff.mpr hcore) ▸ hdecided
  refine ⟨?_, ?_, ?_⟩
  · have hdecided := hcore "\u00a0+00018446744073709551615\n" "+00018446744073709551615".toList
      (by decide)
    have hdigits : Digits.IsDecimal "00018446744073709551615".toList 18446744073709551615 :=
      Digits.value?_eq_some_iff.mp (by decide +kernel)
    exact (hdecided.fixed_iff 18446744073709551615 (by decide)).mpr (.plus hdigits)
  · have hdecided := hcore " 18446744073709551616" "18446744073709551616".toList (by decide)
    refine (hdecided.invalid_iff _).mpr ⟨rfl, mt map_toLower_iff.mpr (by decide), fun n hn => ?_⟩
    have hvalue := ((isNumeral_bare_iff (by decide)).mp hn).value
    exact hvalue ▸ (by decide +kernel)
  · have hdecided := hcore "\u2003aUtO" "aUtO".toList (by decide)
    exact hdecided.auto_iff.mpr (map_toLower_iff.mp (by decide))

end Jobs

end FreshBuild
