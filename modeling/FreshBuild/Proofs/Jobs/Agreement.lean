/-
# FreshBuild.Proofs.Jobs.Agreement — one job count, however it is given.

A job count may come as a word, as a number of a document, signed or not, or as a text of either a
document or a command line. Each way has a judge of its own for what is too small or too large, and
the judges must not part anywhere: not at zero, not where the signed words end and the unsigned ones
go on, and not for the numbers that are refused.

They are compared through texts. The numeral of a word is read back as the word, with any white space
around it (`parse_padded`), and the numeral of a negative number is no numeral of a count
(`parse_negative`). So whatever is said of a number can be said of its text, and `sources_agree` says
it of all ways at once.
-/
import FreshBuild.Proofs.Config.Values
import FreshBuild.Proofs.Text.Numerals

namespace FreshBuild

/-! ## White space around a text -/

namespace Blank

/-- White space around a text is taken off, and no more than that. -/
theorem trim_padded {front mid back : List Char} (hfront : ∀ c ∈ front, isBlank c = true)
    (hback : ∀ c ∈ back, isBlank c = true) (hfirst : ∀ c ∈ mid.head?, isBlank c = false)
    (hlast : ∀ c ∈ mid.getLast?, isBlank c = false) : trim (front ++ mid ++ back) = mid := by
  have hleft : (front ++ mid ++ back).dropWhile isBlank = (mid ++ back).dropWhile isBlank := by
    rw [List.append_assoc, List.dropWhile_append_of_pos hfront]
  have hright : ∀ cs : List Char, (∀ c ∈ cs.getLast?, isBlank c = false) →
      trimRight (cs ++ back) = cs := by
    intro cs hcs
    have hreverse : ∀ c ∈ back.reverse, isBlank c = true := fun c hc =>
      hback c (List.mem_reverse.mp hc)
    rw [trimRight, List.reverse_append, List.dropWhile_append_of_pos hreverse]
    rw [← List.head?_reverse] at hcs
    cases hshape : cs.reverse with
    | nil => rw [List.reverse_eq_nil_iff.mp hshape]; rfl
    | cons c rest =>
        have hc : isBlank c = false := hcs c (by rw [hshape]; rfl)
        rw [List.dropWhile_cons_of_neg (by simp [hc]), ← hshape, List.reverse_reverse]
  rw [trim, hleft]
  cases mid with
  | nil =>
      have hnone : back.dropWhile isBlank = [] := by
        rw [← List.append_nil back, List.dropWhile_append_of_pos hback]
        rfl
      rw [List.nil_append, hnone]
      rfl
  | cons c rest =>
      have hc : isBlank c = false := hfirst c rfl
      rw [List.cons_append, List.dropWhile_cons_of_neg (by simp [hc]), ← List.cons_append]
      exact hright (c :: rest) hlast

/-- A text that nowhere has white space is left as it is. -/
theorem trim_of_none {cs : List Char} (h : ∀ c ∈ cs, isBlank c = false) : trim cs = cs := by
  have hends := @trim_padded [] cs [] (by simp) (by simp)
    (fun c hc => h c (List.mem_of_mem_head? hc)) (fun c hc => h c (List.mem_of_mem_getLast? hc))
  rwa [List.nil_append, List.append_nil] at hends

end Blank

namespace Jobs

/-! ## Numerals as texts -/

/-- A decimal digit is neither white space nor a sign, and no letter in either case. -/
theorem digit_properties {c : Char} (h : c.isDigit = true) :
    Blank.isBlank c = false ∧ c ≠ '+' ∧ c.toLower ≠ 'a' := by
  have hrange : 48 ≤ c.toNat ∧ c.toNat ≤ 57 := by
    simpa [Char.isDigit, UInt32.le_iff_toNat_le] using h
  refine ⟨?_, ?_, ?_⟩
  · simp only [Blank.isBlank, Bool.or_eq_false_iff, Bool.and_eq_false_iff, decide_eq_false_iff_not,
      beq_eq_false_iff_ne]
    omega
  · rintro rfl
    exact absurd hrange (by decide)
  · have hsame : c.toLower = c := by
      unfold Char.toLower
      rw [dif_neg]
      rintro ⟨hupper, -⟩
      have : 65 ≤ c.toNat := UInt32.le_iff_toNat_le.mp hupper
      omega
    rw [hsame]
    rintro rfl
    exact absurd hrange (by decide)

/-- The numeral of a number starts with a digit and holds no white space. -/
theorem decimal_cons (n : Nat) : ∃ c cs, Digits.decimal n = c :: cs ∧ c.isDigit = true ∧
    ∀ d ∈ Digits.decimal n, Blank.isBlank d = false := by
  obtain ⟨c, cs, hcs⟩ := List.exists_cons_of_ne_nil (Digits.decimal_ne_nil n)
  refine ⟨c, cs, hcs, Digits.isDigit_of_mem_decimal (hcs ▸ List.mem_cons_self), ?_⟩
  exact fun d hd => (digit_properties (Digits.isDigit_of_mem_decimal hd)).1

/-- The numeral of a word is the word. -/
theorem count?_decimal (n : UInt64) : count? (Digits.decimal n.toNat) = some n := by
  obtain ⟨c, cs, hcs, hdigit, -⟩ := decimal_cons n.toNat
  have hvalue : Digits.value? 10 (c :: cs) = some n.toNat := hcs ▸ Digits.value?_decimal n.toNat
  have hplus : c ≠ '+' := (digit_properties hdigit).2.1
  rw [hcs]
  simp [count?, hplus, hvalue, n.toNat_lt_size]

/-- **The numeral of a word is read as the word**, whatever white space stands around it. -/
theorem parse_padded (n : UInt64) {front back : List Char}
    (hfront : ∀ c ∈ front, Blank.isBlank c = true) (hback : ∀ c ∈ back, Blank.isBlank c = true) :
    parse (String.ofList (front ++ Digits.decimal n.toNat ++ back)) = ofCount n := by
  obtain ⟨c, cs, hcs, hdigit, hblank⟩ := decimal_cons n.toNat
  have htrim : Blank.trim (front ++ Digits.decimal n.toNat ++ back) = Digits.decimal n.toNat :=
    Blank.trim_padded hfront hback (fun d hd => hblank d (List.mem_of_mem_head? hd))
      (fun d hd => hblank d (List.mem_of_mem_getLast? hd))
  have hauto : (Digits.decimal n.toNat).map Char.toLower ≠ ['a', 'u', 't', 'o'] := by
    rw [hcs]
    intro heq
    exact (digit_properties hdigit).2.2 (List.cons.inj heq).1
  rw [parse, String.toList_ofList, htrim]
  simp only [if_neg hauto, count?_decimal]

theorem parse_text_word (n : UInt64) : parse (Digits.text n.toNat) = ofCount n := by
  have h := @parse_padded n [] [] (by simp) (by simp)
  rwa [List.nil_append, List.append_nil] at h

/-- The numeral of a negative number is no job count. -/
theorem parse_negative (n : Nat) :
    parse ("-" ++ Digits.text n) = .error (.invalid ("-" ++ Digits.text n)) := by
  have hchars : ("-" ++ Digits.text n).toList = '-' :: Digits.decimal n := by
    rw [String.toList_append, Digits.text, String.toList_ofList, String.toList_ofList]
    rfl
  obtain ⟨-, -, -, -, hblank⟩ := decimal_cons n
  have htrim : Blank.trim ('-' :: Digits.decimal n) = '-' :: Digits.decimal n :=
    Blank.trim_of_none (List.forall_mem_cons.mpr ⟨by decide, hblank⟩)
  have hauto : ('-' :: Digits.decimal n).map Char.toLower ≠ ['a', 'u', 't', 'o'] := by
    intro heq
    exact absurd (List.cons.inj heq).1 (by decide)
  have hcount : count? ('-' :: Digits.decimal n) = none := rfl
  rw [parse, hchars, htrim]
  simp only [if_neg hauto, hcount]

/-! ## Signed numbers -/

/-- A signed number is a word that a signed one holds, too, or it is negative. -/
theorem signed_cases (n : Int64) :
    (∃ w : UInt64, n.toInt = w.toNat ∧ w.toNat < Word.size 63) ∨ ∃ m : Nat, n.toInt = .negSucc m := by
  cases hvalue : n.toInt with
  | negSucc m => exact Or.inr ⟨m, rfl⟩
  | ofNat m =>
      have hsize : Word.size 63 = 9223372036854775808 := rfl
      have hlt : m < Word.size 63 := by
        have hhi : (m : Int) < 2 ^ 63 := by
          rw [← Int.ofNat_eq_natCast, ← hvalue]
          exact n.toInt_lt
        omega
      have hword : (UInt64.ofNat m).toNat = m := UInt64.toNat_ofNat_of_lt' (by
        have : UInt64.size = 18446744073709551616 := rfl
        omega)
      exact Or.inl ⟨UInt64.ofNat m, by rw [hword]; rfl, by rwa [hword]⟩

/-- **A signed number is judged as its numeral**, over the whole range of its word. -/
theorem ofInt_eq_parse (n : Int64) : ofInt n = parse (Digits.signedText n.toInt) := by
  rcases signed_cases n with ⟨w, hvalue, hlt⟩ | ⟨m, hvalue⟩
  · have hcount : ofInt n = ofCount w := by
      rw [← Int64.ofInt_toInt n, hvalue, ofInt_natCast hlt, UInt64.ofNat_toNat]
    rw [hcount, hvalue]
    exact (parse_text_word w).symm
  · have hlo : -(Word.size 63 : Int) ≤ n.toInt := n.le_toInt
    have hneg : n.toInt < 0 := by
      rw [hvalue]
      exact Int.negSucc_lt_zero m
    have hrefused := ofInt_negative hlo hneg
    rw [Int64.ofInt_toInt] at hrefused
    rw [hrefused, hvalue]
    exact (parse_negative (m + 1)).symm

/-- A signed number of a document is judged as such. -/
theorem decodeJobs_signed (n : Int64) :
    Config.decodeJobs (.integer n.toInt) = (ofInt n).mapError .jobs := by
  have hheld : Word.holdsSigned 64 n.toInt = true :=
    (@Word.holdsSigned_iff 63 _).mpr ⟨n.le_toInt, n.toInt_lt⟩
  rw [Config.decodeJobs, if_pos hheld, Int64.ofInt_toInt]

/-- A text of a document is read as any other. -/
theorem decodeJobs_text (s : String) : Config.decodeJobs (.text s) = (parse s).mapError .jobs := by
  rw [Config.decodeJobs]

/-! ## All ways at once -/

/-- All ways to give a word are given the answer for the word. -/
structure GivenAlike (n : UInt64) : Prop where
  /-- As a number of a document. -/
  number : Config.decodeJobs (.integer n.toNat) = (ofCount n).mapError .jobs
  /-- As a text of a document. -/
  text : Config.decodeJobs (.text (Digits.text n.toNat)) = (ofCount n).mapError .jobs
  /-- As a text of a command line, with white space around it. -/
  padded : ∀ front back : List Char, (∀ c ∈ front, Blank.isBlank c = true) →
    (∀ c ∈ back, Blank.isBlank c = true) →
      parse (String.ofList (front ++ Digits.decimal n.toNat ++ back)) = ofCount n

/-- **All ways of giving a job count agree**, in the count as in the fault: for every unsigned word,
for every signed number with its numeral, and for every text, whoever reads it. A document reports a
fault in the fault's own words. What is printed of a job count is read back as it. -/
theorem sources_agree :
    (∀ n : UInt64, GivenAlike n) ∧
    (∀ n : Int64, ofInt n = parse (Digits.signedText n.toInt) ∧
      Config.decodeJobs (.integer n.toInt) =
        (parse (Digits.signedText n.toInt)).mapError .jobs) ∧
    (∀ s : String, Config.decodeJobs (.text s) = (parse s).mapError .jobs) ∧
    (∀ e : JobsError, (Config.Problem.jobs e).message = e.message) ∧
    (∀ jobs : Jobs, parse jobs.text = .ok jobs) := by
  refine ⟨fun n => ?_, fun n => ?_, decodeJobs_text, fun e => rfl, fun jobs => ?_⟩
  · exact
      { number := Config.decodeJobs_word n
        text := by rw [decodeJobs_text, parse_text_word]
        padded := fun _ _ hfront hback => parse_padded n hfront hback }
  · exact ⟨ofInt_eq_parse n, by rw [decodeJobs_signed, ofInt_eq_parse]⟩
  · cases jobs with
    | fixed n hne => exact (parse_text_word n).trans (ofCount_eq_ok_iff.mpr ⟨hne, rfl⟩)
    | auto => decide

/-- The largest word between a no-break space and an ideographic one, zero in a document and on a
command line, and the smallest signed number. -/
theorem sources_agree_extreme :
    parse "\u00a0\t18446744073709551615\u3000" = .ok (.fixed 18446744073709551615 (by decide)) ∧
      parse " 0\n" = .error .zero ∧ Config.decodeJobs (.integer 0) = .error (.jobs .zero) ∧
      Config.decodeJobs (.integer (-9223372036854775808)) =
        .error (.jobs (.invalid "-9223372036854775808")) := by
  have hmax : "\u00a0\t18446744073709551615\u3000" = String.ofList
      (['\u00a0', '\t'] ++ Digits.decimal (18446744073709551615 : UInt64).toNat ++ ['\u3000']) := by
    decide +kernel
  have hmin : Digits.signedText Int64.minValue.toInt = "-9223372036854775808" := by decide +kernel
  refine ⟨?_, ?_, ?_, ?_⟩
  · rw [hmax]
    exact (sources_agree.1 18446744073709551615).padded ['\u00a0', '\t'] ['\u3000']
      (by simp [Blank.isBlank]) (by simp [Blank.isBlank])
  · exact (sources_agree.1 0).padded [' '] ['\n'] (by simp [Blank.isBlank]) (by simp [Blank.isBlank])
  · exact (sources_agree.1 0).number
  · have hsigned := (sources_agree.2.1 Int64.minValue).2
    rw [hmin] at hsigned
    exact hsigned.trans (by decide)

end Jobs

end FreshBuild
