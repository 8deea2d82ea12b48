/-
# FreshBuild.Proofs.Json.Written — JSON that is written and read back.

What the program writes is JSON, and it means what was meant: reading a value in the layout with one
member a line gives the value back (`read?_pretty`). The parts are read back one by one, each in front
of anything that does not continue it. Only a number could be continued (`Ends`); the layout never puts
a digit, a point or an exponent behind one.

The induction is on the value. Its bound is the length of the text, which is also how deep the reader
goes: inside the brackets of an object there is always less text (`length_lt_of_member`).
-/
import FreshBuild.Json
import FreshBuild.Proofs.Json.Reader
import FreshBuild.Proofs.Text.Numerals
import Mathlib.Data.List.Basic
import Mathlib.Tactic.IntervalCases

namespace FreshBuild.Json

open Grammar

/-! ## White space -/

theorem skip_append {front : List Char} (h : ∀ c ∈ front, isSpace c = true) (s : List Char) :
    skip (front ++ s) = skip s :=
  List.dropWhile_append_of_pos h

theorem skip_cons {c : Char} (h : isSpace c = false) (s : List Char) : skip (c :: s) = c :: s :=
  List.dropWhile_cons_of_neg (by simp [h])

theorem skip_of_spaces {s : List Char} (h : ∀ c ∈ s, isSpace c = true) : skip s = [] := by
  rw [← List.append_nil s, skip_append h]
  rfl

theorem toList_lineBreak (depth : Nat) :
    (lineBreak depth).toList = '\n' :: List.replicate (2 * depth) ' ' := by
  rw [lineBreak, String.toList_append, String.toList_ofList, String.toList_ofList]
  rfl

theorem isSpace_of_mem_lineBreak {depth : Nat} {c : Char} (h : c ∈ (lineBreak depth).toList) :
    isSpace c = true := by
  rw [toList_lineBreak] at h
  rcases List.mem_cons.mp h with rfl | hmem
  · rfl
  · rw [(List.mem_replicate.mp hmem).2]
    rfl

/-! ## Strings -/

/-- The code of a control character is read back. -/
theorem codeUnit_control {n : Nat} (h : n < 0x20) (rest : List Char) :
    codeUnit ('0' :: '0' :: hexDigit (n / 16) :: hexDigit (n % 16) :: rest) = some (n, rest) := by
  have hvalue : Digits.value? 16 ['0', '0', hexDigit (n / 16), hexDigit (n % 16)] = some n := by
    interval_cases n <;> decide
  rw [codeUnit, hvalue]
  rfl

/-- A character that is not escaped stands for itself. -/
theorem character_self {c : Char} (hquote : c ≠ '"') (hback : c ≠ '\\') (hlow : ¬ c.toNat < 0x20)
    (rest : List Char) : character (c :: rest) = some (c, rest) := by
  unfold character
  split
  · rename_i heq
    cases heq
  · rename_i heq
    exact absurd (List.cons.inj heq).1 hback
  · rename_i heq
    exact absurd (List.cons.inj heq).1 hback
  · rename_i heq
    obtain ⟨rfl, rfl⟩ := List.cons.inj heq
    simp [hquote, hback, hlow]

/-- A control character is read back from its code. -/
theorem character_control {c : Char} (h : c.toNat < 0x20) (rest : List Char) :
    character ('\\' :: 'u' :: '0' :: '0' :: hexDigit (c.toNat / 16) :: hexDigit (c.toNat % 16) ::
      rest) = some (c, rest) := by
  have hlow : ¬ 0xD800 ≤ c.toNat := by omega
  have hlow' : ¬ 0xDC00 ≤ c.toNat := by omega
  rw [character, escapedUnits, codeUnit_control h]
  simp only [hlow, hlow', decide_false, Bool.false_and, Bool.false_eq_true, if_false,
    Char.ofNat_toNat]

/-- **A written character is read back.** -/
theorem character_escapeChar (c : Char) (rest : List Char) :
    character (escapeChar c ++ rest) = some (c, rest) := by
  unfold escapeChar
  -- seven characters have a letter of their own
  iterate 7
    split
    · rename_i h
      subst h
      rfl
  split
  · rename_i hlow
    exact character_control hlow rest
  · rename_i hquote hback _ _ _ _ _ hlow
    exact character_self hquote hback hlow rest

/-- A written character does not look like the end of its string. -/
theorem escapeChar_eq_cons (c : Char) : ∃ d ds, escapeChar c = d :: ds ∧ d ≠ '"' := by
  unfold escapeChar
  split
  · exact ⟨_, _, rfl, by decide⟩
  · rename_i hquote
    iterate 7
      split
      · exact ⟨_, _, rfl, by decide⟩
    exact ⟨_, _, rfl, hquote⟩

theorem characters_step {n : Nat} {c d : Char} {s rest : List Char} (hquote : d ≠ '"')
    (h : character (d :: s) = some (c, rest)) :
    characters (n + 1) (d :: s) =
      (characters n rest).map fun (cs, rest) => (c :: cs, rest) := by
  rw [characters]
  · simp only [h]
  · rintro _ heq
    exact hquote (List.cons.inj heq).1

/-- **Written characters are read back**, up to the closing quote. -/
theorem characters_escaped (cs : List Char) {n : Nat} (hn : cs.length < n) (rest : List Char) :
    characters n (cs.flatMap escapeChar ++ '"' :: rest) = some (cs, rest) := by
  -- every character costs one, and the closing quote one more
  induction cs generalizing n with
  | nil =>
      obtain ⟨n, rfl⟩ : ∃ k, n = k + 1 := ⟨n - 1, by omega⟩
      rfl
  | cons c cs ih =>
      rw [List.length_cons] at hn
      obtain ⟨n, rfl⟩ : ∃ k, n = k + 1 := ⟨n - 1, by omega⟩
      have hchar := character_escapeChar c (cs.flatMap escapeChar ++ '"' :: rest)
      obtain ⟨d, ds, hshape, hquote⟩ := escapeChar_eq_cons c
      rw [List.flatMap_cons, List.append_assoc]
      rw [hshape, List.cons_append] at hchar ⊢
      rw [characters_step hquote hchar, ih (by omega)]
      rfl

theorem toList_quote (text : String) :
    (quote text).toList = '"' :: (text.toList.flatMap escapeChar ++ ['"']) := by
  rw [quote, String.toList_append, String.toList_append, String.toList_ofList, String.toList_ofList]
  rfl

theorem length_le_escaped (cs : List Char) : cs.length ≤ (cs.flatMap escapeChar).length := by
  induction cs with
  | nil => exact Nat.zero_le _
  | cons c cs ih =>
      obtain ⟨d, ds, hshape, -⟩ := escapeChar_eq_cons c
      rw [List.flatMap_cons, hshape, List.length_append, List.length_cons, List.length_cons]
      omega

/-- **A written string is read back.** -/
theorem quoted_quote (text : String) (rest : List Char) :
    quoted ((quote text).toList ++ rest) = some (text, rest) := by
  rw [toList_quote, List.cons_append, List.append_assoc, List.singleton_append, quoted,
    characters_escaped]
  · simp only [Option.map_some, String.ofList_toList]
  · have := length_le_escaped text.toList
    rw [List.length_append, List.length_cons]
    omega

/-! ## Numbers -/

/-- What stands behind a number does not continue it. -/
def Ends (rest : List Char) : Prop :=
  ∀ c ∈ rest.head?, c.isDigit = false ∧ c ≠ '.' ∧ c ≠ 'e' ∧ c ≠ 'E'

theorem ends_of_isSpace {s : List Char} (h : ∀ c ∈ s, isSpace c = true) : Ends s := by
  intro c hc
  have hspace := h c (List.mem_of_mem_head? hc)
  simp only [isSpace, Bool.or_eq_true, beq_iff_eq] at hspace
  rcases hspace with ((rfl | rfl) | rfl) | rfl <;> decide

/-- A numeral is read up to what does not continue it. -/
theorem digits_decimal (n : Nat) {rest : List Char} (hrest : Ends rest) :
    digits (Digits.decimal n ++ rest) = some ((n, (Digits.decimal n).length), rest) := by
  have hall : ∀ c ∈ Digits.decimal n, c.isDigit = true := fun c => Digits.isDigit_of_mem_decimal
  have htake : rest.takeWhile Char.isDigit = [] := by
    cases rest with
    | nil => rfl
    | cons c rest => exact List.takeWhile_cons_of_neg (by simp [(hrest c rfl).1])
  have hdrop : rest.dropWhile Char.isDigit = rest := by
    cases rest with
    | nil => rfl
    | cons c rest => exact List.dropWhile_cons_of_neg (by simp [(hrest c rfl).1])
  rw [digits, List.takeWhile_append_of_pos hall, List.dropWhile_append_of_pos hall, htake, hdrop,
    List.append_nil, Digits.value?_decimal]
  rfl

/-- Only the numeral of zero starts with a zero, so no zero is left standing in front. -/
theorem whole_decimal (n : Nat) {rest : List Char} (hrest : Ends rest) :
    whole (Digits.decimal n ++ rest) = some (n, rest) := by
  by_cases hzero : n = 0
  · rw [hzero]
    rfl
  · have hdigits := digits_decimal n hrest
    obtain ⟨c, cs, hcs⟩ := List.exists_cons_of_ne_nil (Digits.decimal_ne_nil n)
    have hhead : c ≠ '0' := by
      rintro rfl
      exact Digits.head?_decimal hzero (by rw [hcs]; rfl)
    rw [hcs, List.cons_append] at hdigits ⊢
    rw [whole]
    · rw [hdigits]
      rfl
    · rintro _ heq
      exact hhead (List.cons.inj heq).1

/-- There is neither a fraction nor an exponent. -/
theorem unsigned_decimal (n : Nat) {rest : List Char} (hrest : Ends rest) :
    unsigned (Digits.decimal n ++ rest) = some ((n, 0), rest) := by
  have hfraction : fraction rest = some ((0, 0), rest) := by
    rw [fraction]
    rintro _ rfl
    exact (hrest '.' rfl).2.1 rfl
  have hpower : power rest = some (0, rest) := by
    cases rest with
    | nil => rfl
    | cons c rest =>
        obtain ⟨-, -, hsmall, hlarge⟩ := hrest c rfl
        exact if_neg (by simp [hsmall, hlarge])
  simp [unsigned, whole_decimal n hrest, hfraction, hpower]

/-- **A written number is read back.** -/
theorem number_signedText (n : Int) {rest : List Char} (hrest : Ends rest) :
    Grammar.number ((Digits.signedText n).toList ++ rest) = some (.number n 0, rest) := by
  rw [Digits.toList_signedText]
  split
  · rename_i hneg
    rw [List.cons_append, Grammar.number, unsigned_decimal _ hrest]
    have hvalue : -(n.natAbs : Int) = n := by omega
    simp only [Option.map_some, hvalue]
  · rename_i hpos
    have hvalue : (n.natAbs : Int) = n := by omega
    have hunsigned := unsigned_decimal n.natAbs hrest
    obtain ⟨c, cs, hcs⟩ := List.exists_cons_of_ne_nil (Digits.decimal_ne_nil n.natAbs)
    have hdigit : c.isDigit = true := Digits.isDigit_of_mem_decimal (hcs ▸ List.mem_cons_self)
    rw [hcs, List.cons_append] at hunsigned ⊢
    rw [Grammar.number]
    · simp only [hunsigned, Option.map_some, hvalue]
    · rintro _ heq
      obtain rfl := (List.cons.inj heq).1
      exact absurd hdigit (by decide)

/-- A word that starts like a number is one. -/
theorem value_number {c : Char} (h : c = '-' ∨ c.isDigit = true) (depth : Nat) (s : List Char) :
    value (depth + 1) (c :: s) = Grammar.number (c :: s) := by
  rw [value]
  all_goals
    rintro _ heq
    obtain rfl := (List.cons.inj heq).1
    revert h
    decide

theorem isSpace_of_isDigit {c : Char} (h : c.isDigit = true) : isSpace c = false := by
  rw [Bool.eq_false_iff]
  intro hspace
  simp only [isSpace, Bool.or_eq_true, beq_iff_eq] at hspace
  rcases hspace with ((rfl | rfl) | rfl) | rfl <;> exact absurd h (by decide)

/-- How the numeral of an integer starts. -/
theorem exists_start_number (n : Int) :
    ∃ c cs, (Digits.signedText n).toList = c :: cs ∧ (c = '-' ∨ c.isDigit = true) := by
  rw [Digits.toList_signedText]
  split
  · exact ⟨'-', _, rfl, .inl rfl⟩
  · obtain ⟨c, cs, hcs⟩ := List.exists_cons_of_ne_nil (Digits.decimal_ne_nil n.natAbs)
    exact ⟨c, cs, hcs, .inr (Digits.isDigit_of_mem_decimal (hcs ▸ List.mem_cons_self))⟩

/-! ## Layout -/

/-- A member as it is written. -/
def memberText (depth : Nat) (m : String × Json) : List Char :=
  (quote m.1).toList ++ ':' :: ' ' :: (m.2.pretty depth).toList

/-- Members as they are written, each on a line of its own. -/
def membersText (depth : Nat) (ms : List (String × Json)) : List Char :=
  (("," ++ lineBreak depth).intercalate (prettyMembers depth ms)).toList

theorem toList_memberText (depth : Nat) (key : String) (json : Json) :
    (quote key ++ ": " ++ json.pretty depth).toList = memberText depth (key, json) := by
  rw [memberText, String.toList_append, String.toList_append, List.append_assoc]
  rfl

theorem membersText_singleton (depth : Nat) (m : String × Json) :
    membersText depth [m] = memberText depth m := by
  rw [membersText, prettyMembers, prettyMembers, String.intercalate_singleton, toList_memberText]

theorem membersText_cons_cons (depth : Nat) (m m' : String × Json) (ms : List (String × Json)) :
    membersText depth (m :: m' :: ms) =
      memberText depth m ++ ',' :: ((lineBreak depth).toList ++ membersText depth (m' :: ms)) := by
  rw [membersText, membersText, prettyMembers, prettyMembers, String.intercalate_cons_cons,
    String.toList_append, String.toList_append, toList_memberText, String.toList_append,
    List.append_assoc, List.append_assoc]
  rfl

/-- An object with members goes over several lines. -/
theorem toList_object (depth : Nat) (m : String × Json) (ms : List (String × Json)) :
    (pretty depth (.object (m :: ms))).toList =
      '\x7b' :: ((lineBreak (depth + 1)).toList ++ (membersText (depth + 1) (m :: ms) ++
        ((lineBreak depth).toList ++ ['\x7d']))) := by
  rw [pretty]
  · simp only [String.toList_append, membersText, List.append_assoc]
    rfl
  · exact fun h => List.cons_ne_nil m ms h

/-- Members start with the quote of a name. -/
theorem exists_start_members (depth : Nat) (m : String × Json) (ms : List (String × Json)) :
    ∃ cs, membersText depth (m :: ms) = '"' :: cs := by
  cases ms with
  | nil => exact ⟨_, by rw [membersText_singleton, memberText, toList_quote]; rfl⟩
  | cons m' ms => exact ⟨_, by rw [membersText_cons_cons, memberText, toList_quote]; rfl⟩

/-- A value does not start with white space. -/
theorem exists_start (depth : Nat) (json : Json) :
    ∃ c cs, (json.pretty depth).toList = c :: cs ∧ isSpace c = false := by
  cases json with
  | null => exact ⟨'n', _, by rw [pretty]; rfl, rfl⟩
  | number n =>
      obtain ⟨c, cs, hcs, hstart⟩ := exists_start_number n
      refine ⟨c, cs, by rw [pretty, hcs], ?_⟩
      rcases hstart with rfl | hdigit
      · rfl
      · exact isSpace_of_isDigit hdigit
  | string text => exact ⟨'"', _, by rw [pretty, toList_quote], rfl⟩
  | object members =>
      cases members with
      | nil => exact ⟨'\x7b', _, by rw [pretty]; rfl, rfl⟩
      | cons m ms => exact ⟨'\x7b', _, toList_object depth m ms, rfl⟩

theorem length_le_membersText {depth : Nat} {m : String × Json} {ms : List (String × Json)}
    (h : m ∈ ms) : (m.2.pretty depth).toList.length ≤ (membersText depth ms).length := by
  have hmember : ∀ m : String × Json,
      (m.2.pretty depth).toList.length ≤ (memberText depth m).length := by
    intro m
    rw [memberText, List.length_append, List.length_cons, List.length_cons]
    omega
  induction ms with
  | nil => cases h
  | cons first ms ih =>
      cases ms with
      | nil =>
          obtain rfl := List.mem_singleton.mp h
          rw [membersText_singleton]
          exact hmember m
      | cons second ms =>
          rw [membersText_cons_cons, List.length_append, List.length_cons, List.length_append]
          rcases List.mem_cons.mp h with rfl | hrest
          · have := hmember m
            omega
          · have := ih hrest
            omega

theorem length_members_le (depth : Nat) (ms : List (String × Json)) :
    ms.length ≤ (membersText depth ms).length := by
  induction ms with
  | nil => exact Nat.zero_le _
  | cons first ms ih =>
      cases ms with
      | nil =>
          obtain ⟨cs, hcs⟩ := exists_start_members depth first []
          rw [hcs]
          simp
      | cons second ms =>
          rw [membersText_cons_cons]
          simp only [List.length_cons, List.length_append] at ih ⊢
          omega

/-! ## Values -/

mutual

/-- What a value means as a text. -/
def datum : Json → Datum
  | .null => .null
  | .number n => .number n 0
  | .string text => .string text
  | .object members => .object (datumMembers members)

def datumMembers : List (String × Json) → List (String × Datum)
  | [] => []
  | (key, value) :: rest => (key, datum value) :: datumMembers rest

end

/-- A value is read back at the front of any text that does not continue it. -/
def ReadsBack (depth bound : Nat) (json : Json) : Prop :=
  ∀ rest, Ends rest → value bound ((json.pretty depth).toList ++ rest) = some (json.datum, rest)

theorem member_memberText {depth bound : Nat} {m : String × Json} (h : ReadsBack depth bound m.2)
    {rest : List Char} (hrest : Ends rest) :
    member (value bound) (memberText depth m ++ rest) = some ((m.1, m.2.datum), rest) := by
  obtain ⟨c, cs, hcs, hspace⟩ := exists_start depth m.2
  have hcolon : skip (':' :: ' ' :: ((m.2.pretty depth).toList ++ rest)) =
      ':' :: ' ' :: ((m.2.pretty depth).toList ++ rest) := rfl
  have hblank : skip (' ' :: ((m.2.pretty depth).toList ++ rest)) =
      (m.2.pretty depth).toList ++ rest := by
    rw [hcs, List.cons_append]
    exact skip_cons hspace (cs ++ rest)
  rw [member, memberText, List.append_assoc, List.cons_append, List.cons_append, quoted_quote]
  simp only [hcolon, hblank, h rest hrest, Option.map_some]

/-- Behind the last member comes the end of the object, which continues no number. -/
theorem ends_close {back : List Char} (hback : ∀ c ∈ back, isSpace c = true) (rest : List Char) :
    Ends (back ++ '\x7d' :: rest) := by
  cases back with
  | nil =>
      intro c hc
      obtain rfl := Option.some.inj hc
      decide
  | cons b back =>
      intro c hc
      obtain rfl := Option.some.inj hc
      exact ends_of_isSpace hback b rfl

/-- **Written members are read back**, up to the closing brace. -/
theorem items_membersText {depth bound : Nat} (m : String × Json) (ms : List (String × Json))
    (h : ∀ m' ∈ m :: ms, ReadsBack depth bound m'.2) {n : Nat} (hn : ms.length < n)
    {back : List Char} (hback : ∀ c ∈ back, isSpace c = true) (rest : List Char) :
    items (member (value bound)) '\x7d' n (membersText depth (m :: ms) ++ (back ++ '\x7d' :: rest)) =
      some (datumMembers (m :: ms), rest) := by
  induction ms generalizing m n with
  | nil =>
      obtain ⟨n, rfl⟩ : ∃ k, n = k + 1 := ⟨n - 1, by omega⟩
      have hitem := member_memberText (h m List.mem_cons_self) (ends_close hback rest)
      have hskip : skip (back ++ '\x7d' :: rest) = '\x7d' :: rest := skip_append hback _
      rw [membersText_singleton, items, hitem]
      simp only [hskip]
      rfl
  | cons m' ms ih =>
      rw [List.length_cons] at hn
      obtain ⟨n, rfl⟩ : ∃ k, n = k + 1 := ⟨n - 1, by omega⟩
      obtain ⟨cs, hcs⟩ := exists_start_members depth m' ms
      have hends : ∀ s : List Char, Ends (',' :: s) := by
        intro s c hc
        obtain rfl := Option.some.inj hc
        decide
      have hitem := fun s => member_memberText (h m List.mem_cons_self) (hends s)
      have hskip : ∀ s, skip ((lineBreak depth).toList ++ (membersText depth (m' :: ms) ++ s)) =
          membersText depth (m' :: ms) ++ s := by
        intro s
        rw [skip_append fun _ => isSpace_of_mem_lineBreak, hcs]
        rfl
      have hrest := @ih m' (fun m hm => h m (List.mem_cons_of_mem _ hm)) n (by omega)
      rw [membersText_cons_cons, List.append_assoc, List.cons_append, List.append_assoc, items,
        hitem]
      simp only [skip_cons (c := ',') rfl, if_true, hskip, hrest, Option.map_some]
      rw [datumMembers, datumMembers, datumMembers]

/-- An object with members is read back if its members are. -/
theorem readsBack_object {depth bound : Nat} {m : String × Json} {ms : List (String × Json)}
    (h : ∀ m' ∈ m :: ms, ReadsBack (depth + 1) bound m'.2) :
    ReadsBack depth (bound + 1) (.object (m :: ms)) := by
  intro rest _
  obtain ⟨cs, hcs⟩ := exists_start_members (depth + 1) m ms
  have hitems := fun n hn => @items_membersText (depth + 1) bound m ms h n hn (lineBreak depth).toList
    (fun _ => isSpace_of_mem_lineBreak) rest
  have hlength := length_members_le (depth + 1) (m :: ms)
  rw [hcs] at hitems hlength
  have hbracketed : bracketed (member (value bound)) '\x7d'
      ((lineBreak (depth + 1)).toList ++ ('"' :: cs ++ ((lineBreak depth).toList ++ '\x7d' :: rest))) =
        some (datumMembers (m :: ms), rest) := by
    rw [bracketed, skip_append fun _ => isSpace_of_mem_lineBreak, List.cons_append,
      skip_cons rfl]
    dsimp only
    rw [if_neg (by decide)]
    refine hitems _ ?_
    simp only [List.length_append, List.length_cons] at hlength ⊢
    omega
  rw [toList_object, hcs]
  simp only [List.cons_append, List.append_assoc, List.nil_append, value] at hbracketed ⊢
  rw [hbracketed]
  simp only [Option.map_some, datum]

/-- What holds of an object if it holds of its members' values holds of every value. -/
@[elab_as_elim]
theorem induct {P : Json → Prop} (null : P .null) (number : ∀ n, P (.number n))
    (string : ∀ text, P (.string text))
    (object : ∀ members, (∀ m ∈ members, P m.2) → P (.object members)) : ∀ json, P json
  | .null => null
  | .number n => number n
  | .string text => string text
  | .object members => object members fun m _hm => induct null number string object m.2
termination_by json => sizeOf json
decreasing_by
  have := List.sizeOf_lt_of_mem _hm
  obtain ⟨key, json⟩ := m
  simp only [Json.object.sizeOf_spec, Prod.mk.sizeOf_spec] at this ⊢
  omega

/-- There is some text in every value. -/
theorem exists_bound {json : Json} {depth bound : Nat}
    (h : (json.pretty depth).toList.length ≤ bound) : ∃ k, bound = k + 1 := by
  obtain ⟨c, cs, hcs, -⟩ := exists_start depth json
  rw [hcs, List.length_cons] at h
  exact ⟨bound - 1, by omega⟩

/-- **A written value is read back** wherever nothing continues it. -/
theorem readsBack (json : Json) {depth bound : Nat}
    (hbound : (json.pretty depth).toList.length ≤ bound) : ReadsBack depth bound json := by
  induction json using induct generalizing depth bound with
  | null =>
      obtain ⟨bound, rfl⟩ := exists_bound hbound
      intro rest _
      rw [pretty]
      rfl
  | number n =>
      obtain ⟨bound, rfl⟩ := exists_bound hbound
      intro rest hrest
      obtain ⟨c, cs, hcs, hstart⟩ := exists_start_number n
      have hnumber := number_signedText n hrest
      rw [pretty]
      rw [hcs, List.cons_append] at hnumber ⊢
      rw [value_number hstart, hnumber, datum]
  | string text =>
      obtain ⟨bound, rfl⟩ := exists_bound hbound
      intro rest _
      have hquoted := quoted_quote text rest
      rw [pretty]
      rw [toList_quote, List.cons_append] at hquoted ⊢
      rw [value, hquoted, Option.map_some, datum]
  | object members ih =>
      obtain ⟨bound, rfl⟩ := exists_bound hbound
      cases members with
      | nil =>
          intro rest _
          rw [pretty]
          rfl
      | cons m ms =>
          refine readsBack_object fun m' hm => ?_
          -- there is less text between the braces
          have hinner := @length_le_membersText (depth + 1) m' (m :: ms) hm
          rw [toList_object] at hbound
          simp only [List.length_cons, List.length_append] at hbound
          exact ih m' hm (by omega)

/-- **What is written is JSON, and it means what was meant.** White space behind it means nothing. -/
theorem read?_pretty (json : Json) {back : List Char} (hback : ∀ c ∈ back, isSpace c = true) :
    read? ((json.pretty 0).toList ++ back) = some json.datum := by
  obtain ⟨c, cs, hcs, hspace⟩ := exists_start 0 json
  have hskip : skip ((json.pretty 0).toList ++ back) = (json.pretty 0).toList ++ back := by
    rw [hcs, List.cons_append]
    exact skip_cons hspace (cs ++ back)
  have hvalue := @readsBack json 0 ((json.pretty 0).toList ++ back).length
    (by rw [List.length_append]; omega) back (ends_of_isSpace hback)
  rw [read?, hskip, hvalue]
  simp only [skip_of_spaces hback, if_true]

end FreshBuild.Json
