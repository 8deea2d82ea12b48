/-
# FreshBuild.Proofs.Toml.Written — values that are written and read back.

A writer has few decisions to make. A character of a text stands for itself or is escaped by its code,
and an escape can have four digits or eight, in small letters or in capitals; `Style` is what may
differ. Numbers and truth values are words, and lists of texts stand in square brackets with a comma
and a space between them.

Whatever the style is, the reader finds the value again and stops behind it (`Style.value_plain`). The
one thing that it depends on is what stands behind: two quotes would become three, and a word would
become longer. So texts are read back in front of anything but a quote, and values in front of the end
of their line.
-/
import FreshBuild.Proofs.Text.Numerals
import FreshBuild.Toml.Document

namespace FreshBuild.Toml

/-! ## Characters -/

/-- What a writer decides about characters that do not stand for themselves. -/
structure Style where
  /-- The letters among the digits of a code are small. -/
  small : Bool
  /-- Eight digits are written for these even where four would do. -/
  wide : Char → Bool

/-- A character of a text that can be printed in ASCII and has no meaning of its own there. -/
def standsForItself (c : Char) : Bool :=
  ' ' ≤ c && c ≤ '~' && c != '"' && c != '\\'

/-- A character as it is written inside quotes. -/
def Style.character (style : Style) (c : Char) : List Char :=
  if standsForItself c then [c]
  else if 0xFFFF < c.toNat || style.wide c then '\\' :: 'U' :: Digits.hex style.small 8 c.toNat
  else '\\' :: 'u' :: Digits.hex style.small 4 c.toNat

theorem charOfCode?_toNat (c : Char) : charOfCode? c.toNat = some c := by
  have hvalid : c.toNat.isValidChar := c.valid
  rw [charOfCode?, dif_pos hvalid]
  rfl

theorem hexChar_hex (small : Bool) {width : Nat} {c : Char} (hpos : 0 < width)
    (hwide : c.toNat < 16 ^ width) (rest : List Char) :
    hexChar width (Digits.hex small width c.toNat ++ rest) = some (c, rest) := by
  have hlength : (Digits.hex small width c.toNat).length = width := Digits.length_hex ..
  simp only [hexChar, List.take_left' hlength, List.drop_left' hlength, hlength, if_true]
  rw [Digits.value?_hex small hpos hwide, Option.bind_some, charOfCode?_toNat, Option.map_some]

/-- The two ways to write a character: by itself, or as an escape that stands for it. -/
theorem Style.character_cases (style : Style) (c : Char) :
    style.character c = [c] ∧ standsForItself c = true ∨
      ∃ code, style.character c = '\\' :: code ∧ ∀ rest, escape (code ++ rest) = some (c, rest) := by
  unfold character
  split
  · rename_i hself
    exact Or.inl ⟨rfl, hself⟩
  · split
    · refine Or.inr ⟨_, rfl, fun rest => ?_⟩
      rw [List.cons_append, escape]
      exact hexChar_hex style.small (by decide) c.val.toNat_lt rest
    · rename_i hnarrow
      have hlow : c.toNat < 16 ^ 4 := by
        simp only [Bool.or_eq_true, decide_eq_true_eq, not_or, not_lt] at hnarrow
        omega
      refine Or.inr ⟨_, rfl, fun rest => ?_⟩
      rw [List.cons_append, escape]
      exact hexChar_hex style.small (by decide) hlow rest

/-! ## Texts -/

theorem basicTail_quote (rest : List Char) : basicTail ('"' :: rest) = some ([], rest) := by
  rw [basicTail, if_pos rfl]

theorem basicTail_escape {c : Char} {code rest : List Char} (h : escape code = some (c, rest)) :
    basicTail ('\\' :: code) = (basicTail rest).map fun (text, after) => (c :: text, after) := by
  rw [basicTail, if_neg (by decide), if_pos rfl]
  split
  · rename_i heq
    obtain ⟨rfl, rfl⟩ := Prod.mk.inj (Option.some.inj (heq.symm.trans h))
    rfl
  · rename_i heq
    rw [h] at heq
    cases heq

theorem basicTail_self {c : Char} (h : standsForItself c = true) (rest : List Char) :
    basicTail (c :: rest) = (basicTail rest).map fun (text, after) => (c :: text, after) := by
  simp only [standsForItself, Bool.and_eq_true, decide_eq_true_eq, bne_iff_ne] at h
  obtain ⟨⟨⟨hlow, hhigh⟩, hquote⟩, hslash⟩ := h
  have hplain : isPlain c = true := by
    have hdelete : c ≠ '\x7F' := by
      rintro rfl
      exact absurd hhigh (by decide)
    simp [isPlain, hlow, hdelete]
  rw [basicTail, if_neg hquote, if_neg hslash, if_pos hplain]

theorem Style.basicTail_character (style : Style) (c : Char) (rest : List Char) :
    basicTail (style.character c ++ rest) =
      (basicTail rest).map fun (text, after) => (c :: text, after) := by
  rcases style.character_cases c with ⟨hself, hstands⟩ | ⟨code, hcode, hescape⟩
  · rw [hself]
    exact basicTail_self hstands rest
  · rw [hcode]
    exact basicTail_escape (hescape rest)

/-- Written characters are read back up to the closing quote. -/
theorem Style.basicTail_characters (style : Style) (cs rest : List Char) :
    basicTail (cs.flatMap style.character ++ '"' :: rest) = some (cs, rest) := by
  induction cs with
  | nil => exact basicTail_quote rest
  | cons c cs ih =>
      rw [List.flatMap_cons, List.append_assoc, style.basicTail_character, ih, Option.map_some]

/-- Written characters do not start with a quote. -/
theorem Style.head?_characters (style : Style) (cs : List Char) :
    (cs.flatMap style.character).head? ≠ some '"' := by
  cases cs with
  | nil => simp
  | cons c cs =>
      rw [List.flatMap_cons]
      rcases style.character_cases c with ⟨hself, hstands⟩ | ⟨code, hcode, -⟩
      · rw [hself, List.singleton_append, List.head?_cons, ne_eq, Option.some.injEq]
        rintro rfl
        cases hstands
      · rw [hcode, List.cons_append, List.head?_cons]
        decide

/-- A text between quotes. -/
def Style.text (style : Style) (s : String) : List Char :=
  '"' :: (s.toList.flatMap style.character ++ ['"'])

/-- What does not start with three quotes is no text on several lines. -/
theorem quotedText_eq_lineText {s : List Char}
    (hbasic : ∀ rest, s ≠ '"' :: '"' :: '"' :: rest)
    (hliteral : ∀ rest, s ≠ '\'' :: '\'' :: '\'' :: rest) : quotedText s = lineText s := by
  unfold quotedText
  split
  · exact absurd rfl (hbasic _)
  · exact absurd rfl (hliteral _)
  · rfl

/-- **A written text is read back** in front of anything but a quote. -/
theorem Style.quotedText_text (style : Style) (s : String) {rest : List Char}
    (hrest : rest.head? ≠ some '"') : quotedText (style.text s ++ rest) = some (s, rest) := by
  have hshape : style.text s ++ rest =
      '"' :: (s.toList.flatMap style.character ++ '"' :: rest) := by
    rw [text, List.cons_append, List.append_assoc, List.singleton_append]
  have hline : quotedText (style.text s ++ rest) = lineText (style.text s ++ rest) := by
    rw [hshape]
    refine quotedText_eq_lineText (fun t htriple => ?_) fun t htriple => ?_
    · -- the second quote is the closing one, so the third would be the first character behind
      have hhead := style.head?_characters s.toList
      have htail := (List.cons.inj htriple).2
      cases hchars : s.toList.flatMap style.character with
      | nil =>
          rw [hchars, List.nil_append] at htail
          rw [(List.cons.inj htail).2] at hrest
          exact hrest rfl
      | cons c cs =>
          rw [hchars, List.cons_append] at htail
          rw [hchars, (List.cons.inj htail).1] at hhead
          exact hhead rfl
    · cases (List.cons.inj htriple).1
  rw [hline, hshape, lineText, style.basicTail_characters, Option.map_some]
  simp only [String.ofList_toList]

/-! ## Words -/

/-- A character of a class is none that is not in it. -/
theorem ne_of_class {p : Char → Bool} {c d : Char} (hc : p c = true) (hd : p d = false) :
    c ≠ d := by
  rintro rfl
  rw [hc] at hd
  cases hd

/-- A word of plain characters ends with its line. -/
theorem word_line {w : List Char} (h : ∀ c ∈ w, isPunctuation c = false ∧ isBlank c = false)
    (rest : List Char) : word (w ++ '\n' :: rest) = (w, '\n' :: rest) := by
  induction w with
  | nil => rfl
  | cons c w ih =>
      obtain ⟨hpunctuation, hblank⟩ := h c List.mem_cons_self
      have hrest := ih fun d hd => h d (List.mem_cons_of_mem c hd)
      rw [List.cons_append, word, hpunctuation, hblank, hrest]
      rfl

theorem isSome_digit?_of_isDigit {c : Char} (h : c.isDigit = true) :
    (Digits.digit? 10 c).isSome = true := by
  have hrange : '0' ≤ c ∧ c ≤ '9' := by
    simpa [Char.isDigit, Char.le_def] using h
  have hvalue : c.toNat - '0'.toNat < 10 := by
    have hlow : 48 ≤ c.toNat := hrange.1
    have hhigh : c.toNat ≤ 57 := hrange.2
    show c.toNat - 48 < 10
    omega
  rw [Digits.digit?, if_pos hrange, Option.filter_some, if_pos (decide_eq_true hvalue)]
  rfl

/-- Digits without underscores are a group as they stand. -/
theorem ungroup_digits {isDigit : Char → Bool} (hunderscore : isDigit '_' = false)
    {ds : List Char} (hne : ds ≠ []) (h : ∀ c ∈ ds, isDigit c = true) :
    ungroup isDigit ds = some ds := by
  induction ds with
  | nil => exact absurd rfl hne
  | cons c ds ih =>
      have hc := h c List.mem_cons_self
      cases ds with
      | nil => rw [ungroup, if_pos hc]
      | cons d ds =>
          have hd : d ≠ '_' := ne_of_class (h d (by simp)) hunderscore
          have htail := ih (List.cons_ne_nil d ds) fun e he => h e (List.mem_cons_of_mem c he)
          rw [ungroup, if_pos hc, htail, Option.map_some]
          · simp
          · rintro rest heq
            exact hd (List.cons.inj heq).1

/-- A decimal numeral has no redundant zero. -/
theorem plainGroup?_decimal (n : Nat) : plainGroup? (Digits.decimal n) = some n := by
  unfold plainGroup?
  split
  · rename_i d ds hzero
    have hn : n = 0 := by
      by_contra hne
      exact Digits.head?_decimal hne (by rw [hzero, List.head?_cons])
    rw [hn] at hzero
    cases hzero
  · have hall : ∀ c ∈ Digits.decimal n, (Digits.digit? 10 c).isSome = true :=
      fun c hc => isSome_digit?_of_isDigit (Digits.isDigit_of_mem_decimal hc)
    rw [group?, ungroup_digits rfl (Digits.decimal_ne_nil n) hall, Option.bind_some,
      Digits.value?_decimal]

section Digits

variable {c : Char} {cs : List Char}

/-- A digit is no sign. -/
theorem splitSign_of_isDigit (h : c.isDigit = true) : splitSign (c :: cs) = (false, c :: cs) := by
  unfold splitSign
  split
  · rename_i heq
    exact absurd (List.cons.inj heq).1 (ne_of_class h rfl)
  · rename_i heq
    exact absurd (List.cons.inj heq).1 (ne_of_class h rfl)
  · rfl

theorem signedGroup?_of_isDigit (h : c.isDigit = true) :
    signedGroup? (c :: cs) = (plainGroup? (c :: cs)).map (false, ·) := by
  unfold signedGroup?
  split
  · rename_i heq
    exact absurd (List.cons.inj heq).1 (ne_of_class h rfl)
  · rename_i heq
    exact absurd (List.cons.inj heq).1 (ne_of_class h rfl)
  · rw [splitSign_of_isDigit h]

/-- Digits alone are an integer of radix ten: no letter says otherwise. -/
theorem integer?_of_isDigit (h : ∀ d ∈ c :: cs, d.isDigit = true) :
    integer? (c :: cs) = (plainGroup? (c :: cs)).map Int.ofNat := by
  have hletter : ∀ d ds, c :: cs = '0' :: d :: ds → d.isDigit = true := by
    rintro d ds heq
    exact h d (by simp [heq])
  -- the letters of the other radices are no digits
  unfold integer?
  split
  · rename_i heq
    cases hletter _ _ heq
  · rename_i heq
    cases hletter _ _ heq
  · rename_i heq
    cases hletter _ _ heq
  · rw [signedGroup?_of_isDigit (h c List.mem_cons_self), Option.map_map]
    rfl

end Digits

/-- **A decimal numeral is an integer** when it is read as a word. -/
theorem wordValue?_decimal (n : Nat) : wordValue? (Digits.decimal n) = some (.integer n) := by
  obtain ⟨c, cs, hcs⟩ := List.exists_cons_of_ne_nil (Digits.decimal_ne_nil n)
  have hdigits : ∀ d ∈ c :: cs, d.isDigit = true :=
    fun d hd => Digits.isDigit_of_mem_decimal (hcs ▸ hd)
  have hletter : ∀ d ds, d.isDigit = false → c :: cs ≠ d :: ds := fun d ds hd heq =>
    ne_of_class (hdigits c List.mem_cons_self) hd (List.cons.inj heq).1
  have hinteger : integer? (c :: cs) = some (n : Int) := by
    rw [integer?_of_isDigit hdigits, ← hcs, plainGroup?_decimal]
    rfl
  -- `true` and `false` start with letters
  rw [hcs, wordValue?, if_neg (hletter _ _ rfl), if_neg (hletter _ _ rfl), hinteger]

/-- The word of a truth value. -/
def flagWord (b : Bool) : List Char :=
  if b then ['t', 'r', 'u', 'e'] else ['f', 'a', 'l', 's', 'e']

theorem wordValue?_flag (b : Bool) : wordValue? (flagWord b) = some (.boolean b) := by
  cases b <;> rfl

/-- A letter or a digit stands inside a word: it neither ends one nor starts anything else. -/
theorem inside_of_isAlphanum {c : Char} (h : c.isAlphanum = true) :
    isPunctuation c = false ∧ isBlank c = false ∧ c ≠ '"' ∧ c ≠ '\'' := by
  refine ⟨?_, ?_, ne_of_class h rfl, ne_of_class h rfl⟩
  · simp only [isPunctuation, Bool.or_eq_false_iff, beq_eq_false_iff_ne]
    refine ⟨⟨⟨⟨⟨⟨⟨⟨?_, ?_⟩, ?_⟩, ?_⟩, ?_⟩, ?_⟩, ?_⟩, ?_⟩, ?_⟩ <;> exact ne_of_class h rfl
  · simp only [isBlank, Bool.or_eq_false_iff, beq_eq_false_iff_ne]
    exact ⟨ne_of_class h rfl, ne_of_class h rfl⟩

/-! ## Values -/

/-- What quotes start is a text, however deep. -/
theorem value_of_quotedText {s rest : List Char} {text : String}
    (h : quotedText s = some (text, rest)) (depth : Nat) :
    value depth s = some (.string text, rest) := by
  cases depth with
  | zero => rw [value, h]
  | succ depth =>
      unfold value
      split
      · cases h
      · cases h
      · rw [h]

theorem quotedText_of_no_quote {c : Char} (hquote : c ≠ '"') (hapostrophe : c ≠ '\'')
    (s : List Char) : quotedText (c :: s) = none := by
  have hline : quotedText (c :: s) = lineText (c :: s) := by
    apply quotedText_eq_lineText
    · intro t heq
      exact hquote (List.cons.inj heq).1
    · intro t heq
      exact hapostrophe (List.cons.inj heq).1
  rw [hline]
  unfold lineText
  split
  · rename_i heq
    exact absurd (List.cons.inj heq).1 hquote
  · rename_i heq
    exact absurd (List.cons.inj heq).1 hapostrophe
  · rfl

/-- What neither a quote nor a bracket starts is a single word, however deep. -/
theorem value_eq_scalar {c : Char} (hpunctuation : isPunctuation c = false) (hquote : c ≠ '"')
    (hapostrophe : c ≠ '\'') (depth : Nat) (s : List Char) :
    value depth (c :: s) = scalar (c :: s) := by
  have hquoted := quotedText_of_no_quote hquote hapostrophe s
  cases depth with
  | zero => rw [value, hquoted]
  | succ depth =>
      unfold value
      split
      · rename_i heq
        rw [(List.cons.inj heq).1] at hpunctuation
        cases hpunctuation
      · rename_i heq
        rw [(List.cons.inj heq).1] at hpunctuation
        cases hpunctuation
      · rw [hquoted]

/-- A word at the end of a line is a value, however deep. -/
theorem value_of_wordValue? {w : List Char} (hne : w ≠ [])
    (hw : ∀ c ∈ w, c.isAlphanum = true) {v : Value} (hv : wordValue? w = some v) (depth : Nat)
    (rest : List Char) : value depth (w ++ '\n' :: rest) = some (v, '\n' :: rest) := by
  have hinside : ∀ c ∈ w, isPunctuation c = false ∧ isBlank c = false := by
    intro c hc
    obtain ⟨hpunctuation, hblank, -⟩ := inside_of_isAlphanum (hw c hc)
    exact ⟨hpunctuation, hblank⟩
  have hscalar : scalar (w ++ '\n' :: rest) = some (v, '\n' :: rest) := by
    rw [scalar, word_line hinside, hv]
    rfl
  obtain ⟨c, cs, rfl⟩ := List.exists_cons_of_ne_nil hne
  obtain ⟨hpunctuation, -, hquote, hapostrophe⟩ :=
    inside_of_isAlphanum (hw c List.mem_cons_self)
  exact (value_eq_scalar hpunctuation hquote hapostrophe depth _).trans hscalar

/-! ## Lists of texts -/

/-- A character that may stand between the items of a list without a meaning. -/
def isFiller (c : Char) : Bool := isBlank c || c == '\n' || c == '\r' || c == '#'

theorem skipFiller_of_not_isFiller {c : Char} (h : isFiller c = false) (rest : List Char) :
    skipFiller false (c :: rest) = c :: rest := by
  simp only [isFiller, Bool.or_eq_false_iff, beq_eq_false_iff_ne] at h
  obtain ⟨⟨⟨hblank, hline⟩, hreturn⟩, hcomment⟩ := h
  rw [skipFiller, hblank, if_neg hcomment]
  · simp
  · rintro t rfl
    exact fun _ => hreturn rfl
  · exact hline

/-- The items of a written list, up to and with its closing bracket. -/
def Style.list (style : Style) : List String → List Char
  | [] => [']']
  | [s] => style.text s ++ [']']
  | s :: t :: rest => style.text s ++ ',' :: ' ' :: style.list (t :: rest)

theorem Style.length_le_list (style : Style) (ss : List String) :
    ss.length ≤ (style.list ss).length := by
  induction ss with
  | nil => exact Nat.zero_le _
  | cons s ss ih =>
      cases ss with
      | nil => simp [list]
      | cons t ss =>
          rw [list, List.length_cons (a := s)]
          simp only [List.length_append, List.length_cons] at ih ⊢
          omega

section Items

variable {α : Type} {item : Reader α} {close : Char} {fuel : Nat}

theorem items_blank (s : List Char) :
    items item close fuel (' ' :: s) = items item close fuel s := by
  cases fuel with
  | zero => rfl
  | succ fuel => rfl

theorem items_close (h : isFiller close = false) (rest : List Char) :
    items item close (fuel + 1) (close :: rest) = some ([], rest) := by
  rw [items, skipFiller_of_not_isFiller h]
  simp only [if_true]

variable {c : Char} {s : List Char} {v : α} (hfiller : isFiller c = false) (hclose : c ≠ close)
include hfiller hclose

theorem items_last {rest : List Char} (h : item (c :: s) = some (v, close :: rest))
    (hend : isFiller close = false) (hcomma : close ≠ ',') :
    items item close (fuel + 1) (c :: s) = some ([v], rest) := by
  rw [items, skipFiller_of_not_isFiller hfiller]
  simp only [if_neg hclose, h, skipFiller_of_not_isFiller hend, if_true]

theorem items_comma {more : List Char} (h : item (c :: s) = some (v, ',' :: more)) :
    items item close (fuel + 1) (c :: s) =
      (items item close fuel more).map fun (vs, after) => (v :: vs, after) := by
  rw [items, skipFiller_of_not_isFiller hfiller]
  simp only [if_neg hclose, h, skipFiller_of_not_isFiller (c := ',') rfl]

end Items

/-- **A written list is read back.** -/
theorem Style.items_list (style : Style) (depth : Nat) (ss : List String) {fuel : Nat}
    (hfuel : ss.length < fuel) (rest : List Char) :
    items (value depth) ']' fuel (style.list ss ++ rest) = some (ss.map .string, rest) := by
  -- every item costs one unit of fuel, and the closing bracket one more
  induction ss generalizing fuel with
  | nil =>
      obtain ⟨fuel, rfl⟩ : ∃ k, fuel = k + 1 := ⟨fuel - 1, by omega⟩
      exact items_close rfl rest
  | cons s ss ih =>
      rw [List.length_cons] at hfuel
      obtain ⟨fuel, rfl⟩ : ∃ k, fuel = k + 1 := ⟨fuel - 1, by omega⟩
      have hitem : ∀ after : List Char, after.head? ≠ some '"' →
          value depth (style.text s ++ after) = some (.string s, after) :=
        fun after hafter => value_of_quotedText (style.quotedText_text s hafter) depth
      cases ss with
      | nil =>
          rw [list, List.append_assoc, List.singleton_append]
          exact items_last rfl (by decide) (hitem _ (by simp)) rfl (by decide)
      | cons t ss =>
          rw [list, List.append_assoc, List.cons_append, List.cons_append]
          refine (items_comma rfl (by decide) (hitem _ (by simp))).trans ?_
          rw [items_blank, ih (by omega)]
          rfl

/-! ## Values that are written on one line -/

/-- A value that a writer knows. -/
inductive Plain where
  | text (s : String)
  | number (n : Nat)
  | flag (b : Bool)
  | texts (ss : List String)

/-- The value in a tree. -/
def Plain.value : Plain → Value
  | .text s => .string s
  | .number n => .integer n
  | .flag b => .boolean b
  | .texts ss => .array (ss.map .string)

/-- The value as it is written. -/
def Style.plain (style : Style) : Plain → List Char
  | .text s => style.text s
  | .number n => Digits.decimal n
  | .flag b => flagWord b
  | .texts ss => '[' :: style.list ss

/-- **A written value is read back** at the end of its line, where values may nest at all. -/
theorem Style.value_plain (style : Style) (depth : Nat) (v : Plain) (rest : List Char) :
    Toml.value (depth + 1) (style.plain v ++ '\n' :: rest) = some (v.value, '\n' :: rest) := by
  cases v with
  | text s => exact value_of_quotedText (style.quotedText_text s (by simp)) _
  | number n =>
      refine value_of_wordValue? (Digits.decimal_ne_nil n) (fun c hc => ?_)
        (wordValue?_decimal n) _ rest
      rw [Char.isAlphanum, Digits.isDigit_of_mem_decimal hc, Bool.or_true]
  | flag b =>
      have hletters : (flagWord b).all Char.isAlphanum = true := by
        cases b <;> rfl
      exact value_of_wordValue? (by cases b <;> simp [flagWord]) (List.all_eq_true.mp hletters)
        (wordValue?_flag b) _ rest
  | texts ss =>
      have hlength : ss.length < (style.list ss ++ '\n' :: rest).length + 1 := by
        have := style.length_le_list ss
        rw [List.length_append]
        omega
      rw [plain, List.cons_append, Toml.value, style.items_list depth ss hlength]
      rfl

end FreshBuild.Toml
