/-
# FreshBuild.Proofs.Text.Utf8 — what the reader of byte strings takes for text.

The reader is an automaton that never stops: it marks what is no text and goes on. `decode?` refuses as
soon as there is a mark, so it should answer exactly on the byte strings that encode characters, and
with these characters. That is `decode?_eq_some_iff`, and it takes the automaton both ways.

Read forwards, the bytes of a character take it from the start to the start again (`pieces_encodeChar`).
Read backwards, a piece that is a character was made from the bytes of that character and from no
others (`pieces_start_eq_cons`). This is where the narrowed ranges for a second byte come in: without
them an over-long form or a surrogate would be a second spelling.
-/
import FreshBuild.Text.Utf8
import Mathlib.Tactic.Common

namespace FreshBuild.Utf8

variable {b lo hi : UInt8} {more value : Nat} {rest bytes : Bytes} {c : Char}
  {ps : List (Option Char)}

/-! ## Bytes and characters as numbers -/

theorem ofNat_eq_of_toNat {n : Nat} (h : n = b.toNat) : UInt8.ofNat n = b := by
  rw [h]
  exact UInt8.ofNat_toNat

theorem toNat_ofNat_of_lt {n : Nat} (h : n < 256) : (UInt8.ofNat n).toNat = n := by
  rw [UInt8.toNat_ofNat']
  exact Nat.mod_eq_of_lt h

theorem le_ofNat {n : Nat} (hn : n < 256) (h : b.toNat ≤ n) : b ≤ UInt8.ofNat n := by
  rwa [UInt8.le_iff_toNat_le, toNat_ofNat_of_lt hn]

theorem ofNat_le {n : Nat} (h : n ≤ b.toNat) : UInt8.ofNat n ≤ b := by
  have hb : b.toNat < 256 := b.toNat_lt
  rwa [UInt8.le_iff_toNat_le, toNat_ofNat_of_lt (by omega)]

/-- A code point that is no surrogate is the number of its character. -/
theorem toNat_charOfNat {n : Nat} (h : n.isValidChar) : (Char.ofNat n).toNat = n := by
  unfold Char.ofNat
  rw [dif_pos h]
  rfl

/-- The bytes of a character, by the size of its number. -/
theorem encodeChar_eq (c : Char) : String.utf8EncodeChar c =
    if c.toNat ≤ 0x7F then [UInt8.ofNat c.toNat]
    else if c.toNat ≤ 0x7FF then
      [UInt8.ofNat (c.toNat / 64 % 32 + 192), UInt8.ofNat (c.toNat % 64 + 128)]
    else if c.toNat ≤ 0xFFFF then
      [UInt8.ofNat (c.toNat / 4096 % 16 + 224), UInt8.ofNat (c.toNat / 64 % 64 + 128),
        UInt8.ofNat (c.toNat % 64 + 128)]
    else
      [UInt8.ofNat (c.toNat / 262144 % 8 + 240), UInt8.ofNat (c.toNat / 4096 % 64 + 128),
        UInt8.ofNat (c.toNat / 64 % 64 + 128), UInt8.ofNat (c.toNat % 64 + 128)] := rfl

/-- The first byte of a character, by its number. -/
theorem lead_eq (b : UInt8) : lead b =
    if b.toNat < 0x80 then ([some (Char.ofNat b.toNat)], .start)
    else if b.toNat < 0xC2 then ([none], .start)
    else if b.toNat < 0xE0 then ([], .inside 0x80 0xBF 0 (b.toNat - 0xC0))
    else if b.toNat < 0xF0 then
      ([], .inside (if b.toNat = 0xE0 then 0xA0 else 0x80) (if b.toNat = 0xED then 0x9F else 0xBF) 1
        (b.toNat - 0xE0))
    else if b.toNat < 0xF5 then
      ([], .inside (if b.toNat = 0xF0 then 0x90 else 0x80) (if b.toNat = 0xF4 then 0x8F else 0xBF) 2
        (b.toNat - 0xF0))
    else ([none], .start) := by
  simp only [lead, UInt8.lt_iff_toNat_lt, ← UInt8.toNat_inj]
  rfl

/-! ## Single bytes -/

theorem pieces_cons (s : State) (b : UInt8) (rest : Bytes) :
    pieces s (b :: rest) = (step s b).1 ++ pieces (step s b).2 rest := by
  cases s <;> rfl

/-- A byte in the range that is not the last of its character. -/
theorem pieces_inside_next (hlo : lo ≤ b) (hhi : b ≤ hi) :
    pieces (.inside lo hi (more + 1) value) (b :: rest) =
      pieces (.inside 0x80 0xBF more (value * 64 + (b.toNat - 0x80))) rest := by
  rw [pieces_cons, step, if_pos ⟨hlo, hhi⟩]
  rfl

/-- A byte in the range that is the last of its character. -/
theorem pieces_inside_last (hlo : lo ≤ b) (hhi : b ≤ hi) :
    pieces (.inside lo hi 0 value) (b :: rest) =
      some (Char.ofNat (value * 64 + (b.toNat - 0x80))) :: pieces .start rest := by
  rw [pieces_cons, step, if_pos ⟨hlo, hhi⟩]
  rfl

/-- An open character is closed by a byte in the range, or else the first piece is a mark. -/
theorem pieces_inside_eq_cons {lo hi : UInt8} {more value : Nat}
    (h : pieces (.inside lo hi more value) bytes = some c :: ps) :
    ∃ b rest, bytes = b :: rest ∧ lo ≤ b ∧ b ≤ hi := by
  cases bytes with
  | nil => cases h
  | cons b rest =>
      refine ⟨b, rest, rfl, ?_⟩
      by_contra hout
      rw [pieces_cons] at h
      unfold step at h
      simp only [if_neg hout] at h
      cases h

/-! ## Characters -/

/-- A byte of a character behind the first one, by the six bits it holds. -/
theorem continuation {n : Nat} (h : n < 64) :
    (0x80 : UInt8) ≤ UInt8.ofNat (n + 128) ∧ UInt8.ofNat (n + 128) ≤ 0xBF ∧
      (UInt8.ofNat (n + 128)).toNat - 0x80 = n := by
  have hb : (UInt8.ofNat (n + 128)).toNat = n + 128 := toNat_ofNat_of_lt (by omega)
  refine ⟨le_ofNat (by omega) ?_, ofNat_le ?_, by omega⟩
  · show 128 ≤ _
    omega
  · show _ ≤ 191
    omega

/-- The bytes of a character are read as this character. -/
theorem pieces_encodeChar (c : Char) (rest : Bytes) :
    pieces .start (String.utf8EncodeChar c ++ rest) = some c :: pieces .start rest := by
  have hvalid : c.toNat < 0xD800 ∨ 0xDFFF < c.toNat ∧ c.toNat < 0x110000 := c.valid
  have hc : Char.ofNat c.toNat = c := Char.ofNat_toNat c
  rw [encodeChar_eq]
  generalize c.toNat = n at hvalid hc ⊢
  -- by the number of bytes: the first one opens the character, the others fall into its ranges, and
  -- the bits that they hold make up the number again
  split_ifs with h1 h2 h3
  · have hb : (UInt8.ofNat n).toNat = n := toNat_ofNat_of_lt (by omega)
    show (lead _).1 ++ pieces (lead _).2 rest = _
    rw [lead_eq, if_pos (by omega), hb, hc]
    rfl
  · have hb : (UInt8.ofNat (n / 64 % 32 + 192)).toNat = n / 64 % 32 + 192 :=
      toNat_ofNat_of_lt (by omega)
    obtain ⟨hlo, hhi, hbits⟩ := continuation (n := n % 64) (by omega)
    show (lead _).1 ++ pieces (lead _).2 (_ :: rest) = _
    rw [lead_eq, if_neg (by omega), if_neg (by omega), if_pos (by omega), List.nil_append,
      pieces_inside_last hlo hhi, hbits, hb]
    have hn : (n / 64 % 32 + 192 - 0xC0) * 64 + n % 64 = n := by omega
    rw [hn, hc]
  · have hb : (UInt8.ofNat (n / 4096 % 16 + 224)).toNat = n / 4096 % 16 + 224 :=
      toNat_ofNat_of_lt (by omega)
    obtain ⟨hlo, hhi, hbits⟩ := continuation (n := n / 64 % 64) (by omega)
    obtain ⟨hlo', hhi', hbits'⟩ := continuation (n := n % 64) (by omega)
    show (lead _).1 ++ pieces (lead _).2 (_ :: _ :: rest) = _
    rw [lead_eq, if_neg (by omega), if_neg (by omega), if_neg (by omega), if_pos (by omega),
      List.nil_append, pieces_inside_next, pieces_inside_last hlo' hhi', hbits, hbits', hb]
    · have hn : ((n / 4096 % 16 + 224 - 0xE0) * 64 + n / 64 % 64) * 64 + n % 64 = n := by omega
      rw [hn, hc]
    · -- behind the smallest first byte, a smaller second one would be for two bytes
      rw [hb]
      split
      · refine le_ofNat (by omega) ?_
        show 160 ≤ _
        omega
      · exact hlo
    · -- a greater second byte would be for a surrogate
      rw [hb]
      split
      · refine ofNat_le ?_
        show _ ≤ 159
        omega
      · exact hhi
  · have hb : (UInt8.ofNat (n / 262144 % 8 + 240)).toNat = n / 262144 % 8 + 240 :=
      toNat_ofNat_of_lt (by omega)
    obtain ⟨hlo, hhi, hbits⟩ := continuation (n := n / 4096 % 64) (by omega)
    obtain ⟨hlo', hhi', hbits'⟩ := continuation (n := n / 64 % 64) (by omega)
    obtain ⟨hlo'', hhi'', hbits''⟩ := continuation (n := n % 64) (by omega)
    show (lead _).1 ++ pieces (lead _).2 (_ :: _ :: _ :: rest) = _
    rw [lead_eq, if_neg (by omega), if_neg (by omega), if_neg (by omega), if_neg (by omega),
      if_pos (by omega), List.nil_append, pieces_inside_next, pieces_inside_next hlo' hhi',
      pieces_inside_last hlo'' hhi'', hbits, hbits', hbits'', hb]
    · have hn : (((n / 262144 % 8 + 240 - 0xF0) * 64 + n / 4096 % 64) * 64 + n / 64 % 64) * 64 +
          n % 64 = n := by omega
      rw [hn, hc]
    · rw [hb]
      split
      · refine le_ofNat (by omega) ?_
        show 144 ≤ _
        omega
      · exact hlo
    · rw [hb]
      split
      · refine ofNat_le ?_
        show _ ≤ 143
        omega
      · exact hhi

/-- What a range that depends on the first byte says about the second. -/
theorem toNat_le_of_ite {p : Prop} [Decidable p] {x y : UInt8} (h : (if p then x else y) ≤ b) :
    (p → x.toNat ≤ b.toNat) ∧ (¬ p → y.toNat ≤ b.toNat) := by
  split at h
  · rename_i hp
    exact ⟨fun _ => UInt8.le_iff_toNat_le.mp h, fun hnot => absurd hp hnot⟩
  · rename_i hnot
    exact ⟨fun hp => absurd hp hnot, fun _ => UInt8.le_iff_toNat_le.mp h⟩

theorem le_toNat_of_ite {p : Prop} [Decidable p] {x y : UInt8} (h : b ≤ if p then x else y) :
    (p → b.toNat ≤ x.toNat) ∧ (¬ p → b.toNat ≤ y.toNat) := by
  split at h
  · rename_i hp
    exact ⟨fun _ => UInt8.le_iff_toNat_le.mp h, fun hnot => absurd hp hnot⟩
  · rename_i hnot
    exact ⟨fun hp => absurd hp hnot, fun _ => UInt8.le_iff_toNat_le.mp h⟩

/-- A continuation byte, as a number. -/
theorem toNat_continuation (hlo : 0x80 ≤ b) (hhi : b ≤ 0xBF) : 0x80 ≤ b.toNat ∧ b.toNat ≤ 0xBF :=
  ⟨UInt8.le_iff_toNat_le.mp hlo, UInt8.le_iff_toNat_le.mp hhi⟩

section Widths

variable {b₁ b₂ b₃ : UInt8}

/-- The character of two bytes has these bytes. -/
theorem encodeChar_two (hb : 0xC2 ≤ b.toNat) (hb' : b.toNat < 0xE0) (hlo₁ : 0x80 ≤ b₁)
    (hhi₁ : b₁ ≤ 0xBF) :
    String.utf8EncodeChar (Char.ofNat ((b.toNat - 0xC0) * 64 + (b₁.toNat - 0x80))) = [b, b₁] := by
  obtain ⟨h₁, h₁'⟩ := toNat_continuation hlo₁ hhi₁
  have hn := toNat_charOfNat (n := (b.toNat - 0xC0) * 64 + (b₁.toNat - 0x80)) (Or.inl (by omega))
  rw [encodeChar_eq, hn, if_neg (by omega), if_pos (by omega),
    ofNat_eq_of_toNat (b := b) (by omega), ofNat_eq_of_toNat (b := b₁) (by omega)]

/-- The character of three bytes has these bytes. The range of the second byte keeps out what two bytes
can hold, and surrogates. -/
theorem encodeChar_three (hb : 0xE0 ≤ b.toNat) (hb' : b.toNat < 0xF0)
    (hlo₁ : (if b.toNat = 0xE0 then 0xA0 else 0x80) ≤ b₁)
    (hhi₁ : b₁ ≤ if b.toNat = 0xED then 0x9F else 0xBF) (hlo₂ : 0x80 ≤ b₂) (hhi₂ : b₂ ≤ 0xBF) :
    String.utf8EncodeChar (Char.ofNat (((b.toNat - 0xE0) * 64 + (b₁.toNat - 0x80)) * 64 +
      (b₂.toNat - 0x80))) = [b, b₁, b₂] := by
  obtain ⟨h₂, h₂'⟩ := toNat_continuation hlo₂ hhi₂
  have hlow : b.toNat = 0xE0 → 0xA0 ≤ b₁.toNat := (toNat_le_of_ite hlo₁).1
  have hlow' : ¬ b.toNat = 0xE0 → 0x80 ≤ b₁.toNat := (toNat_le_of_ite hlo₁).2
  have hhigh : b.toNat = 0xED → b₁.toNat ≤ 0x9F := (le_toNat_of_ite hhi₁).1
  have hhigh' : ¬ b.toNat = 0xED → b₁.toNat ≤ 0xBF := (le_toNat_of_ite hhi₁).2
  have hvalid : (((b.toNat - 0xE0) * 64 + (b₁.toNat - 0x80)) * 64 +
      (b₂.toNat - 0x80)).isValidChar := by
    unfold Nat.isValidChar
    omega
  rw [encodeChar_eq, toNat_charOfNat hvalid, if_neg (by omega), if_neg (by omega),
    if_pos (by omega), ofNat_eq_of_toNat (b := b) (by omega),
    ofNat_eq_of_toNat (b := b₁) (by omega), ofNat_eq_of_toNat (b := b₂) (by omega)]

/-- The character of four bytes has these bytes. The range of the second byte keeps out what three
bytes can hold, and all above U+10FFFF. -/
theorem encodeChar_four (hb : 0xF0 ≤ b.toNat) (hb' : b.toNat < 0xF5)
    (hlo₁ : (if b.toNat = 0xF0 then 0x90 else 0x80) ≤ b₁)
    (hhi₁ : b₁ ≤ if b.toNat = 0xF4 then 0x8F else 0xBF) (hlo₂ : 0x80 ≤ b₂) (hhi₂ : b₂ ≤ 0xBF)
    (hlo₃ : 0x80 ≤ b₃) (hhi₃ : b₃ ≤ 0xBF) :
    String.utf8EncodeChar (Char.ofNat ((((b.toNat - 0xF0) * 64 + (b₁.toNat - 0x80)) * 64 +
      (b₂.toNat - 0x80)) * 64 + (b₃.toNat - 0x80))) = [b, b₁, b₂, b₃] := by
  obtain ⟨h₂, h₂'⟩ := toNat_continuation hlo₂ hhi₂
  obtain ⟨h₃, h₃'⟩ := toNat_continuation hlo₃ hhi₃
  have hlow : b.toNat = 0xF0 → 0x90 ≤ b₁.toNat := (toNat_le_of_ite hlo₁).1
  have hlow' : ¬ b.toNat = 0xF0 → 0x80 ≤ b₁.toNat := (toNat_le_of_ite hlo₁).2
  have hhigh : b.toNat = 0xF4 → b₁.toNat ≤ 0x8F := (le_toNat_of_ite hhi₁).1
  have hhigh' : ¬ b.toNat = 0xF4 → b₁.toNat ≤ 0xBF := (le_toNat_of_ite hhi₁).2
  have hvalid : ((((b.toNat - 0xF0) * 64 + (b₁.toNat - 0x80)) * 64 + (b₂.toNat - 0x80)) * 64 +
      (b₃.toNat - 0x80)).isValidChar := by
    unfold Nat.isValidChar
    omega
  rw [encodeChar_eq, toNat_charOfNat hvalid, if_neg (by omega), if_neg (by omega),
    if_neg (by omega), ofNat_eq_of_toNat (b := b) (by omega),
    ofNat_eq_of_toNat (b := b₁) (by omega), ofNat_eq_of_toNat (b := b₂) (by omega),
    ofNat_eq_of_toNat (b := b₃) (by omega)]

end Widths

/-- **A character was read off its own bytes.** -/
theorem pieces_start_eq_cons (h : pieces .start bytes = some c :: ps) :
    ∃ rest, bytes = String.utf8EncodeChar c ++ rest ∧ pieces .start rest = ps := by
  cases bytes with
  | nil => cases h
  | cons b rest =>
      have h : (lead b).1 ++ pieces (lead b).2 rest = some c :: ps := h
      rw [lead_eq] at h
      -- the first byte says how many are to follow, and no mark stands for them
      by_cases h1 : b.toNat < 0x80
      · rw [if_pos h1] at h
        obtain ⟨hc, hps⟩ := List.cons.inj h
        obtain rfl := Option.some.inj hc
        have hn := toNat_charOfNat (n := b.toNat) (Or.inl (by omega))
        refine ⟨rest, ?_, hps⟩
        rw [encodeChar_eq, hn, if_pos (by omega), UInt8.ofNat_toNat]
        rfl
      rw [if_neg h1] at h
      by_cases h2 : b.toNat < 0xC2
      · rw [if_pos h2] at h
        cases h
      rw [if_neg h2] at h
      by_cases h3 : b.toNat < 0xE0
      · rw [if_pos h3, List.nil_append] at h
        obtain ⟨b₁, rest, rfl, hlo₁, hhi₁⟩ := pieces_inside_eq_cons h
        rw [pieces_inside_last hlo₁ hhi₁] at h
        obtain ⟨hc, hps⟩ := List.cons.inj h
        refine ⟨rest, ?_, hps⟩
        rw [← Option.some.inj hc, encodeChar_two (by omega) h3 hlo₁ hhi₁]
        rfl
      rw [if_neg h3] at h
      by_cases h4 : b.toNat < 0xF0
      · rw [if_pos h4, List.nil_append] at h
        obtain ⟨b₁, rest, rfl, hlo₁, hhi₁⟩ := pieces_inside_eq_cons h
        rw [pieces_inside_next hlo₁ hhi₁] at h
        obtain ⟨b₂, rest, rfl, hlo₂, hhi₂⟩ := pieces_inside_eq_cons h
        rw [pieces_inside_last hlo₂ hhi₂] at h
        obtain ⟨hc, hps⟩ := List.cons.inj h
        refine ⟨rest, ?_, hps⟩
        rw [← Option.some.inj hc, encodeChar_three (by omega) h4 hlo₁ hhi₁ hlo₂ hhi₂]
        rfl
      rw [if_neg h4] at h
      by_cases h5 : b.toNat < 0xF5
      · rw [if_pos h5, List.nil_append] at h
        obtain ⟨b₁, rest, rfl, hlo₁, hhi₁⟩ := pieces_inside_eq_cons h
        rw [pieces_inside_next hlo₁ hhi₁] at h
        obtain ⟨b₂, rest, rfl, hlo₂, hhi₂⟩ := pieces_inside_eq_cons h
        rw [pieces_inside_next hlo₂ hhi₂] at h
        obtain ⟨b₃, rest, rfl, hlo₃, hhi₃⟩ := pieces_inside_eq_cons h
        rw [pieces_inside_last hlo₃ hhi₃] at h
        obtain ⟨hc, hps⟩ := List.cons.inj h
        refine ⟨rest, ?_, hps⟩
        rw [← Option.some.inj hc, encodeChar_four (by omega) h5 hlo₁ hhi₁ hlo₂ hhi₂ hlo₃ hhi₃]
        rfl
      rw [if_neg h5] at h
      cases h

/-! ## Texts -/

/-- Of every byte string that is not empty something is seen. -/
theorem pieces_start_eq_nil_iff : pieces .start bytes = [] ↔ bytes = [] := by
  -- an open character is a piece in any case, finished or not
  have hinside : ∀ (bytes : Bytes) (lo hi : UInt8) (more value : Nat),
      pieces (.inside lo hi more value) bytes ≠ [] := by
    intro bytes
    induction bytes with
    | nil =>
        intro lo hi more value h
        cases h
    | cons b rest ih =>
        intro lo hi more value h
        by_cases hin : lo ≤ b ∧ b ≤ hi
        · cases more with
          | zero =>
              rw [pieces_inside_last hin.1 hin.2] at h
              cases h
          | succ more =>
              rw [pieces_inside_next hin.1 hin.2] at h
              exact ih _ _ _ _ h
        · rw [pieces_cons] at h
          unfold step at h
          simp only [if_neg hin] at h
          cases h
  constructor
  · intro h
    cases bytes with
    | nil => rfl
    | cons b rest =>
        obtain ⟨hlead, hrest⟩ := List.append_eq_nil_iff.mp h
        cases hstate : (lead b).2 with
        | inside lo hi more value =>
            change pieces (lead b).2 rest = [] at hrest
            rw [hstate] at hrest
            exact absurd hrest (hinside rest lo hi more value)
        | start =>
            -- a first byte that opens nothing is a piece by itself
            exfalso
            revert hlead hstate
            show (lead b).1 = [] → (lead b).2 = .start → False
            unfold lead
            split_ifs <;> simp
  · rintro rfl
    rfl

theorem pieces_encode (chars : List Char) : pieces .start (encode chars) = chars.map some := by
  induction chars with
  | nil => rfl
  | cons c chars ih =>
      rw [encode, List.flatMap_cons, pieces_encodeChar, List.map_cons]
      exact congrArg _ ih

/-- Nothing but their bytes is read as these characters. -/
theorem eq_encode_of_pieces {chars : List Char} (h : pieces .start bytes = chars.map some) :
    bytes = encode chars := by
  induction chars generalizing bytes with
  | nil => exact pieces_start_eq_nil_iff.mp h
  | cons c chars ih =>
      obtain ⟨rest, rfl, hrest⟩ := pieces_start_eq_cons h
      rw [ih hrest]
      rfl

theorem mapM_id_eq_some_iff {α : Type} {xs : List (Option α)} {ys : List α} :
    xs.mapM id = some ys ↔ xs = ys.map some := by
  induction xs generalizing ys with
  | nil => cases ys <;> simp
  | cons x xs ih =>
      rw [List.mapM_cons]
      cases x with
      | none => cases ys <;> simp
      | some a =>
          cases ys with
          | nil => cases xs.mapM id <;> simp
          | cons y ys => simp [Option.bind_eq_some_iff, ih, and_comm]

/-- **Text is what characters encode to.** -/
theorem decode?_eq_some_iff {chars : List Char} :
    decode? bytes = some chars ↔ bytes = encode chars := by
  rw [decode?, mapM_id_eq_some_iff]
  constructor
  · exact eq_encode_of_pieces
  · rintro rfl
    exact pieces_encode chars

theorem decode?_eq_none_iff : decode? bytes = none ↔ ∀ chars, bytes ≠ encode chars := by
  rw [Option.eq_none_iff_forall_ne_some]
  exact forall_congr' fun chars => not_congr decode?_eq_some_iff

/-! ## Texts in bytes -/

theorem encode_append (cs ds : List Char) : encode (cs ++ ds) = encode cs ++ encode ds :=
  List.flatMap_append

theorem encode_injective : Function.Injective encode := fun _ _ h =>
  Option.some.inj ((decode?_eq_some_iff.mpr rfl).symm.trans (decode?_eq_some_iff.mpr h))

/-- Nothing of a text is lost when it is shown. -/
theorem lossy_encode (chars : List Char) : lossy (encode chars) = String.ofList chars := by
  rw [lossy, pieces_encode, List.map_map]
  exact congrArg String.ofList (List.map_id chars)

end FreshBuild.Utf8
