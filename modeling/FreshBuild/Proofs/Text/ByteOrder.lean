/-
# FreshBuild.Proofs.Text.ByteOrder — texts stand in the order of their bytes.

Keys are sorted as texts, character by character, and "first" is meant byte by byte. The two orders
are one (`ofString_lt_iff`), because the bytes of a character are its number in digits of six bits with
the length in front: of two characters the smaller has the smaller first byte, or else the smaller
digit where they first differ (`encodeChar_lt`). That no encoding is the beginning of another is part
of it, since the comparison is decided inside the two characters whatever follows them.

Whatever is sorted by its texts is therefore in the order of bytes as well (`pairwise_mergeSort_text`).
-/
import FreshBuild.Proofs.Text.Utf8
import Mathlib.Tactic.SplitIfs

namespace FreshBuild.Utf8

/-! ## Single bytes -/

theorem cons_lt {m n : Nat} (hn : n < 256) (h : m < n) (x y : Bytes) :
    UInt8.ofNat m :: x < UInt8.ofNat n :: y := by
  refine List.cons_lt_cons_iff.mpr (Or.inl ?_)
  rw [UInt8.lt_iff_toNat_lt, toNat_ofNat_of_lt (by omega), toNat_ofNat_of_lt hn]
  exact h

/-- Equal bytes in front leave the decision to the rest. -/
theorem cons_lt_same {m n : Nat} (h : m = n) {x y : Bytes} (hxy : x < y) :
    UInt8.ofNat m :: x < UInt8.ofNat n :: y :=
  List.cons_lt_cons_iff.mpr (Or.inr ⟨congrArg UInt8.ofNat h, hxy⟩)

/-- A smaller number is smaller in the digits in front, or else in the last one. -/
theorem digits_lt {m n : Nat} (h : m < n) :
    m / 64 < n / 64 ∨ m / 64 = n / 64 ∧ m % 64 < n % 64 := by
  omega

/-! ## Characters and texts -/

/-- **The bytes of a smaller character come first**, whatever follows either of them. -/
theorem encodeChar_lt {c d : Char} (h : c < d) (x y : Bytes) :
    String.utf8EncodeChar c ++ x < String.utf8EncodeChar d ++ y := by
  have hlt : c.toNat < d.toNat := h
  have hd : d.toNat < 1114112 := by
    rcases d.valid with hlow | ⟨-, hhigh⟩
    · exact Nat.lt_trans hlow (by decide)
    · exact hhigh
  rw [encodeChar_eq, encodeChar_eq]
  generalize c.toNat = m at hlt
  generalize d.toNat = n at hlt hd
  -- with fewer bytes the first byte is smaller; with as many, the first digit that differs is
  split_ifs <;> try omega
  · exact cons_lt (by omega) hlt _ _
  · exact cons_lt (by omega) (by omega) _ _
  · exact cons_lt (by omega) (by omega) _ _
  · exact cons_lt (by omega) (by omega) _ _
  · rcases digits_lt hlt with hfirst | ⟨hsame, hlast⟩
    · exact cons_lt (by omega) (by omega) _ _
    · exact cons_lt_same (by omega) (cons_lt (by omega) (by omega) _ _)
  · exact cons_lt (by omega) (by omega) _ _
  · exact cons_lt (by omega) (by omega) _ _
  · rcases digits_lt hlt with hfront | ⟨hsame, hlast⟩
    · rcases digits_lt hfront with hfirst | ⟨hsame, hsecond⟩
      · exact cons_lt (by omega) (by omega) _ _
      · exact cons_lt_same (by omega) (cons_lt (by omega) (by omega) _ _)
    · exact cons_lt_same (by omega) (cons_lt_same (by omega) (cons_lt (by omega) (by omega) _ _))
  · exact cons_lt (by omega) (by omega) _ _
  · rcases digits_lt hlt with hfront | ⟨hsame, hlast⟩
    · rcases digits_lt hfront with hfront | ⟨hsame, hthird⟩
      · rcases digits_lt hfront with hfirst | ⟨hsame, hsecond⟩
        · exact cons_lt (by omega) (by omega) _ _
        · exact cons_lt_same (by omega) (cons_lt (by omega) (by omega) _ _)
      · exact cons_lt_same (by omega) (cons_lt_same (by omega) (cons_lt (by omega) (by omega) _ _))
    · exact cons_lt_same (by omega) (cons_lt_same (by omega) (cons_lt_same (by omega)
        (cons_lt (by omega) (by omega) _ _)))

theorem encode_lt {cs ds : List Char} (h : cs < ds) : encode cs < encode ds := by
  induction cs generalizing ds with
  | nil =>
      cases ds with
      | nil => exact absurd h (List.lt_irrefl [])
      | cons d ds =>
          obtain ⟨b, bs, hbytes⟩ := List.exists_cons_of_ne_nil (@String.utf8EncodeChar_ne_nil d)
          rw [encode, List.flatMap_nil, encode, List.flatMap_cons, hbytes, List.cons_append]
          exact List.nil_lt_cons _ _
  | cons c cs ih =>
      cases ds with
      | nil => exact absurd h (List.not_lt_nil _)
      | cons d ds =>
          rw [encode, List.flatMap_cons, encode, List.flatMap_cons]
          rcases List.cons_lt_cons_iff.mp h with hlt | ⟨rfl, hrest⟩
          · exact encodeChar_lt hlt _ _
          · exact List.append_left_lt (ih hrest)

/-- **The order of texts is the order of their bytes.** -/
theorem ofString_lt_iff {s t : String} : ofString s < ofString t ↔ s < t := by
  rw [String.lt_iff]
  refine ⟨fun h => ?_, encode_lt⟩
  rcases Std.lt_trichotomy s.toList t.toList with hlt | heq | hgt
  · exact hlt
  · rw [ofString, ofString, heq] at h
    exact absurd h (List.lt_irrefl _)
  · exact absurd (encode_lt hgt) (List.lt_asymm h)

theorem ofString_le_iff {s t : String} : ofString s ≤ ofString t ↔ s ≤ t := by
  rw [← List.not_lt, ← String.not_lt, not_congr ofString_lt_iff]

/-! ## Sorting by texts -/

/-- What is sorted by its texts stands in their order. -/
theorem pairwise_mergeSort_text {α : Type} (text : α → String) (xs : List α) :
    (xs.mergeSort fun a b => !decide (text b < text a)).Pairwise fun a b => text a ≤ text b := by
  let le (a b : α) : Bool := !decide (text b < text a)
  have htrans : ∀ a b c, le a b = true → le b c = true → le a c = true := by
    intro a b c hab hbc
    simp only [le, Bool.not_eq_true', decide_eq_false_iff_not, String.not_lt] at hab hbc ⊢
    exact String.le_trans hab hbc
  have htotal : ∀ a b, (le a b || le b a) = true := by
    intro a b
    simp only [le, Bool.or_eq_true, Bool.not_eq_true', decide_eq_false_iff_not, String.not_lt]
    exact String.le_total (text a) (text b)
  refine (List.pairwise_mergeSort htrans htotal xs).imp fun h => ?_
  simpa only [le, Bool.not_eq_true', decide_eq_false_iff_not, String.not_lt] using h

end FreshBuild.Utf8
