/-
# FreshBuild.Proofs.Config.Alike — tables that mean the same have one answer.

The decoder takes the fields of a table in the order of their keys and not in the order in which they
were written. So the fields of two alike tables are taken in step (`sorted_alike`), and what is left to
see is that alike values are decoded to the same or refused in the same words. The words are what is
compared, and not the problems (`AnswersAlike`): `1.5` and `1.50` are two decimals and one float.
-/
import FreshBuild.Proofs.Config.Heeded
import FreshBuild.Proofs.Text.ByteOrder
import FreshBuild.Proofs.Toml.Alike

namespace FreshBuild.Config

open Toml (Fields Value)

variable {α β : Type} {fs gs : Fields} {v w : Value}

/-! ## The order of keys -/

theorem sorted_pairwise (fields : Fields) : (sorted fields).Pairwise fun a b => a.1 ≤ b.1 :=
  Utf8.pairwise_mergeSort_text Prod.fst fields

/-- Tables with the same keys have them in the same order once they are sorted. -/
theorem keys_sorted_eq (hfs : (fs.map Prod.fst).Nodup) (hgs : (gs.map Prod.fst).Nodup)
    (h : ∀ key, key ∈ fs.map Prod.fst ↔ key ∈ gs.map Prod.fst) :
    (sorted fs).map Prod.fst = (sorted gs).map Prod.fst := by
  have hperm : (fs.map Prod.fst).Perm (gs.map Prod.fst) :=
    (List.perm_ext_iff_of_nodup hfs hgs).mpr h
  refine List.Perm.eq_of_pairwise (fun _ _ _ _ => String.le_antisymm)
    (List.pairwise_map.mpr (sorted_pairwise fs)) (List.pairwise_map.mpr (sorted_pairwise gs)) ?_
  exact ((sorted_perm fs).map Prod.fst).trans (hperm.trans ((sorted_perm gs).map Prod.fst).symm)

/-- Lists of fields with the same keys in the same order are related if fields of one key are. -/
theorem forall₂_of_keys {R : String × Value → String × Value → Prop} {xs ys : Fields}
    (hkeys : xs.map Prod.fst = ys.map Prod.fst)
    (h : ∀ a ∈ xs, ∀ b ∈ ys, a.1 = b.1 → R a b) : List.Forall₂ R xs ys := by
  induction xs generalizing ys with
  | nil =>
      obtain rfl := List.map_eq_nil_iff.mp hkeys.symm
      exact .nil
  | cons x xs ih =>
      cases ys with
      | nil => cases hkeys
      | cons y ys =>
          obtain ⟨hkey, hrest⟩ := List.cons.inj hkeys
          refine .cons (h x List.mem_cons_self y List.mem_cons_self hkey) (ih hrest ?_)
          intro a ha b hb
          exact h a (List.mem_cons_of_mem x ha) b (List.mem_cons_of_mem y hb)

/-- Fields that stand for each other: they have one key, and alike values. -/
structure FieldsAlike (a b : String × Value) : Prop where
  key : a.1 = b.1
  left : a.2.WellFormed
  right : b.2.WellFormed
  values : a.2.Alike b.2

/-- The fields of alike tables stand for each other one by one, once they are sorted. -/
theorem sorted_alike (hfs : (Value.table fs).WellFormed) (hgs : (Value.table gs).WellFormed)
    (h : (Value.table fs).Alike (.table gs)) :
    List.Forall₂ FieldsAlike (sorted fs) (sorted gs) := by
  cases h with
  | table keys values =>
      refine forall₂_of_keys (keys_sorted_eq hfs.distinct hgs.distinct keys) ?_
      rintro ⟨key, v⟩ ha ⟨_, w⟩ hb rfl
      have hv := (sorted_perm fs).mem_iff.mp ha
      have hw := (sorted_perm gs).mem_iff.mp hb
      exact ⟨rfl, hfs.field hv, hgs.field hw, values key v w hv hw⟩

/-! ## Answers in the same words -/

/-- The two give the same, or refuse in the same words. -/
def AnswersAlike (x y : Except Problem α) : Prop :=
  x.mapError Problem.message = y.mapError Problem.message

namespace AnswersAlike

variable {x y : Except Problem α}

/-- One of the two is all of it: the same result, or one message. -/
theorem cases (h : AnswersAlike x y) : (∃ a, x = .ok a ∧ y = .ok a) ∨
    ∃ p q, x = .error p ∧ y = .error q ∧ p.message = q.message := by
  cases x with
  | ok a =>
      cases y with
      | ok b => exact .inl ⟨a, rfl, congrArg Except.ok (Except.ok.inj h).symm⟩
      | error q => cases h
  | error p =>
      cases y with
      | ok b => cases h
      | error q => exact .inr ⟨p, q, rfl, rfl, Except.error.inj h⟩

theorem bind (h : AnswersAlike x y) {f g : α → Except Problem β}
    (hfg : ∀ a, AnswersAlike (f a) (g a)) : AnswersAlike (x >>= f) (y >>= g) := by
  rcases h.cases with ⟨a, rfl, rfl⟩ | ⟨p, q, rfl, rfl, hmessage⟩
  · exact hfg a
  · exact congrArg Except.error hmessage

theorem map (h : AnswersAlike x y) (f : α → β) : AnswersAlike (x.map f) (y.map f) := by
  rcases h.cases with ⟨a, rfl, rfl⟩ | ⟨p, q, rfl, rfl, hmessage⟩
  · rfl
  · exact congrArg Except.error hmessage

/-- What holds of every step holds of a run. -/
theorem foldlM {γ : Type} {R : γ → γ → Prop} {step : α → γ → Except Problem α} {xs ys : List γ}
    (h : List.Forall₂ R xs ys) (hstep : ∀ a x y, R x y → AnswersAlike (step a x) (step a y))
    (a : α) : AnswersAlike (xs.foldlM step a) (ys.foldlM step a) := by
  induction h generalizing a with
  | nil => rfl
  | cons hxy _ ih =>
      rw [List.foldlM_cons, List.foldlM_cons]
      exact (hstep a _ _ hxy).bind ih

theorem mapM {γ : Type} {R : γ → γ → Prop} {f : γ → Except Problem α} {xs ys : List γ}
    (h : List.Forall₂ R xs ys) (hf : ∀ x y, R x y → AnswersAlike (f x) (f y)) :
    AnswersAlike (xs.mapM f) (ys.mapM f) := by
  induction h with
  | nil => rfl
  | cons hxy _ ih =>
      rw [List.mapM_cons, List.mapM_cons]
      exact (hf _ _ hxy).bind fun _ => ih.bind fun _ => rfl

end AnswersAlike

/-! ## Alike values -/

theorem floatText_alike {x y : Toml.Decimal} (h : x.Alike y) : floatText x = floatText y := by
  cases h with
  | nan => rfl
  | infinite negative => rfl
  | finite negative h => rw [floatText, floatText, h]

theorem describe_float (x : Toml.Decimal) :
    (Found.float x).describe = "floating point " ++ Fault.quoted (floatText x) := rfl

theorem message_wrongType (found : Found) (wanted : Wanted) :
    (Problem.wrongType found wanted).message =
      "invalid type: " ++ found.describe ++ ", expected " ++ wanted.describe := rfl

/-- Alike values that are not wanted are refused in the same words. -/
theorem mismatch_alike (h : v.Alike w) (wanted : Wanted) :
    (mismatch (.ofValue v) wanted).message = (mismatch (.ofValue w) wanted).message := by
  cases h with
  | float h =>
      have htext := floatText_alike h
      cases h with
      | nan => rfl
      | infinite negative => rfl
      | finite negative h =>
          simp only [Found.ofValue, mismatch, h]
          split
          · rfl
          · rw [message_wrongType, message_wrongType, describe_float, describe_float, htext]
  | _ => rfl

theorem decodeText_alike (h : v.Alike w) : AnswersAlike (decodeText v) (decodeText w) := by
  have hrefused := congrArg (Except.error (α := String)) (mismatch_alike h .text)
  cases h <;> first | rfl | exact hrefused

theorem decodeBoolean_alike (h : v.Alike w) :
    AnswersAlike (decodeBoolean v) (decodeBoolean w) := by
  have hrefused := congrArg (Except.error (α := Bool)) (mismatch_alike h .boolean)
  cases h <;> first | rfl | exact hrefused

theorem decodeSeconds_alike (h : v.Alike w) :
    AnswersAlike (decodeSeconds v) (decodeSeconds w) := by
  have hrefused := congrArg (Except.error (α := UInt64)) (mismatch_alike h .seconds)
  cases h <;> first | rfl | exact hrefused

theorem decodeJobs_alike (h : v.Alike w) :
    AnswersAlike (decodeJobs (.ofValue v)) (decodeJobs (.ofValue w)) := by
  have hrefused := congrArg (Except.error (α := Jobs)) (mismatch_alike h .jobs)
  cases h <;> first | rfl | exact hrefused

theorem decodeCommand_alike (h : v.Alike w) :
    AnswersAlike (decodeCommand v) (decodeCommand w) := by
  have hrefused := congrArg (Except.error (α := Tool)) (mismatch_alike h .sequence)
  cases h with
  | @array vs ws length items =>
      have hitems : List.Forall₂ Value.Alike vs ws := by
        refine List.forall₂_iff_get.mpr ⟨length, fun i hv hw => ?_⟩
        exact items i _ _ (List.getElem?_eq_getElem hv) (List.getElem?_eq_getElem hw)
      exact (AnswersAlike.mapM hitems fun _ _ => decodeText_alike).map Tool.mk
  | _ => exact hrefused

theorem decodeToolField_alike (found : Option Tool) {a b : String × Value} (h : FieldsAlike a b) :
    AnswersAlike (decodeToolField found a) (decodeToolField found b) := by
  rw [decodeToolField, decodeToolField, h.key]
  split
  · exact (decodeCommand_alike h.values).map some
  · rfl

theorem decodeTool_alike (hv : v.WellFormed) (hw : w.WellFormed) (h : v.Alike w) :
    AnswersAlike (decodeTool v) (decodeTool w) := by
  have hrefused := congrArg (Except.error (α := Tool)) (mismatch_alike h .tool)
  cases h with
  | table keys values =>
      exact (AnswersAlike.foldlM (sorted_alike hv hw (.table keys values))
        (fun found _ _ => decodeToolField_alike found) none).bind fun _ => rfl
  | @array vs ws length items =>
      cases vs with
      | nil =>
          obtain rfl := List.length_eq_zero_iff.mp length.symm
          rfl
      | cons first rest =>
          cases ws with
          | nil => cases length
          | cons first' rest' => exact decodeCommand_alike (items 0 _ _ rfl rfl)
  | moment => rfl
  | _ => exact hrefused

/-- A field that is no setting's. -/
theorem decodeField_unknown {key : String} (h : key ∉ keys) (c : Config) (v : Value) :
    decodeField c (key, v) = .error (.unknownKey key) := by
  simp only [keys, List.mem_cons, List.not_mem_nil, or_false, not_or] at h
  obtain ⟨h₁, h₂, h₃, h₄, h₅, h₆, h₇⟩ := h
  rw [decodeField] <;> assumption

theorem decodeField_alike (c : Config) {a b : String × Value} (h : FieldsAlike a b) :
    AnswersAlike (decodeField c a) (decodeField c b) := by
  obtain ⟨key, v⟩ := a
  obtain ⟨_, w⟩ := b
  obtain ⟨rfl, hv, hw, hvalue⟩ := h
  by_cases hkey : key ∈ keys
  · simp only [keys, List.mem_cons, List.not_mem_nil, or_false] at hkey
    rcases hkey with rfl | rfl | rfl | rfl | rfl | rfl | rfl
    · exact (decodeText_alike hvalue).map _
    · exact (decodeJobs_alike hvalue).map _
    · exact (decodeBoolean_alike hvalue).map _
    · exact (decodeBoolean_alike hvalue).map _
    · exact (decodeSeconds_alike hvalue).map _
    · exact (decodeTool_alike hv hw hvalue).map _
    · exact (decodeTool_alike hv hw hvalue).map _
  · rw [decodeField_unknown hkey, decodeField_unknown hkey]
    rfl

theorem decode_alike (hfs : (Value.table fs).WellFormed) (hgs : (Value.table gs).WellFormed)
    (h : (Value.table fs).Alike (.table gs)) : AnswersAlike (decode fs) (decode gs) :=
  .foldlM (sorted_alike hfs hgs h) (fun c _ _ => decodeField_alike c) standard

/-- What a user sees of an answer: the configuration, or the message. -/
def shown (path : Path) (answer : Except Refusal Config) : Except String Config :=
  answer.mapError fun refusal => (LoadError.refused path refusal).message

/-- Tables that mean the same have one answer. -/
theorem ofTable_alike (hfs : (Value.table fs).WellFormed) (hgs : (Value.table gs).WellFormed)
    (h : (Value.table fs).Alike (.table gs)) (path : Path) :
    shown path (ofTable fs) = shown path (ofTable gs) := by
  rw [ofTable, ofTable]
  rcases (decode_alike hfs hgs h).cases with ⟨c, hf, hg⟩ | ⟨p, q, hf, hg, hmessage⟩
  · rw [hf, hg]
  · rw [hf, hg]
    exact congrArg (fun text => Except.error (_ ++ ": " ++ text)) hmessage

end FreshBuild.Config
