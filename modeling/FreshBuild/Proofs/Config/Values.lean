/-
# FreshBuild.Proofs.Config.Values — what a single value of a setting reads as.

For every kind of setting there is a relation between values and what they stand for, written down
as the values that stand for something. For every decoder there is one theorem: it accepts exactly
these values. An integer is judged through the words that hold it, so the bounds of the words appear
in one place (`Word.holds_iff_exists`).
-/
import FreshBuild.Config.Load
import FreshBuild.Proofs.Toml.Distinct

namespace FreshBuild

open Toml (Fields Value)

/-! ## Steps that may fail -/

theorem map_eq_ok_iff {ε α β : Type} {x : Except ε α} {f : α → β} {b : β} :
    x.map f = .ok b ↔ ∃ a, x = .ok a ∧ f a = b := by
  cases x <;> simp [Except.map]

/-- Something is known of the outcome of a mapped step exactly if it is known through the map. -/
theorem exists_map_eq_ok {ε α β : Type} {x : Except ε α} {f : α → β} {P : β → Prop} :
    (∃ b, x.map f = .ok b ∧ P b) ↔ ∃ a, x = .ok a ∧ P (f a) := by
  cases x <;> simp [Except.map]

theorem mapError_eq_ok_iff {ε ε' α : Type} {x : Except ε α} {f : ε → ε'} {a : α} :
    x.mapError f = .ok a ↔ x = .ok a := by
  cases x <;> simp [Except.mapError]

theorem mapError_eq_error_iff {ε ε' α : Type} {x : Except ε α} {f : ε → ε'} {e : ε'} :
    x.mapError f = .error e ↔ ∃ e', x = .error e' ∧ f e' = e := by
  cases x <;> simp [Except.mapError]

theorem bind_eq_ok_iff {ε α β : Type} {x : Except ε α} {f : α → Except ε β} {b : β} :
    (x >>= f) = .ok b ↔ ∃ a, x = .ok a ∧ f a = .ok b := by
  cases x <;> simp [bind, Except.bind]

theorem map_eq_error_iff {ε α β : Type} {x : Except ε α} {f : α → β} {e : ε} :
    x.map f = .error e ↔ x = .error e := by
  cases x <;> simp [Except.map]

namespace Word

theorem holds_iff {bits : Nat} {n : Int} :
    holds bits n = true ↔ 0 ≤ n ∧ n < size bits := by
  rw [holds, Bool.and_eq_true, decide_eq_true_eq, decide_eq_true_eq]
  rfl

theorem holdsSigned_iff {bits : Nat} {n : Int} :
    holdsSigned (bits + 1) n = true ↔ -(size bits : Int) ≤ n ∧ n < size bits := by
  rw [holdsSigned, Bool.and_eq_true, decide_eq_true_eq, decide_eq_true_eq]
  rfl

/-- The integers that a word holds are the numbers of the words. -/
theorem holds_iff_exists {n : Int} :
    holds 64 n = true ↔ ∃ w : UInt64, n = w.toNat := by
  have hsize : size 64 = UInt64.size := rfl
  rw [holds_iff, hsize]
  constructor
  · rintro ⟨hlo, hhi⟩
    refine ⟨UInt64.ofNat n.toNat, ?_⟩
    rw [UInt64.toNat_ofNat_of_lt' (by omega), Int.toNat_of_nonneg hlo]
  · rintro ⟨w, rfl⟩
    have := w.toNat_lt_size
    omega

end Word

namespace Jobs

/-- A positive word is a job count. -/
theorem ofCount_eq_ok_iff {n : UInt64} {jobs : Jobs} :
    ofCount n = .ok jobs ↔ ∃ h : n ≠ 0, jobs = .fixed n h := by
  unfold ofCount
  split
  case isTrue hzero => simp [hzero]
  case isFalse hne => simp [hne, eq_comm]

/-- A number that a signed word holds is as a job count the same as in an unsigned one. -/
theorem ofInt_natCast {n : Nat} (h : n < Word.size 63) :
    ofInt (Int64.ofInt n) = ofCount (UInt64.ofNat n) := by
  have hsize : Word.size 63 = 9223372036854775808 := rfl
  have hvalue : (Int64.ofInt n).toInt = n := Int64.toInt_ofInt_of_le (by omega) (by omega)
  have hpos : ¬ Int64.ofInt n < 0 := by
    rw [Int64.lt_iff_toInt_lt, hvalue]
    simp
  rw [ofInt, if_neg hpos]
  exact congrArg ofCount (UInt64.eq_of_toBitVec_eq rfl)

/-- No negative number is a job count. -/
theorem ofInt_negative {n : Int} (hlo : -(Word.size 63 : Int) ≤ n) (hneg : n < 0) :
    ofInt (Int64.ofInt n) = .error (.invalid (Digits.signedText n)) := by
  have hsize : Word.size 63 = 9223372036854775808 := rfl
  have hvalue : (Int64.ofInt n).toInt = n := Int64.toInt_ofInt_of_le (by omega) (by omega)
  have hlt : Int64.ofInt n < 0 := by
    rw [Int64.lt_iff_toInt_lt, hvalue]
    simpa using hneg
  rw [ofInt, if_pos hlt, hvalue]

end Jobs

namespace Config

/-! ## What a value reads as -/

/-- A job count is written as a positive number or as a text. -/
inductive IsJobs : Value → Jobs → Prop where
  | count (n : UInt64) (positive : n ≠ 0) : IsJobs (.integer n.toNat) (.fixed n positive)
  | text {s : String} {jobs : Jobs} (h : Jobs.parse s = .ok jobs) : IsJobs (.string s) jobs

/-- A time limit is written as a number of seconds, zero included. -/
inductive IsSeconds : Value → Option UInt64 → Prop where
  | limit (n : UInt64) : IsSeconds (.integer n.toNat) (some n)

/-- The array of a tool's program and arguments. -/
def commandValue (tool : Tool) : Value := .array (tool.command.map .string)

/-- A tool is written as a table of its command alone, or as an array with its command in front. -/
inductive IsTool : Value → Tool → Prop where
  | table (tool : Tool) : IsTool (.table [("command", commandValue tool)]) tool
  | array (tool : Tool) (ignored : List Value) : IsTool (.array (commandValue tool :: ignored)) tool

/-! ## Single values -/

theorem decodeText_eq_ok_iff {v : Value} {s : String} :
    decodeText v = .ok s ↔ v = .string s := by
  cases v <;> simp [decodeText]

theorem decodeBoolean_eq_ok_iff {v : Value} {b : Bool} :
    decodeBoolean v = .ok b ↔ v = .boolean b := by
  cases v <;> simp [decodeBoolean]

theorem decodeSeconds_eq_ok_iff {v : Value} {n : UInt64} :
    decodeSeconds v = .ok n ↔ v = .integer n.toNat := by
  cases v with
  | integer m =>
      rw [decodeSeconds, Value.integer.injEq]
      split
      case isTrue hheld =>
        obtain ⟨w, rfl⟩ := Word.holds_iff_exists.mp hheld
        rw [Int.toNat_natCast, UInt64.ofNat_toNat, Except.ok.injEq, Int.natCast_inj, UInt64.toNat_inj]
      case isFalse hheld =>
        have hne : m ≠ n.toNat := fun heq => hheld (Word.holds_iff_exists.mpr ⟨n, heq⟩)
        split <;> simp [hne]
  | _ => simp [decodeSeconds]

/-- An unsigned word is the same job count whether or not a signed word holds it, too. -/
theorem decodeJobs_word (w : UInt64) :
    decodeJobs (.integer w.toNat) = (Jobs.ofCount w).mapError .jobs := by
  have hheld : Word.holds 64 w.toNat = true := Word.holds_iff_exists.mpr ⟨w, rfl⟩
  rw [decodeJobs, if_pos hheld, Int.toNat_natCast, UInt64.ofNat_toNat]
  split
  case isTrue hsigned =>
    have hlt : w.toNat < Word.size 63 := by
      have := ((@Word.holdsSigned_iff 63 _).mp hsigned).2
      omega
    rw [Jobs.ofInt_natCast hlt, UInt64.ofNat_toNat]
  case isFalse => rfl

/-- Every other integer is no job count. -/
theorem decodeJobs_outside {n : Int} (hheld : ¬ Word.holds 64 n = true) :
    ∃ problem, decodeJobs (.integer n) = .error problem := by
  rw [decodeJobs, if_neg hheld]
  split
  case isTrue hsigned =>
    obtain ⟨hlo, hhi⟩ := (@Word.holdsSigned_iff 63 n).mp hsigned
    have hneg : n < 0 := by
      have hsizes : Word.size 63 ≤ Word.size 64 := by decide
      rw [Word.holds_iff] at hheld
      omega
    rw [Jobs.ofInt_negative hlo hneg]
    exact ⟨_, rfl⟩
  case isFalse => exact ⟨_, rfl⟩

theorem decodeJobs_eq_ok_iff {v : Value} {jobs : Jobs} :
    decodeJobs (.ofValue v) = .ok jobs ↔ IsJobs v jobs := by
  constructor
  · intro h
    cases v with
    | string s => exact .text (mapError_eq_ok_iff.mp h)
    | integer n =>
        by_cases hheld : Word.holds 64 n = true
        · obtain ⟨w, rfl⟩ := Word.holds_iff_exists.mp hheld
          rw [Found.ofValue, decodeJobs_word, mapError_eq_ok_iff] at h
          obtain ⟨hpositive, rfl⟩ := Jobs.ofCount_eq_ok_iff.mp h
          exact .count w hpositive
        · obtain ⟨problem, herr⟩ := decodeJobs_outside hheld
          rw [Found.ofValue, herr] at h
          cases h
    | _ => simp [decodeJobs, Found.ofValue] at h
  · rintro (⟨w, hpositive⟩ | hparse)
    · rw [Found.ofValue, decodeJobs_word, mapError_eq_ok_iff]
      exact Jobs.ofCount_eq_ok_iff.mpr ⟨hpositive, rfl⟩
    · exact mapError_eq_ok_iff.mpr hparse

/-! ## Tools -/

theorem mapM_decodeText_eq_ok_iff {items : List Value} {texts : List String} :
    items.mapM decodeText = .ok texts ↔ items = texts.map .string := by
  induction items generalizing texts with
  | nil => cases texts <;> simp [pure, Except.pure]
  | cons v items ih =>
      rw [List.mapM_cons]
      simp only [bind_eq_ok_iff, decodeText_eq_ok_iff, ih]
      constructor
      · rintro ⟨text, rfl, rest, rfl, heq⟩
        cases heq
        simp
      · intro heq
        cases texts with
        | nil => simp at heq
        | cons text rest =>
            obtain ⟨rfl, rfl⟩ := List.cons.inj heq
            exact ⟨text, rfl, rest, rfl, rfl⟩

theorem decodeCommand_eq_ok_iff {v : Value} {tool : Tool} :
    decodeCommand v = .ok tool ↔ v = commandValue tool := by
  cases v with
  | array items =>
      rw [decodeCommand, map_eq_ok_iff, commandValue, Value.array.injEq]
      simp only [mapM_decodeText_eq_ok_iff]
      constructor
      · rintro ⟨texts, rfl, rfl⟩
        rfl
      · intro heq
        exact ⟨tool.command, heq, rfl⟩
  | _ => simp [decodeCommand, commandValue]

/-- A table that passes as a tool has no other key than `command`. -/
theorem keys_of_decodeToolField {fields : Fields} {start result : Option Tool}
    (h : fields.foldlM decodeToolField start = .ok result) :
    ∀ field ∈ fields, field.1 = "command" := by
  induction fields generalizing start with
  | nil => simp
  | cons field fields ih =>
      rw [List.foldlM_cons, bind_eq_ok_iff] at h
      obtain ⟨next, hnext, hrest⟩ := h
      have hkey : field.1 = "command" := by
        by_contra hne
        simp [decodeToolField, hne] at hnext
      exact List.forall_mem_cons.mpr ⟨hkey, ih hrest⟩

/-- So where keys do not repeat it has at most one field. -/
theorem eq_nil_or_singleton_of_keys {fields : Fields} {key : String}
    (distinct : (fields.map Prod.fst).Nodup) (h : ∀ field ∈ fields, field.1 = key) :
    fields = [] ∨ ∃ v, fields = [(key, v)] := by
  match fields with
  | [] => exact .inl rfl
  | [(k, v)] =>
      obtain rfl : k = key := h (k, v) (by simp)
      exact .inr ⟨v, rfl⟩
  | first :: second :: rest =>
      have hsame : first.1 = second.1 := by rw [h first (by simp), h second (by simp)]
      simp [hsame] at distinct

theorem sorted_perm (fields : Fields) : (sorted fields).Perm fields :=
  List.mergeSort_perm fields _

/-- A table of a command alone is the tool with this command. -/
theorem decodeTool_command (w : Value) :
    decodeTool (.table [("command", w)]) = decodeCommand w := by
  have hsorted : sorted [("command", w)] = [("command", w)] := List.mergeSort_singleton _
  rw [decodeTool, hsorted, List.foldlM_cons, decodeToolField, if_pos rfl]
  cases decodeCommand w <;> rfl

theorem decodeTool_eq_ok_iff {v : Value} {tool : Tool} (hv : v.WellFormed) :
    decodeTool v = .ok tool ↔ IsTool v tool := by
  constructor
  · intro h
    cases v with
    | table fields =>
        obtain ⟨found, hfound, _⟩ := bind_eq_ok_iff.mp h
        have hkeys : ∀ field ∈ fields, field.1 = "command" := fun field hmem =>
          keys_of_decodeToolField hfound field ((sorted_perm fields).mem_iff.mpr hmem)
        obtain rfl | ⟨w, rfl⟩ := eq_nil_or_singleton_of_keys hv.distinct hkeys
        · simp [decodeTool, sorted] at h
        · rw [decodeTool_command] at h
          obtain rfl := decodeCommand_eq_ok_iff.mp h
          exact .table tool
    | array items =>
        cases items with
        | nil => cases h
        | cons first ignored =>
            obtain rfl := decodeCommand_eq_ok_iff.mp h
            exact .array tool ignored
    | _ => simp [decodeTool] at h
  · rintro (_ | ⟨_, ignored⟩)
    · rw [decodeTool_command]
      exact decodeCommand_eq_ok_iff.mpr rfl
    · exact decodeCommand_eq_ok_iff.mpr rfl

end Config

end FreshBuild
