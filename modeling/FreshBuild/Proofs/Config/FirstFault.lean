/-
# FreshBuild.Proofs.Config.FirstFault — which of several wrong keys is reported.

A table may be wrong in many places, and one of them is reported. Which one must not depend on how the
table was written down. What is wrong with a field is a question about this field alone (`FieldFault`,
and `ToolFault` inside a tool), and the decoder takes the fields in the order of their keys, so it stops
at the first key that is at fault (`FirstFault`, `decode_eq_error_iff`). That a tool has no command is
found last, when none of its keys is at fault.

So the answer to a document is the answer to what it means (`parse_by_content`). Documents whose trees
are alike have one answer (`ofTable_alike`). Sections, dotted keys and braces are three ways to write
one list of pairs, and what the pairs say is enough to know the tree (`Toml.alike_of_said`).

A user sees no fault but a message. `Problem.Worded` spells out what it says, and with it the key that
is at fault, or what stands there and what should.
-/
import FreshBuild.Proofs.Config.Alike
import FreshBuild.Proofs.Text.ByteOrder
import FreshBuild.Proofs.Toml.Facts

namespace FreshBuild.Config

open Toml (Fields Value)

variable {α : Type} {fs : Fields} {v : Value} {c : Config} {p : Problem}

/-! ## The first fault -/

/-- Among the fields that are at fault, the one with the least key in the order of bytes is at fault in
the way `p`. -/
def FirstFault (P : String × Value → Problem → Prop) (fields : Fields) (p : Problem) : Prop :=
  ∃ field ∈ fields, P field p ∧
    ∀ other ∈ fields, ∀ q, P other q → Utf8.ofString field.1 ≤ Utf8.ofString other.1

/-- A fault under the least of all keys comes first, whatever the others are. -/
theorem firstFault_of_least {P : String × Value → Problem → Prop} (field : String × Value)
    (hmem : field ∈ fs) (hfault : P field p)
    (hleast : ∀ other ∈ fs, Utf8.ofString field.1 ≤ Utf8.ofString other.1) : FirstFault P fs p :=
  ⟨field, hmem, hfault, fun other hother _ _ => hleast other hother⟩

section Runs

variable {γ ε : Type} {P : γ → ε → Prop} {step : α → γ → Except ε α} {xs : List γ} {e : ε}

/-- Where a step fails for reasons of its own, a run fails as the first step that does. -/
theorem foldlM_eq_error_iff (h : ∀ x ∈ xs, ∀ a e, step a x = .error e ↔ P x e) (a : α) :
    xs.foldlM step a = .error e ↔
      ∃ front x back, xs = front ++ x :: back ∧ (∀ y ∈ front, ∀ q, ¬ P y q) ∧ P x e := by
  induction xs generalizing a with
  | nil => simp [pure, Except.pure]
  | cons x xs ih =>
      rw [List.foldlM_cons]
      have hx := h x List.mem_cons_self a
      cases hstep : step a x with
      | error e' =>
          have hfault : P x e' := (hx e').mp hstep
          constructor
          · intro herror
            obtain rfl : e' = e := Except.error.inj herror
            exact ⟨[], x, xs, rfl, by simp, hfault⟩
          · rintro ⟨front, y, back, heq, hfront, hy⟩
            -- nothing stands before the first step, since it fails
            cases front with
            | nil =>
                obtain ⟨rfl, -⟩ := List.cons.inj heq
                exact hstep.symm.trans ((hx e).mpr hy)
            | cons z front =>
                obtain ⟨rfl, -⟩ := List.cons.inj heq
                exact absurd hfault (hfront x List.mem_cons_self e')
      | ok a' =>
          have hsound : ∀ q, ¬ P x q := fun q hq => by
            rw [(hx q).mpr hq] at hstep
            cases hstep
          have hrun := ih (fun y hy => h y (List.mem_cons_of_mem x hy)) a'
          constructor
          · intro herror
            obtain ⟨front, y, back, rfl, hfront, hy⟩ := hrun.mp herror
            exact ⟨x :: front, y, back, rfl, List.forall_mem_cons.mpr ⟨hsound, hfront⟩, hy⟩
          · rintro ⟨front, y, back, heq, hfront, hy⟩
            cases front with
            | nil =>
                obtain ⟨rfl, -⟩ := List.cons.inj heq
                exact absurd hy (hsound e)
            | cons z front =>
                obtain ⟨rfl, rfl⟩ := List.cons.inj heq
                exact hrun.mpr ⟨front, y, back, rfl, (List.forall_mem_cons.mp hfront).2, hy⟩

end Runs

/-- So a run over the sorted fields fails with the first fault. -/
theorem foldlM_sorted_eq_error_iff {P : String × Value → Problem → Prop}
    {step : α → String × Value → Except Problem α} (hdistinct : (fs.map Prod.fst).Nodup)
    (h : ∀ field ∈ fs, ∀ a q, step a field = .error q ↔ P field q) (a : α) :
    (sorted fs).foldlM step a = .error p ↔ FirstFault P fs p := by
  have hmem : ∀ field, field ∈ sorted fs ↔ field ∈ fs := fun _ => (sorted_perm fs).mem_iff
  rw [foldlM_eq_error_iff fun field hfield => h field ((hmem field).mp hfield)]
  have hsorted := sorted_pairwise fs
  have hkeys : (sorted fs).Pairwise fun a b => a.1 ≠ b.1 :=
    List.pairwise_map.mp (((sorted_perm fs).map Prod.fst).nodup_iff.mpr hdistinct)
  constructor
  · rintro ⟨front, field, back, heq, hfront, hfault⟩
    rw [heq] at hsorted
    have hleast := (List.pairwise_cons.mp (List.pairwise_append.mp hsorted).2.1).1
    refine ⟨field, (hmem field).mp (heq ▸ by simp), hfault, fun other hother q hq => ?_⟩
    rw [Utf8.ofString_le_iff]
    rw [← hmem, heq, List.mem_append, List.mem_cons] at hother
    rcases hother with hother | rfl | hother
    · exact absurd hq (hfront other hother q)
    · exact String.le_refl _
    · exact hleast other hother
  · rintro ⟨field, hfield, hfault, hleast⟩
    obtain ⟨front, back, heq⟩ := List.append_of_mem ((hmem field).mpr hfield)
    refine ⟨front, field, back, heq, fun other hother q hq => ?_, hfault⟩
    -- a field in front with a fault would have a key that is both smaller and not smaller
    have hle := hleast other ((hmem other).mp (heq ▸ List.mem_append_left _ hother)) q hq
    rw [Utf8.ofString_le_iff] at hle
    rw [heq] at hsorted hkeys
    have hge := (List.pairwise_append.mp hsorted).2.2 other hother field List.mem_cons_self
    have hne := (List.pairwise_append.mp hkeys).2.2 other hother field List.mem_cons_self
    exact hne (String.le_antisymm hge hle)

/-! ## Faults of fields -/

/-- What is wrong with a field of a tool's table. -/
inductive ToolKeyFault (field : String × Value) : Problem → Prop where
  | unknown (key : field.1 ≠ "command") : ToolKeyFault field (.unknownToolKey field.1)
  | command {p : Problem} (key : field.1 = "command") (h : decodeCommand field.2 = .error p) :
      ToolKeyFault field p

/-- What is wrong with the value of a tool. In a table it is the first of the keys that are at fault,
and the lack of a command only if there is none. -/
inductive ToolFault : Value → Problem → Prop where
  | key {fields : Fields} {p : Problem} (h : FirstFault ToolKeyFault fields p) :
      ToolFault (.table fields) p
  | missingCommand {fields : Fields} (sound : ∀ field ∈ fields, ∀ q, ¬ ToolKeyFault field q)
      (absent : "command" ∉ fields.map Prod.fst) : ToolFault (.table fields) .missingCommand
  | form {v : Value} {p : Problem} (other : ∀ fields, v ≠ .table fields)
      (h : decodeTool v = .error p) : ToolFault v p

/-- What is wrong with a field of a configuration. -/
inductive FieldFault (field : String × Value) : Problem → Prop where
  | unknown (key : field.1 ∉ keys) : FieldFault field (.unknownKey field.1)
  | buildDir {p : Problem} (key : field.1 = "build_dir") (h : decodeText field.2 = .error p) :
      FieldFault field p
  | jobs {p : Problem} (key : field.1 = "jobs") (h : decodeJobs (.ofValue field.2) = .error p) :
      FieldFault field p
  | flag {p : Problem} (key : field.1 = "keep_going" ∨ field.1 = "check_status")
      (h : decodeBoolean field.2 = .error p) : FieldFault field p
  | timeoutSecs {p : Problem} (key : field.1 = "timeout_secs")
      (h : decodeSeconds field.2 = .error p) : FieldFault field p
  | tool {p : Problem} (key : IsToolKey field.1) (h : ToolFault field.2 p) : FieldFault field p

theorem decodeToolField_eq_error_iff {found : Option Tool} {field : String × Value} :
    decodeToolField found field = .error p ↔ ToolKeyFault field p := by
  rw [decodeToolField]
  constructor
  · intro h
    split at h
    · rename_i hkey
      exact .command hkey (map_eq_error_iff.mp h)
    · rename_i hkey
      obtain rfl := Except.error.inj h
      exact .unknown hkey
  · intro h
    cases h with
    | unknown hkey => exact if_neg hkey
    | command hkey h => exact (if_pos hkey).trans (map_eq_error_iff.mpr h)

theorem decodeTool_nil : decodeTool (.table []) = .error .missingCommand := by
  simp only [decodeTool, sorted, List.mergeSort_nil]
  rfl

/-- A run over the keys of a tool's table that finds no fault has found one command, or nothing. -/
theorem eq_nil_or_command_of_run (hdistinct : (fs.map Prod.fst).Nodup) {found : Option Tool}
    (hrun : (sorted fs).foldlM decodeToolField none = .ok found) :
    fs = [] ∨ ∃ v tool, fs = [("command", v)] ∧ decodeTool (.table fs) = .ok tool := by
  have hkeys : ∀ field ∈ fs, field.1 = "command" := fun field hmem =>
    keys_of_decodeToolField hrun field ((sorted_perm fs).mem_iff.mpr hmem)
  obtain rfl | ⟨v, rfl⟩ := eq_nil_or_singleton_of_keys hdistinct hkeys
  · exact .inl rfl
  · rw [decodeTool_command]
    cases hv : decodeCommand v with
    | ok tool => exact .inr ⟨v, tool, rfl, rfl⟩
    | error q =>
        have hsorted : sorted [("command", v)] = [("command", v)] := List.mergeSort_singleton _
        rw [hsorted, List.foldlM_cons, decodeToolField, if_pos rfl, hv] at hrun
        cases hrun

/-- The value of a tool is refused for what is wrong with it. -/
theorem decodeTool_eq_error_iff (hv : v.WellFormed) :
    decodeTool v = .error p ↔ ToolFault v p := by
  -- what a run over a table fails with is the first fault of its keys
  have hkeys : ∀ fields q, v = .table fields →
      ((sorted fields).foldlM decodeToolField none = .error q ↔
        FirstFault ToolKeyFault fields q) := by
    rintro fields q rfl
    refine foldlM_sorted_eq_error_iff hv.distinct (fun field _ found q => ?_) none
    exact decodeToolField_eq_error_iff
  constructor
  · intro h
    cases v with
    | table fields =>
        cases hrun : (sorted fields).foldlM decodeToolField none with
        | error q =>
            rw [decodeTool, hrun] at h
            obtain rfl : q = p := Except.error.inj h
            exact .key ((hkeys fields q rfl).mp hrun)
        | ok found =>
            obtain rfl | ⟨_, tool, -, hok⟩ := eq_nil_or_command_of_run hv.distinct hrun
            · rw [decodeTool_nil] at h
              obtain rfl := Except.error.inj h
              exact .missingCommand (by simp) (by simp)
            · rw [hok] at h
              cases h
    | _ => exact .form (fun _ => Value.noConfusion) h
  · intro h
    cases h with
    | @key fields _ h =>
        rw [decodeTool, (hkeys fields p rfl).mpr h]
        rfl
    | @missingCommand fields sound absent =>
        -- without a command and without other keys there is nothing in the table
        have hnil : fields = [] := List.eq_nil_iff_forall_not_mem.mpr fun field hfield =>
          sound field hfield _ (.unknown fun key => absent (key ▸ List.mem_map_of_mem hfield))
        rw [hnil]
        exact decodeTool_nil
    | form _ h => exact h

/-- What is wrong with a field is a question about this field alone. -/
theorem decodeField_eq_error_iff {field : String × Value} (hwf : field.2.WellFormed) :
    decodeField c field = .error p ↔ FieldFault field p := by
  obtain ⟨key, v⟩ := field
  constructor
  · intro h
    by_cases hkey : key ∈ keys
    · simp only [keys, List.mem_cons, List.not_mem_nil, or_false] at hkey
      rcases hkey with rfl | rfl | rfl | rfl | rfl | rfl | rfl
      all_goals have h := map_eq_error_iff.mp h
      · exact .buildDir rfl h
      · exact .jobs rfl h
      · exact .flag (.inl rfl) h
      · exact .flag (.inr rfl) h
      · exact .timeoutSecs rfl h
      · exact .tool (.inl rfl) ((decodeTool_eq_error_iff hwf).mp h)
      · exact .tool (.inr rfl) ((decodeTool_eq_error_iff hwf).mp h)
    · rw [decodeField_unknown hkey] at h
      obtain rfl := Except.error.inj h
      exact .unknown hkey
  · intro h
    cases h with
    | unknown hkey => exact decodeField_unknown hkey c v
    | buildDir hkey h | jobs hkey h | timeoutSecs hkey h =>
        obtain rfl : key = _ := hkey
        exact map_eq_error_iff.mpr h
    | flag hkey h =>
        obtain rfl | rfl : key = _ ∨ key = _ := hkey
        all_goals exact map_eq_error_iff.mpr h
    | tool hkey h =>
        obtain rfl | rfl : key = _ ∨ key = _ := hkey
        all_goals exact map_eq_error_iff.mpr ((decodeTool_eq_error_iff hwf).mpr h)

/-- A table is refused for the first of its fields that are at fault. -/
theorem decode_eq_error_iff (hwf : (Value.table fs).WellFormed) :
    decode fs = .error p ↔ FirstFault FieldFault fs p := by
  refine foldlM_sorted_eq_error_iff hwf.distinct (fun field hfield c q => ?_) standard
  exact decodeField_eq_error_iff (hwf.field hfield)

/-! ## Words -/

/-- What a message calls a value that is not wanted. An integer that no 64-bit word holds is called by
its type, too. -/
inductive Found.Called : Found → String → Prop where
  | text (s : String) : Called (.text s) ("string " ++ Quoted.quote s)
  | integer {n : Int} (h : -2 ^ 63 ≤ n ∧ n < 2 ^ 64) :
      Called (.integer n) ("integer \x60" ++ Digits.signedText n ++ "\x60")
  | wideInteger {n : Int} (hwide : ¬ (-2 ^ 63 ≤ n ∧ n < 2 ^ 64)) (h : -2 ^ 127 ≤ n ∧ n < 2 ^ 127) :
      Called (.integer n) ("integer \x60" ++ Digits.signedText n ++ "\x60 as i128")
  | widestInteger {n : Int} (hwide : ¬ (-2 ^ 127 ≤ n ∧ n < 2 ^ 127)) :
      Called (.integer n) ("integer \x60" ++ Digits.signedText n ++ "\x60 as u128")
  | garbled : Called .garbled "integer"
  | float (x : Toml.Decimal) : Called (.float x) ("floating point \x60" ++ floatText x ++ "\x60")
  | yes : Called (.boolean true) "boolean \x60true\x60"
  | no : Called (.boolean false) "boolean \x60false\x60"
  | nothing : Called .nothing "unit value"
  | sequence : Called .sequence "sequence"
  | map : Called .map "map"

/-- What a message calls the type that is wanted. -/
inductive Wanted.Called : Wanted → String → Prop where
  | text : Called .text "a string"
  | boolean : Called .boolean "a boolean"
  | seconds : Called .seconds "u64"
  | sequence : Called .sequence "a sequence"
  | tool : Called .tool "struct ToolConfig"
  | jobs : Called .jobs "a positive integer or \"auto\""

/-- What a message says of a problem. -/
inductive Problem.Worded : Problem → String → Prop where
  | unknownKey (key : String) :
      Worded (.unknownKey key) ("unknown field \x60" ++ key ++ ("\x60, expected one of " ++
        "\x60build_dir\x60, \x60jobs\x60, \x60keep_going\x60, \x60check_status\x60, " ++
        "\x60timeout_secs\x60, \x60configure\x60, \x60build\x60"))
  | unknownToolKey (key : String) :
      Worded (.unknownToolKey key) ("unknown field \x60" ++ key ++ "\x60, expected \x60command\x60")
  | missingCommand : Worded .missingCommand "missing field \x60command\x60"
  | emptyTool : Worded .emptyTool "invalid length 0, expected struct ToolConfig with 1 element"
  | wrongType {found : Found} {wanted : Wanted} {f w : String} (hfound : found.Called f)
      (hwanted : wanted.Called w) :
      Worded (.wrongType found wanted) ("invalid type: " ++ f ++ ", expected " ++ w)
  | negativeSeconds (n : Int) :
      Worded (.negativeSeconds n)
        ("invalid value: integer \x60" ++ Digits.signedText n ++ "\x60, expected u64")
  | integerOverflow : Worded .integerOverflow "integer number overflowed"
  | floatOverflow : Worded .floatOverflow "floating-point number overflowed"
  | noJobs : Worded (.jobs .zero) "jobs must be at least 1"
  | invalidJobs (text : String) :
      Worded (.jobs (.invalid text)) ("invalid jobs value \x60" ++ text ++
        "\x60 (expected a positive integer or \x60auto\x60)")

theorem Found.called_integer (n : Int) : (Found.integer n).Called (Found.integer n).describe := by
  have hword : (Word.holds 64 n || Word.holdsSigned 64 n) = true ↔ -2 ^ 63 ≤ n ∧ n < 2 ^ 64 := by
    rw [Bool.or_eq_true, Word.holds_iff, @Word.holdsSigned_iff 63]
    show (0 ≤ n ∧ n < 2 ^ 64) ∨ (-2 ^ 63 ≤ n ∧ n < 2 ^ 63) ↔ _
    omega
  have hwide : Word.holdsSigned 128 n = true ↔ -2 ^ 127 ≤ n ∧ n < 2 ^ 127 :=
    @Word.holdsSigned_iff 127 n
  rw [describe, integerText, Fault.quoted, ← String.append_assoc, ← String.append_assoc,
    ← String.append_assoc]
  split
  · rename_i h
    exact String.append_empty ▸ .integer (hword.mp h)
  · rename_i h
    split
    · rename_i h'
      exact String.append_assoc ▸ .wideInteger (mt hword.mpr h) (hwide.mp h')
    · rename_i h'
      exact String.append_assoc ▸ .widestInteger (mt hwide.mpr h')

theorem Found.called_describe (found : Found) : found.Called found.describe := by
  cases found with
  | text s => exact .text s
  | integer n => exact called_integer n
  | garbled => exact .garbled
  | float x => simpa [describe, Fault.quoted, ← String.append_assoc] using Called.float x
  | boolean b =>
      cases b with
      | true => exact .yes
      | false => exact .no
  | nothing => exact .nothing
  | sequence => exact .sequence
  | map => exact .map

theorem Wanted.called_describe (wanted : Wanted) : wanted.Called wanted.describe := by
  cases wanted with
  | text => exact .text
  | boolean => exact .boolean
  | seconds => exact .seconds
  | sequence => exact .sequence
  | tool => exact .tool
  | jobs => exact .jobs

/-- A quoted text between two others, with the quotes on their side. -/
theorem append_quoted_append (front text back : String) :
    front ++ Fault.quoted text ++ back = (front ++ "\x60") ++ text ++ ("\x60" ++ back) := by
  simp only [Fault.quoted, String.append_assoc]

/-- The message of a problem says what is to be said of it. -/
theorem Problem.worded_message (p : Problem) : p.Worded p.message := by
  cases p with
  | unknownKey key =>
      have hkeys : ", ".intercalate (keys.map Fault.quoted) =
          "\x60build_dir\x60, \x60jobs\x60, \x60keep_going\x60, \x60check_status\x60, " ++
            "\x60timeout_secs\x60, \x60configure\x60, \x60build\x60" := by decide
      have hwords := Worded.unknownKey key
      simp only [String.reduceAppend] at hwords hkeys
      show Worded _ ("unknown field " ++ Fault.quoted key ++ ", expected one of " ++ _)
      rw [hkeys, String.append_assoc, append_quoted_append]
      simpa only [String.reduceAppend] using hwords
  | unknownToolKey key =>
      show Worded _ ("unknown field " ++ Fault.quoted key ++ ", expected " ++ Fault.quoted "command")
      rw [String.append_assoc, append_quoted_append, Fault.quoted]
      simpa only [String.reduceAppend] using Worded.unknownToolKey key
  | missingCommand => exact .missingCommand
  | emptyTool => exact .emptyTool
  | wrongType found wanted =>
      exact .wrongType found.called_describe wanted.called_describe
  | negativeSeconds n =>
      show Worded _ ("invalid value: integer " ++ Fault.quoted _ ++ ", expected u64")
      rw [append_quoted_append]
      simpa only [String.reduceAppend] using Worded.negativeSeconds n
  | integerOverflow => exact .integerOverflow
  | floatOverflow => exact .floatOverflow
  | jobs e =>
      cases e with
      | zero => exact .noJobs
      | invalid text => exact .invalidJobs text

/-! ## Documents -/

/-- A document is refused for its data as its table is. -/
theorem parse_eq_data_iff {text : List Char} (hread : Toml.read? text = some fs) :
    parse text = .error (.data p) ↔ decode fs = .error p := by
  rw [parse_eq_error_iff]
  constructor
  · intro h
    cases h with
    | data hread' hdecode =>
        obtain rfl := Option.some.inj (hread.symm.trans hread')
        exact hdecode
  · exact .data hread

/-- **The answer to a document is the answer to what it means.** Documents whose trees are alike are
loaded as one configuration, or refused with one message. So are documents whose pairs say the same,
whether they are written in sections, with dots or between braces. And if keys are at fault, then the
message is about the first of them in the order of bytes, and it says what is wrong there. -/
theorem parse_by_content :
    (∀ (text text' : List Char) (fields fields' : Fields), Toml.read? text = some fields →
      Toml.read? text' = some fields' → (Value.table fields).Alike (.table fields') →
      ∀ path, shown path (parse text) = shown path (parse text')) ∧
    (∀ (text text' : List Char) (ps ps' : List (List String × Value)), Toml.IsDocumentOf text ps →
      Toml.IsDocumentOf text' ps' → (∀ names fact, Toml.Said ps names fact ↔ Toml.Said ps' names fact) →
      ∀ path, shown path (parse text) = shown path (parse text')) ∧
    (∀ (text : List Char) (fields : Fields) (p : Problem), Toml.read? text = some fields →
      (parse text = .error (.data p) ↔ FirstFault FieldFault fields p) ∧
        (FirstFault FieldFault fields p → ∀ path, ∃ words, p.Worded words ∧
          shown path (parse text) = .error ("parse " ++ path.display ++ ": " ++ words))) := by
  have halike : ∀ (text text' : List Char) (fields fields' : Fields), Toml.read? text = some fields →
      Toml.read? text' = some fields' → (Value.table fields).Alike (.table fields') →
      ∀ path, shown path (parse text) = shown path (parse text') := by
    intro text text' fields fields' hread hread' halike path
    rw [parse, parse, hread, hread']
    exact ofTable_alike (Toml.read?_wellFormed hread) (Toml.read?_wellFormed hread') halike path
  refine ⟨halike, fun text text' ps ps' h h' hsaid => ?_, fun text fields p hread => ?_⟩
  · obtain ⟨fields, hread⟩ := h.read
    obtain ⟨fields', hread'⟩ := h'.read
    exact halike text text' fields fields' hread hread' (Toml.alike_of_said h h' hread hread' hsaid)
  · have hfirst : parse text = .error (.data p) ↔ FirstFault FieldFault fields p := by
      rw [parse_eq_data_iff hread, decode_eq_error_iff (Toml.read?_wellFormed hread)]
    refine ⟨hfirst, fun hfault path => ⟨p.message, p.worded_message, ?_⟩⟩
    rw [hfirst.mpr hfault]
    rfl

/-- The tree of three faults, written with dots. -/
theorem read?_dotted :
    Toml.read?
      "zeal = 1\njobs = 1.50\nconfigure.command = 3\nconfigure.bogus = true\n".toList =
    some [("zeal", .integer 1), ("jobs", .float (.finite false 150 (-2))),
      ("configure", .table [("command", .integer 3), ("bogus", .boolean true)])] := by
  cbv

/-- The tree of the same faults, written with a section. -/
theorem read?_section :
    Toml.read? "jobs = 1.5\nzeal = 1\n[configure]\nbogus = true\ncommand = 3\n".toList =
    some [("jobs", .float (.finite false 15 (-1))), ("zeal", .integer 1),
      ("configure", .table [("bogus", .boolean true), ("command", .integer 3)])] := by
  cbv

/-- The pairs of the faults in sections. -/
theorem isDocumentOf_section :
    Toml.IsDocumentOf "jobs = 1.5\nzeal = 1\n[configure]\nbogus = true\ncommand = 3\n".toList
      [(["jobs"], .float (.finite false 15 (-1))), (["zeal"], .integer 1),
        (["configure"], .table []), (["configure", "bogus"], .boolean true),
        (["configure", "command"], .integer 3)] where
  read := ⟨_, read?_section⟩
  written := ⟨[.assign ⟨[], "jobs"⟩ (.float (.finite false 15 (-1))),
    .assign ⟨[], "zeal"⟩ (.integer 1), .table ⟨[], "configure"⟩, .assign ⟨[], "bogus"⟩ (.boolean true),
    .assign ⟨[], "command"⟩ (.integer 3)], by cbv, by simp, rfl⟩

/-- The pairs of the same faults between braces. -/
theorem isDocumentOf_braces :
    Toml.IsDocumentOf "configure = \x7bcommand = 3, bogus = true\x7d\njobs = 1.5\nzeal = 1\n".toList
      [(["configure"], .table [("command", .integer 3), ("bogus", .boolean true)]),
        (["jobs"], .float (.finite false 15 (-1))), (["zeal"], .integer 1)] where
  read := ⟨[("configure", .table [("command", .integer 3), ("bogus", .boolean true)]),
    ("jobs", .float (.finite false 15 (-1))), ("zeal", .integer 1)], by cbv⟩
  written := ⟨[
    .assign ⟨[], "configure"⟩ (.table [("command", .integer 3), ("bogus", .boolean true)]),
    .assign ⟨[], "jobs"⟩ (.float (.finite false 15 (-1))), .assign ⟨[], "zeal"⟩ (.integer 1)],
    by cbv, by simp, rfl⟩

/-- Of the keys `configure`, `jobs` and `zeal` the first is reported, and in its table the key `bogus`,
though the command is no command, either. That is what the message says. -/
theorem parse_by_content_spellings :
    let dotted :=
      "zeal = 1\njobs = 1.50\nconfigure.command = 3\nconfigure.bogus = true\n".toList
    let sections := "jobs = 1.5\nzeal = 1\n[configure]\nbogus = true\ncommand = 3\n".toList
    let braces := "configure = \x7bcommand = 3, bogus = true\x7d\njobs = 1.5\nzeal = 1\n".toList
    parse dotted = .error (.data (.unknownToolKey "bogus")) ∧
      ∀ path, shown path (parse dotted) =
          .error ("parse " ++ path.display ++ ": " ++
            "unknown field \x60bogus\x60, expected \x60command\x60") ∧
        shown path (parse dotted) = shown path (parse sections) ∧
        shown path (parse braces) = shown path (parse sections) := by
  intro dotted sections braces
  have htool : FirstFault ToolKeyFault [("command", .integer 3), ("bogus", .boolean true)]
      (.unknownToolKey "bogus") :=
    firstFault_of_least ("bogus", .boolean true) (by simp) (.unknown (by decide)) (by decide)
  have hfault : FirstFault FieldFault [("zeal", .integer 1),
      ("jobs", .float (.finite false 150 (-2))),
      ("configure", .table [("command", .integer 3), ("bogus", .boolean true)])]
      (.unknownToolKey "bogus") :=
    firstFault_of_least ("configure", .table _) (by simp) (.tool (.inl rfl) (.key htool)) (by decide)
  obtain ⟨hfirst, hwords⟩ := parse_by_content.2.2 _ _ _ read?_dotted
  refine ⟨hfirst.mpr hfault, fun path => ⟨?_, ?_, ?_⟩⟩
  · obtain ⟨words, hworded, hshown⟩ := hwords hfault path
    cases hworded
    exact hshown
  · refine parse_by_content.1 _ _ _ _ read?_dotted read?_section ?_ path
    have hjobs : FreshBuild.Decimal.ofDecimal? 150 (-2) = FreshBuild.Decimal.ofDecimal? 15 (-1) := by
      decide +kernel
    have hwf : (Value.table [("command", .integer 3), ("bogus", .boolean true)]).WellFormed :=
      @Value.WellFormed.field _ ("configure", _) (Toml.read?_wellFormed read?_dotted) (by simp)
    refine .table (by simp [or_left_comm, or_comm]) fun key v w hv hw => ?_
    simp only [List.mem_cons, Prod.mk.injEq, List.not_mem_nil, or_false] at hv hw
    rcases hv with ⟨rfl, rfl⟩ | ⟨rfl, rfl⟩ | ⟨rfl, rfl⟩
    · obtain rfl : w = .integer 1 := by simpa using hw
      exact .integer 1
    · obtain rfl : w = .float (.finite false 15 (-1)) := by simpa using hw
      exact .float (.finite false hjobs)
    · obtain rfl : w = .table [("bogus", .boolean true), ("command", .integer 3)] := by
        simpa using hw
      exact Toml.alike_of_perm hwf (.swap ..)
  · refine parse_by_content.2.1 _ _ _ _ isDocumentOf_braces isDocumentOf_section
      (fun names fact => ?_) path
    -- first the braces are opened up, then the section is put behind the other pairs
    rw [Toml.said_braces_iff]
    refine Toml.said_of_perm (List.Perm.trans (@List.perm_append_comm _ [_, _, _] [_, _]) ?_)
    exact .cons _ (.cons _ (.cons _ (.swap ..)))

end FreshBuild.Config
