/-
# FreshBuild.Proofs.Config.Source — where a run has its configuration from.

There are two loaders, for a file that somebody named and for the standard file in the root. They
differ in one thing, what a missing file means, so they are one equation (`Options.loadConfig_eq`)
with one condition in it. From the equation follow the two answers a loader can give:

* a configuration is what the source says, over the standard one, and it has passed validation
  (`loadConfig_eq_ok_iff`); a source is a document, or the missing standard file, which says nothing;
* an error has one of five causes, each of which is a fault of a phase whose predecessors went well
  (`loadConfig_eq_error_iff`).
-/
import FreshBuild.Program
import FreshBuild.Proofs.Config.Accepted

namespace FreshBuild

open Toml (Fields Value)

theorem Cause.isAbsence_iff {cause : Cause} :
    cause.isAbsence = true ↔ cause = .system .noEntry := by
  rw [isAbsence, beq_iff_eq]

namespace Config

/-- The standard configuration is what a document without keys describes. -/
theorem describes_nil_iff {c : Config} : Describes [] c ↔ c = standard := by
  have hwf : (Value.table []).WellFormed := .table List.nodup_nil (by simp)
  have hstandard : Describes [] standard := describes_of_run hwf rfl
  constructor
  · exact fun h => h.unique hwf hstandard
  · rintro rfl
    exact hstandard

/-! ## What validation promises -/

theorem validate_standard : standard.validate = .ok () := by decide

/-! ## Texts -/

/-- A table is loaded as what it describes, if that is valid. -/
theorem ofTable_eq_ok_iff_describes {fields : Fields} (hwf : (Value.table fields).WellFormed)
    {c : Config} : ofTable fields = .ok c ↔ Describes fields c ∧ c.validate = .ok () := by
  rw [ofTable_eq_ok_iff, decode_eq_ok_iff hwf]

/-- A text is loaded as what its document describes, if that is valid. -/
theorem parse_eq_ok_iff_describes {text : List Char} {c : Config} :
    parse text = .ok c ↔
      ∃ fields, Toml.read? text = some fields ∧ Describes fields c ∧ c.validate = .ok () := by
  rw [parse_eq_ok_iff]
  refine exists_congr fun fields => and_congr_right fun hread => ?_
  exact ofTable_eq_ok_iff_describes (Toml.read?_wellFormed hread)

/-- Why a text is refused, by the phase that refuses it. -/
inductive Refuses (text : List Char) : Refusal → Prop where
  | malformed (hread : Toml.read? text = none) : Refuses text .malformed
  | data {fields : Fields} {problem : Problem} (hread : Toml.read? text = some fields)
      (hdecode : decode fields = .error problem) : Refuses text (.data problem)
  | defect {fields : Fields} {c : Config} {defect : Defect}
      (hread : Toml.read? text = some fields) (hdecode : decode fields = .ok c)
      (hvalid : c.validate = .error defect) : Refuses text (.defect defect)

theorem parse_eq_error_iff {text : List Char} {refusal : Refusal} :
    parse text = .error refusal ↔ Refuses text refusal := by
  constructor
  · intro h
    unfold parse at h
    split at h
    · rename_i hread
      obtain rfl := Except.error.inj h
      exact .malformed hread
    · rename_i fields hread
      unfold ofTable at h
      split at h
      · rename_i problem hdecode
        obtain rfl := Except.error.inj h
        exact .data hread hdecode
      · rename_i c hdecode
        split at h
        · rename_i defect hvalid
          obtain rfl := Except.error.inj h
          exact .defect hread hdecode hvalid
        · cases h
  · rintro (hread | ⟨hread, hdecode⟩ | ⟨hread, hdecode, hvalid⟩)
    · rw [parse, hread]
    · rw [parse, hread]
      simp only [ofTable, hdecode]
    · rw [parse, hread]
      simp only [ofTable, hdecode, hvalid]

/-! ## Contents -/

variable {path : Path} {content : Bytes} {c : Config}

/-- The content of a file that holds a text is judged as this text. -/
theorem ofBytes_of_text (path : Path) {text : List Char} (h : Utf8.decode? content = some text) :
    ofBytes path content = (parse text).mapError (.refused path) := by
  rw [ofBytes, h]

/-- The content of a file that holds no text is not looked at any further. -/
theorem ofBytes_of_no_text (path : Path) (h : Utf8.decode? content = none) :
    ofBytes path content = .error (.unreadable path .notUtf8) := by
  rw [ofBytes, h]

theorem ofBytes_eq_ok_iff :
    ofBytes path content = .ok c ↔
      ∃ text, Utf8.decode? content = some text ∧ parse text = .ok c := by
  cases htext : Utf8.decode? content with
  | none => simp [ofBytes_of_no_text path htext]
  | some text => simp [ofBytes_of_text path htext, mapError_eq_ok_iff]

theorem ofBytes_eq_error_iff {e : LoadError} :
    ofBytes path content = .error e ↔
      (Utf8.decode? content = none ∧ e = .unreadable path .notUtf8) ∨
        ∃ text refusal, Utf8.decode? content = some text ∧ Refuses text refusal ∧
          e = .refused path refusal := by
  cases htext : Utf8.decode? content with
  | none => simp [ofBytes_of_no_text path htext, eq_comm]
  | some text =>
      rw [ofBytes_of_text path htext, mapError_eq_error_iff]
      simp only [parse_eq_error_iff, reduceCtorEq, false_and, false_or, Option.some.injEq,
        exists_and_left, exists_eq_left', @eq_comm _ _ e]

end Config

namespace Options

variable {o : Options} {d : Disk} {at_ : Location} {root : Path} {c : Config}

/-- The configuration file of a run: the one that was named, or the standard one in the root. -/
def configPath (o : Options) (root : Path) : Path := o.config.getD (root.join configName)

/-- A failure to read the file is forgiven if nobody named it and it is just not there. -/
def Forgives (o : Options) (cause : Cause) : Prop :=
  o.config = none ∧ cause = .system .noEntry

instance (o : Options) (cause : Cause) : Decidable (o.Forgives cause) :=
  inferInstanceAs (Decidable (_ ∧ _))

/-- **The two loaders are one**, but for what they forgive. -/
theorem loadConfig_eq (o : Options) (d : Disk) (at_ : Location) (root : Path) :
    o.loadConfig d at_ root =
      match d.readFile at_ (o.configPath root) with
      | .ok content => Config.ofBytes (o.configPath root) content
      | .error cause =>
        if o.Forgives cause then .ok Config.standard
        else .error (.unreadable (o.configPath root) cause) := by
  unfold loadConfig configPath
  cases hconfig : o.config with
  | some path =>
      simp only [Option.getD_some]
      unfold Config.loadRequired
      cases d.readFile at_ path with
      | ok content => rfl
      | error cause => simp [Forgives, hconfig]
  | none =>
      simp only [Option.getD_none]
      unfold Config.load
      cases d.readFile at_ (root.join configName) with
      | ok content => rfl
      | error cause => simp [Forgives, hconfig, Cause.isAbsence_iff]

/-- The configuration file holds a text. -/
def HoldsText (o : Options) (d : Disk) (at_ : Location) (root : Path) (text : List Char) : Prop :=
  ∃ content, d.readFile at_ (o.configPath root) = .ok content ∧ Utf8.decode? content = some text

/-- What the source of a configuration says, as the fields of a table. -/
inductive Source (o : Options) (d : Disk) (at_ : Location) (root : Path) : Fields → Prop where
  | document {text : List Char} {fields : Fields} (htext : o.HoldsText d at_ root text)
      (hread : Toml.read? text = some fields) : Source o d at_ root fields
  | missing {cause : Cause} (hread : d.readFile at_ (o.configPath root) = .error cause)
      (hforgiven : o.Forgives cause) : Source o d at_ root []

/-- **What a run loads** is what its source describes, and it has passed validation. -/
theorem loadConfig_eq_ok_iff :
    o.loadConfig d at_ root = .ok c ↔
      ∃ fields, o.Source d at_ root fields ∧ Config.Describes fields c ∧ c.validate = .ok () := by
  rw [loadConfig_eq]
  constructor
  · intro h
    split at h
    · rename_i content hcontent
      obtain ⟨text, htext, hparse⟩ := Config.ofBytes_eq_ok_iff.mp h
      obtain ⟨fields, hread, hdescribes, hvalid⟩ := Config.parse_eq_ok_iff_describes.mp hparse
      exact ⟨fields, .document ⟨content, hcontent, htext⟩ hread, hdescribes, hvalid⟩
    · rename_i cause hcause
      split at h
      · rename_i hforgiven
        obtain rfl := Except.ok.inj h
        exact ⟨[], .missing hcause hforgiven, Config.describes_nil_iff.mpr rfl,
          Config.validate_standard⟩
      · cases h
  · rintro ⟨fields, hsource, hdescribes, hvalid⟩
    cases hsource with
    | @document text _ htext hread =>
        obtain ⟨content, hcontent, htext⟩ := htext
        have hparse := Config.parse_eq_ok_iff_describes.mpr ⟨fields, hread, hdescribes, hvalid⟩
        rw [hcontent]
        exact Config.ofBytes_eq_ok_iff.mpr ⟨text, htext, hparse⟩
    | missing hcause hforgiven =>
        rw [hcause]
        simp only [if_pos hforgiven]
        rw [Config.describes_nil_iff.mp hdescribes]

/-- Why no configuration is loaded, by the phase that fails: the file cannot be read, its content is
no text, or the text is refused. -/
inductive Unloaded (o : Options) (d : Disk) (at_ : Location) (root : Path) : LoadError → Prop where
  | unreadable {cause : Cause} (hread : d.readFile at_ (o.configPath root) = .error cause)
      (hneeded : ¬ o.Forgives cause) :
      Unloaded o d at_ root (.unreadable (o.configPath root) cause)
  | notText {content : Bytes} (hread : d.readFile at_ (o.configPath root) = .ok content)
      (htext : Utf8.decode? content = none) :
      Unloaded o d at_ root (.unreadable (o.configPath root) .notUtf8)
  | refused {text : List Char} {refusal : Config.Refusal} (htext : o.HoldsText d at_ root text)
      (hrefused : Config.Refuses text refusal) :
      Unloaded o d at_ root (.refused (o.configPath root) refusal)

theorem loadConfig_eq_error_iff {e : LoadError} :
    o.loadConfig d at_ root = .error e ↔ o.Unloaded d at_ root e := by
  rw [loadConfig_eq]
  constructor
  · intro h
    split at h
    · rename_i content hcontent
      rcases Config.ofBytes_eq_error_iff.mp h with ⟨htext, rfl⟩ | ⟨text, refusal, htext, hrefused, rfl⟩
      · exact .notText hcontent htext
      · exact .refused ⟨content, hcontent, htext⟩ hrefused
    · rename_i cause hcause
      split at h
      · cases h
      · rename_i hneeded
        obtain rfl := Except.error.inj h
        exact .unreadable hcause hneeded
  · intro h
    cases h with
    | unreadable hread hneeded =>
        rw [hread]
        simp only [if_neg hneeded]
    | notText hread htext =>
        rw [hread]
        exact Config.ofBytes_eq_error_iff.mpr (Or.inl ⟨htext, rfl⟩)
    | refused htext hrefused =>
        obtain ⟨content, hcontent, htext⟩ := htext
        rw [hcontent]
        exact Config.ofBytes_eq_error_iff.mpr (Or.inr ⟨_, _, htext, hrefused, rfl⟩)

end Options

end FreshBuild
