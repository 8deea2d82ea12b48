/-
# FreshBuild.Proofs.Config.Accepted — which documents are configurations, and which ones they are.

`Describes fields c` reads a table as a person would: every key is one of the seven, each key that is
present has a value of the right kind, and `c` has exactly these values and the standard ones
elsewhere. It does not mention the order of the fields, nor what happens at the first problem. The
decoder takes the fields one after the other in the order of their keys; `decode_eq_ok_iff` says that
it accepts exactly the tables that describe a configuration, and gives that one.

* `Enters c field c'` says once what a single field does; everything else goes by its cases.
* A `Setting` is a key with the part of the configuration behind it, together with the two laws that
  matter: its own field sets it to what the value reads as, and any other field leaves it alone.
* By induction over the fields, a run therefore sets it to what its one field reads as, or leaves it
  (`Setting.said_of_run`). The seven settings are seven instances.
-/
import FreshBuild.Proofs.Config.Values

namespace FreshBuild

open Toml (Fields Value)

namespace Config

/-! ## What a table says -/

/-- A field with the key reads as `x`; if there is none, `x` is the fallback. -/
structure Says {α : Type} (fields : Fields) (key : String) (reads : Value → α → Prop)
    (fallback x : α) : Prop where
  present : ∀ v, (key, v) ∈ fields → reads v x
  absent : key ∉ fields.map Prod.fst → x = fallback

/-- The table has no other keys than those of the settings, and for every setting `c` has what the
table says about it, over the standard configuration. -/
structure Describes (fields : Fields) (c : Config) : Prop where
  known : ∀ field ∈ fields, field.1 ∈ keys
  buildDir : Says fields "build_dir" (fun v s => v = .string s) standard.buildDir c.buildDir
  jobs : Says fields "jobs" IsJobs standard.jobs c.jobs
  keepGoing : Says fields "keep_going" (fun v b => v = .boolean b) standard.keepGoing c.keepGoing
  checkStatus :
    Says fields "check_status" (fun v b => v = .boolean b) standard.checkStatus c.checkStatus
  timeoutSecs : Says fields "timeout_secs" IsSeconds standard.timeoutSecs c.timeoutSecs
  configure : Says fields "configure" IsTool standard.configure c.configure
  build : Says fields "build" IsTool standard.build c.build

/-! ## Single fields -/

/-- What one field does: it sets one setting to what its value reads as. -/
inductive Enters (c : Config) (field : String × Value) : Config → Prop where
  | buildDir {s : String} (key : field.1 = "build_dir") (h : decodeText field.2 = .ok s) :
      Enters c field { c with buildDir := s }
  | jobs {jobs : Jobs} (key : field.1 = "jobs") (h : decodeJobs (.ofValue field.2) = .ok jobs) :
      Enters c field { c with jobs }
  | keepGoing {b : Bool} (key : field.1 = "keep_going") (h : decodeBoolean field.2 = .ok b) :
      Enters c field { c with keepGoing := b }
  | checkStatus {b : Bool} (key : field.1 = "check_status") (h : decodeBoolean field.2 = .ok b) :
      Enters c field { c with checkStatus := b }
  | timeoutSecs {n : UInt64} (key : field.1 = "timeout_secs")
      (h : decodeSeconds field.2 = .ok n) : Enters c field { c with timeoutSecs := some n }
  | configure {tool : Tool} (key : field.1 = "configure") (h : decodeTool field.2 = .ok tool) :
      Enters c field { c with configure := tool }
  | build {tool : Tool} (key : field.1 = "build") (h : decodeTool field.2 = .ok tool) :
      Enters c field { c with build := tool }

theorem decodeField_eq_ok_iff {c c' : Config} {field : String × Value} :
    decodeField c field = .ok c' ↔ Enters c field c' := by
  constructor
  · intro h
    unfold decodeField at h
    split at h
    case h_8 => cases h
    all_goals obtain ⟨x, hx, rfl⟩ := map_eq_ok_iff.mp h
    case h_1 => exact .buildDir rfl hx
    case h_2 => exact .jobs rfl hx
    case h_3 => exact .keepGoing rfl hx
    case h_4 => exact .checkStatus rfl hx
    case h_5 => exact .timeoutSecs rfl hx
    case h_6 => exact .configure rfl hx
    case h_7 => exact .build rfl hx
  · obtain ⟨name, v⟩ := field
    rintro (⟨key, h⟩ | ⟨key, h⟩ | ⟨key, h⟩ | ⟨key, h⟩ | ⟨key, h⟩ | ⟨key, h⟩ | ⟨key, h⟩)
    all_goals
      dsimp only at key h
      subst key
      simp only [decodeField, map_eq_ok_iff]
      exact ⟨_, h, rfl⟩

theorem Enters.known {c c' : Config} {field : String × Value} (h : Enters c field c') :
    field.1 ∈ keys := by
  cases h with
  | buildDir key | jobs key | keepGoing key | checkStatus key | timeoutSecs key | configure key
  | build key => simp [keys, key]

/-! ## Single settings -/

/-- A setting: its key, where a configuration keeps it, and what a value of it reads as. -/
structure Setting (α : Type) where
  key : String
  get : Config → α
  reads : Value → α → Prop
  /-- A field with the key sets the setting to what the value reads as. -/
  own : ∀ {c : Config} {v : Value} {x : α}, v.WellFormed →
    ((∃ c', decodeField c (key, v) = .ok c' ∧ get c' = x) ↔ reads v x)
  /-- A field with another key leaves it alone. -/
  other : ∀ {c c' : Config} {field : String × Value}, field.1 ≠ key →
    decodeField c field = .ok c' → get c' = get c

namespace Setting

def buildDir : Setting String where
  key := "build_dir"
  get := Config.buildDir
  reads v s := v = .string s
  own _ := by simp only [decodeField, exists_map_eq_ok, decodeText_eq_ok_iff, exists_eq_right]
  other hne h := by
    cases decodeField_eq_ok_iff.mp h with
    | buildDir key => exact absurd key hne
    | _ => rfl

def jobs : Setting Jobs where
  key := "jobs"
  get := Config.jobs
  reads := IsJobs
  own _ := by simp only [decodeField, exists_map_eq_ok, decodeJobs_eq_ok_iff, exists_eq_right]
  other hne h := by
    cases decodeField_eq_ok_iff.mp h with
    | jobs key => exact absurd key hne
    | _ => rfl

def keepGoing : Setting Bool where
  key := "keep_going"
  get := Config.keepGoing
  reads v b := v = .boolean b
  own _ := by simp only [decodeField, exists_map_eq_ok, decodeBoolean_eq_ok_iff, exists_eq_right]
  other hne h := by
    cases decodeField_eq_ok_iff.mp h with
    | keepGoing key => exact absurd key hne
    | _ => rfl

def checkStatus : Setting Bool where
  key := "check_status"
  get := Config.checkStatus
  reads v b := v = .boolean b
  own _ := by simp only [decodeField, exists_map_eq_ok, decodeBoolean_eq_ok_iff, exists_eq_right]
  other hne h := by
    cases decodeField_eq_ok_iff.mp h with
    | checkStatus key => exact absurd key hne
    | _ => rfl

def timeoutSecs : Setting (Option UInt64) where
  key := "timeout_secs"
  get := Config.timeoutSecs
  reads := IsSeconds
  own _ := by
    simp only [decodeField, exists_map_eq_ok, decodeSeconds_eq_ok_iff]
    constructor
    · rintro ⟨n, rfl, rfl⟩
      exact .limit n
    · rintro ⟨n⟩
      exact ⟨n, rfl, rfl⟩
  other hne h := by
    cases decodeField_eq_ok_iff.mp h with
    | timeoutSecs key => exact absurd key hne
    | _ => rfl

def configure : Setting Tool where
  key := "configure"
  get := Config.configure
  reads := IsTool
  own hv := by simp only [decodeField, exists_map_eq_ok, decodeTool_eq_ok_iff hv, exists_eq_right]
  other hne h := by
    cases decodeField_eq_ok_iff.mp h with
    | configure key => exact absurd key hne
    | _ => rfl

def build : Setting Tool where
  key := "build"
  get := Config.build
  reads := IsTool
  own hv := by simp only [decodeField, exists_map_eq_ok, decodeTool_eq_ok_iff hv, exists_eq_right]
  other hne h := by
    cases decodeField_eq_ok_iff.mp h with
    | build key => exact absurd key hne
    | _ => rfl

variable {α : Type} (s : Setting α)

/-- What the table says about the setting. -/
def Said (fields : Fields) (fallback x : α) : Prop := Says fields s.key s.reads fallback x

/-- Over the fields of a table, whose keys do not repeat, the setting is set once at most. -/
theorem said_of_run {fields : Fields} (hwf : (Value.table fields).WellFormed) {c c' : Config}
    (hrun : fields.foldlM decodeField c = .ok c') : s.Said fields (s.get c) (s.get c') := by
  induction fields generalizing c with
  | nil =>
      cases hrun
      exact ⟨by simp, fun _ => rfl⟩
  | cons field rest ih =>
      obtain ⟨key, v⟩ := field
      rw [List.foldlM_cons, bind_eq_ok_iff] at hrun
      obtain ⟨next, hnext, hrest⟩ := hrun
      obtain ⟨hfresh, hdistinct⟩ := List.nodup_cons.mp hwf.distinct
      have hsaid := ih (.table hdistinct fun f hf => hwf.field (List.mem_cons_of_mem _ hf)) hrest
      by_cases hkey : key = s.key
      · -- the rest has no field with this key, so what this one sets stays
        obtain rfl := hkey
        have hreads : s.reads v (s.get c') := by
          rw [hsaid.absent hfresh]
          have hv : v.WellFormed := @Value.WellFormed.field _ (s.key, v) hwf (by simp)
          exact (s.own hv).mp ⟨next, hnext, rfl⟩
        constructor
        · intro w hw
          rcases List.mem_cons.mp hw with heq | hw
          · cases heq
            exact hreads
          · exact absurd (List.mem_map_of_mem hw) hfresh
        · intro habsent
          simp at habsent
      · -- this field is about another setting, so all depends on the rest
        constructor
        · intro w hw
          rcases List.mem_cons.mp hw with heq | hw
          · cases heq
            exact absurd rfl hkey
          · exact hsaid.present w hw
        · intro habsent
          rw [List.map_cons, List.mem_cons, not_or] at habsent
          rw [hsaid.absent habsent.2, s.other hkey hnext]

/-- A table says one thing about a setting at most. -/
theorem said_unique {fields : Fields} (hwf : (Value.table fields).WellFormed) {fallback x y : α}
    (hx : s.Said fields fallback x) (hy : s.Said fields fallback y) : x = y := by
  by_cases hkey : s.key ∈ fields.map Prod.fst
  · obtain ⟨⟨_, v⟩, hmem, rfl⟩ := List.mem_map.mp hkey
    have hv := hwf.field hmem
    obtain ⟨c, hc, rfl⟩ := (@Setting.own _ s standard _ _ hv).mpr (hx.present v hmem)
    obtain ⟨c', hc', rfl⟩ := (@Setting.own _ s standard _ _ hv).mpr (hy.present v hmem)
    rw [hc] at hc'
    cases hc'
    rfl
  · rw [hx.absent hkey, hy.absent hkey]

/-- A field that the table says something about can be decoded, over any configuration. -/
theorem decodes_of_said {fields : Fields} (hwf : (Value.table fields).WellFormed) {fallback x : α}
    (hsaid : s.Said fields fallback x) {field : String × Value} (hmem : field ∈ fields)
    (hkey : field.1 = s.key) (c : Config) : ∃ c', decodeField c field = .ok c' := by
  obtain ⟨_, v⟩ := field
  obtain rfl : _ = s.key := hkey
  obtain ⟨c', hc', _⟩ := (@Setting.own _ s c _ _ (hwf.field hmem)).mpr (hsaid.present v hmem)
  exact ⟨c', hc'⟩

end Setting

/-! ## Whole tables -/

theorem known_of_run {fields : Fields} {c c' : Config}
    (hrun : fields.foldlM decodeField c = .ok c') : ∀ field ∈ fields, field.1 ∈ keys := by
  induction fields generalizing c with
  | nil => simp
  | cons field rest ih =>
      rw [List.foldlM_cons, bind_eq_ok_iff] at hrun
      obtain ⟨next, hnext, hrest⟩ := hrun
      exact List.forall_mem_cons.mpr ⟨(decodeField_eq_ok_iff.mp hnext).known, ih hrest⟩

/-- If each field can be decoded by itself, then all of them one after the other. -/
theorem run_of_decodes {fields : Fields}
    (h : ∀ field ∈ fields, ∀ c, ∃ c', decodeField c field = .ok c') (c : Config) :
    ∃ c', fields.foldlM decodeField c = .ok c' := by
  induction fields generalizing c with
  | nil => exact ⟨c, rfl⟩
  | cons field rest ih =>
      obtain ⟨next, hnext⟩ := h field (by simp) c
      obtain ⟨c', hc'⟩ := ih (fun f hf => h f (List.mem_cons_of_mem field hf)) next
      refine ⟨c', ?_⟩
      rw [List.foldlM_cons, bind_eq_ok_iff]
      exact ⟨next, hnext, hc'⟩

theorem describes_of_run {fields : Fields} (hwf : (Value.table fields).WellFormed) {c : Config}
    (hrun : fields.foldlM decodeField standard = .ok c) : Describes fields c where
  known := known_of_run hrun
  buildDir := Setting.buildDir.said_of_run hwf hrun
  jobs := Setting.jobs.said_of_run hwf hrun
  keepGoing := Setting.keepGoing.said_of_run hwf hrun
  checkStatus := Setting.checkStatus.said_of_run hwf hrun
  timeoutSecs := Setting.timeoutSecs.said_of_run hwf hrun
  configure := Setting.configure.said_of_run hwf hrun
  build := Setting.build.said_of_run hwf hrun

/-- A table describes one configuration at most. -/
theorem Describes.unique {fields : Fields} (hwf : (Value.table fields).WellFormed) {c c' : Config}
    (h : Describes fields c) (h' : Describes fields c') : c = c' := by
  rw [Config.mk.injEq]
  exact ⟨Setting.buildDir.said_unique hwf h.buildDir h'.buildDir,
    Setting.jobs.said_unique hwf h.jobs h'.jobs,
    Setting.keepGoing.said_unique hwf h.keepGoing h'.keepGoing,
    Setting.checkStatus.said_unique hwf h.checkStatus h'.checkStatus,
    Setting.timeoutSecs.said_unique hwf h.timeoutSecs h'.timeoutSecs,
    Setting.configure.said_unique hwf h.configure h'.configure,
    Setting.build.said_unique hwf h.build h'.build⟩

theorem Describes.decodes {fields : Fields} (hwf : (Value.table fields).WellFormed) {c : Config}
    (h : Describes fields c) : ∀ field ∈ fields, ∀ base, ∃ c', decodeField base field = .ok c' := by
  intro field hmem
  have hknown := h.known field hmem
  simp only [keys, List.mem_cons, List.not_mem_nil, or_false] at hknown
  rcases hknown with hkey | hkey | hkey | hkey | hkey | hkey | hkey
  · exact Setting.buildDir.decodes_of_said hwf h.buildDir hmem hkey
  · exact Setting.jobs.decodes_of_said hwf h.jobs hmem hkey
  · exact Setting.keepGoing.decodes_of_said hwf h.keepGoing hmem hkey
  · exact Setting.checkStatus.decodes_of_said hwf h.checkStatus hmem hkey
  · exact Setting.timeoutSecs.decodes_of_said hwf h.timeoutSecs hmem hkey
  · exact Setting.configure.decodes_of_said hwf h.configure hmem hkey
  · exact Setting.build.decodes_of_said hwf h.build hmem hkey

theorem run_eq_ok_iff {fields : Fields} (hwf : (Value.table fields).WellFormed) {c : Config} :
    fields.foldlM decodeField standard = .ok c ↔ Describes fields c := by
  constructor
  · exact describes_of_run hwf
  · -- no field stops the run, and where it ends is described by the table, too
    intro h
    obtain ⟨c', hrun⟩ := run_of_decodes (h.decodes hwf) standard
    rw [hrun, (describes_of_run hwf hrun).unique hwf h]

/-! ## The order of the fields -/

theorem Says.perm {α : Type} {fields fields' : Fields} {key : String} {reads : Value → α → Prop}
    {fallback x : α} (hperm : fields.Perm fields') (h : Says fields key reads fallback x) :
    Says fields' key reads fallback x where
  present v hv := h.present v (hperm.mem_iff.mpr hv)
  absent hkey := h.absent fun hmem => hkey ((hperm.map Prod.fst).mem_iff.mp hmem)

/-- What a table describes does not depend on the order of its fields. -/
theorem Describes.perm {fields fields' : Fields} {c : Config} (hperm : fields.Perm fields')
    (h : Describes fields c) : Describes fields' c where
  known field hmem := h.known field (hperm.mem_iff.mpr hmem)
  buildDir := h.buildDir.perm hperm
  jobs := h.jobs.perm hperm
  keepGoing := h.keepGoing.perm hperm
  checkStatus := h.checkStatus.perm hperm
  timeoutSecs := h.timeoutSecs.perm hperm
  configure := h.configure.perm hperm
  build := h.build.perm hperm

theorem wellFormed_sorted {fields : Fields} (hwf : (Value.table fields).WellFormed) :
    (Value.table (sorted fields)).WellFormed :=
  .table (((sorted_perm fields).map Prod.fst).nodup_iff.mpr hwf.distinct)
    fun _ hmem => hwf.field ((sorted_perm fields).mem_iff.mp hmem)

theorem decode_eq_ok_iff {fields : Fields} (hwf : (Value.table fields).WellFormed) {c : Config} :
    decode fields = .ok c ↔ Describes fields c := by
  rw [decode, run_eq_ok_iff (wellFormed_sorted hwf)]
  exact ⟨.perm (sorted_perm fields), .perm (sorted_perm fields).symm⟩

/-! ## Tables and texts that are accepted -/

theorem ofTable_eq_ok_iff {fields : Fields} {c : Config} :
    ofTable fields = .ok c ↔ decode fields = .ok c ∧ c.validate = .ok () := by
  unfold ofTable
  split
  case h_1 herr => simp [herr]
  case h_2 c' hdecode =>
    rw [hdecode]
    split
    case h_1 hdefect =>
      simp only [reduceCtorEq, Except.ok.injEq, false_iff, not_and]
      rintro rfl
      simp [hdefect]
    case h_2 hvalid =>
      simp only [Except.ok.injEq]
      constructor
      · rintro rfl
        exact ⟨rfl, hvalid⟩
      · exact fun h => h.1

theorem parse_eq_ok_iff {text : List Char} {c : Config} :
    parse text = .ok c ↔ ∃ fields, Toml.read? text = some fields ∧ ofTable fields = .ok c := by
  unfold parse
  cases Toml.read? text <;> simp

/-- A tree is accepted exactly if it describes a configuration that can be run, and then it is loaded
as this configuration: the standard one with the values that were written in place of its own. The
same holds of every text, whose tree is what the reader makes of it. -/
theorem accepted_iff :
    (∀ (fields : Fields) (c : Config), (Value.table fields).WellFormed →
      (ofTable fields = .ok c ↔ Describes fields c ∧ c.validate = .ok ())) ∧
    (∀ (text : List Char) (c : Config), parse text = .ok c ↔
      ∃ fields, Toml.read? text = some fields ∧ (Value.table fields).WellFormed ∧
        Describes fields c ∧ c.validate = .ok ()) := by
  have htree : ∀ (fields : Fields) (c : Config), (Value.table fields).WellFormed →
      (ofTable fields = .ok c ↔ Describes fields c ∧ c.validate = .ok ()) := by
    intro fields c hwf
    rw [ofTable_eq_ok_iff, decode_eq_ok_iff hwf]
  refine ⟨htree, fun text c => ?_⟩
  rw [parse_eq_ok_iff]
  constructor
  · rintro ⟨fields, hread, hof⟩
    have hwf := Toml.read?_wellFormed hread
    exact ⟨fields, hread, hwf, (htree fields c hwf).mp hof⟩
  · rintro ⟨fields, hread, hwf, hdescribed⟩
    exact ⟨fields, hread, (htree fields c hwf).mpr hdescribed⟩

/-- A file that sets the job count to the largest word, turns checking on and names a build tool. -/
theorem accepted_partial :
    (ofTable
      [("jobs", .integer 18446744073709551615), ("check_status", .boolean true),
        ("build", .table [("command", .array [.string "ninja", .string "-v"])])]) =
      .ok { standard with
        jobs := .fixed 18446744073709551615 (by decide)
        checkStatus := true
        build := ⟨["ninja", "-v"]⟩ } := by
  refine (accepted_iff.1 _ _ ?_).mpr ⟨?_, by decide⟩
  · refine .table (by decide) (List.forall_mem_cons.mpr ⟨.integer _, List.forall_mem_cons.mpr
      ⟨.boolean _, List.forall_mem_singleton.mpr (.table (by decide) ?_)⟩⟩)
    refine List.forall_mem_singleton.mpr (.array ?_)
    exact List.forall_mem_cons.mpr ⟨.string _, List.forall_mem_singleton.mpr (.string _)⟩
  · refine ⟨by simp [keys], ⟨by simp, by simp⟩, ⟨?_, by simp⟩, ⟨by simp, by simp⟩,
      ⟨by simp, by simp⟩, ⟨by simp, by simp⟩, ⟨by simp, by simp⟩, ⟨?_, by simp⟩⟩
    · intro v hv
      obtain rfl : v = .integer 18446744073709551615 := by simpa using hv
      exact .count 18446744073709551615 (by decide)
    · intro v hv
      obtain rfl : v = .table [("command", commandValue ⟨["ninja", "-v"]⟩)] := by
        simpa [commandValue] using hv
      exact .table ⟨["ninja", "-v"]⟩

end Config

end FreshBuild
