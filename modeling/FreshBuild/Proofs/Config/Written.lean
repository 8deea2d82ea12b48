/-
# FreshBuild.Proofs.Config.Written — configurations that are written and read back.

A configuration has five keys with a line each and two tools with a section each. A layout of it
(`Layout`) says which of them are written and in which order; what is left out must be standard, since
the reader will take it to be. Whatever the layout and the style are, the text is read as exactly the
configuration (`parse_written`).

Reading back a text is the business of sheets. What is left is to see that the tree of the sheet
describes the configuration, which comes down to which fields it has (`mem_tree_scalar`,
`mem_tree_step`): the keys are different, so every line is found under its own.
-/
import FreshBuild.Proofs.Config.Source
import FreshBuild.Proofs.Toml.Sheet

namespace FreshBuild

open Toml (Fields IsBareKey Plain Sheet Style Value)

theorem Step.name_injective {s t : Step} (h : s.name = t.name) : s = t := by
  cases s <;> cases t <;> first | rfl | exact absurd h (by decide)

namespace Config

/-! ## Layouts -/

/-- The settings that take a line of their own. -/
inductive Scalar where
  | buildDir
  | jobs
  | keepGoing
  | checkStatus
  | timeoutSecs
deriving DecidableEq

def Scalar.key : Scalar → String
  | .buildDir => "build_dir"
  | .jobs => "jobs"
  | .keepGoing => "keep_going"
  | .checkStatus => "check_status"
  | .timeoutSecs => "timeout_secs"

/-- The setting has its standard value. -/
def Scalar.IsStandard (c : Config) : Scalar → Prop
  | .buildDir => c.buildDir = standard.buildDir
  | .jobs => c.jobs = standard.jobs
  | .keepGoing => c.keepGoing = standard.keepGoing
  | .checkStatus => c.checkStatus = standard.checkStatus
  | .timeoutSecs => c.timeoutSecs = standard.timeoutSecs

/-- The tool of a step. -/
def tool (c : Config) : Step → Tool
  | .configure => c.configure
  | .build => c.build

/-- Which settings of a configuration are written, and in which order: first lines, then sections.
What is not written is standard. -/
structure Layout (c : Config) where
  lines : List Scalar
  sections : List Step
  lines_nodup : lines.Nodup
  sections_nodup : sections.Nodup
  standard_of_not_mem_lines : ∀ i ∉ lines, i.IsStandard c
  standard_of_not_mem_sections : ∀ step ∉ sections, c.tool step = standard.tool step

/-- Everything is written. -/
def Layout.full (c : Config) : Layout c where
  lines := [.buildDir, .jobs, .keepGoing, .checkStatus, .timeoutSecs]
  sections := [.configure, .build]
  lines_nodup := by decide
  sections_nodup := by decide
  standard_of_not_mem_lines := by
    intro i hi
    cases i <;> simp at hi
  standard_of_not_mem_sections := by
    intro step hstep
    cases step <;> simp at hstep

/-! ## Texts -/

/-- A job count as it is written. -/
def plainJobs : Jobs → Plain
  | .fixed count _ => .number count.toNat
  | .auto => .text "auto"

/-- What stands on the line of a setting. No limit is written by having no line. -/
def plain? (c : Config) : Scalar → Option Plain
  | .buildDir => some (.text c.buildDir)
  | .jobs => some (plainJobs c.jobs)
  | .keepGoing => some (.flag c.keepGoing)
  | .checkStatus => some (.flag c.checkStatus)
  | .timeoutSecs => c.timeoutSecs.map fun n => .number n.toNat

/-- The document of a configuration. -/
def sheet (c : Config) (layout : Layout c) : Sheet where
  fields := layout.lines.filterMap fun i => (c.plain? i).map fun p => (i.key, p)
  sections := layout.sections.map fun step => (step.name, [("command", .texts (c.tool step).command)])

/-- The text of a configuration. -/
def written (style : Style) (c : Config) (layout : Layout c) : List Char :=
  (c.sheet layout).text style

/-! ## The tree of the document -/

theorem Scalar.key_injective {i j : Scalar} (h : i.key = j.key) : i = j := by
  cases i <;> cases j <;> first | rfl | exact absurd h (by decide)

theorem Scalar.key_ne_name (i : Scalar) (step : Step) : i.key ≠ step.name := by
  cases i <;> cases step <;> decide

variable {c : Config} {layout : Layout c} {i : Scalar} {step : Step} {v : Value} {name : String}

/-- The fields of the document are its lines and its sections. -/
theorem mem_tree_iff : (name, v) ∈ (c.sheet layout).tree ↔
    (∃ i ∈ layout.lines, ∃ p, c.plain? i = some p ∧ i.key = name ∧ p.value = v) ∨
      ∃ step ∈ layout.sections,
        step.name = name ∧ .table [("command", commandValue (c.tool step))] = v := by
  simp only [Sheet.tree, sheet, Toml.tableOf, List.mem_append, List.mem_map, List.mem_filterMap,
    Option.map_eq_some_iff, Prod.mk.injEq]
  constructor
  · rintro (⟨_, ⟨i, hi, p, hp, rfl⟩, hkey, hv⟩ | ⟨_, ⟨step, hstep, rfl⟩, hname, hv⟩)
    · exact Or.inl ⟨i, hi, p, hp, hkey, hv⟩
    · exact Or.inr ⟨step, hstep, hname, hv⟩
  · rintro (⟨i, hi, p, hp, hkey, hv⟩ | ⟨step, hstep, hname, hv⟩)
    · exact Or.inl ⟨_, ⟨i, hi, p, hp, rfl⟩, hkey, hv⟩
    · exact Or.inr ⟨_, ⟨step, hstep, rfl⟩, hname, hv⟩

/-- Under the key of a setting stands what its line says. -/
theorem mem_tree_scalar : (i.key, v) ∈ (c.sheet layout).tree ↔
    i ∈ layout.lines ∧ ∃ p, c.plain? i = some p ∧ p.value = v := by
  rw [mem_tree_iff]
  constructor
  · rintro (⟨j, hj, p, hp, hkey, hv⟩ | ⟨step, -, hname, -⟩)
    · obtain rfl := Scalar.key_injective hkey
      exact ⟨hj, p, hp, hv⟩
    · exact absurd hname.symm (i.key_ne_name step)
  · rintro ⟨hi, p, hp, hv⟩
    exact Or.inl ⟨i, hi, p, hp, rfl, hv⟩

/-- Under the name of a step stands what its section says. -/
theorem mem_tree_step : (step.name, v) ∈ (c.sheet layout).tree ↔
    step ∈ layout.sections ∧ .table [("command", commandValue (c.tool step))] = v := by
  rw [mem_tree_iff]
  constructor
  · rintro (⟨i, -, p, -, hkey, -⟩ | ⟨t, ht, hname, hv⟩)
    · exact absurd hkey (i.key_ne_name step)
    · obtain rfl := Step.name_injective hname
      exact ⟨ht, hv⟩
  · rintro ⟨hstep, hv⟩
    exact Or.inr ⟨step, hstep, rfl, hv⟩

/-- What the document says about a setting is what the setting is, as long as its line reads so. -/
theorem says_scalar {α : Type} {reads : Value → α → Prop} {fallback x : α}
    (hreads : ∀ p, c.plain? i = some p → reads p.value x)
    (habsent : i ∉ layout.lines ∨ c.plain? i = none → x = fallback) :
    Says (c.sheet layout).tree i.key reads fallback x where
  present := by
    intro v hv
    obtain ⟨-, p, hp, rfl⟩ := mem_tree_scalar.mp hv
    exact hreads p hp
  absent := by
    intro hkey
    refine habsent (or_iff_not_imp_right.mpr fun hwritten hi => hkey ?_)
    obtain ⟨p, hp⟩ := Option.ne_none_iff_exists'.mp hwritten
    exact List.mem_map_of_mem (f := Prod.fst) (mem_tree_scalar.mpr ⟨hi, p, hp, rfl⟩)

/-- The same of a setting that has a line whenever it is written. -/
theorem says_line {α : Type} {reads : Value → α → Prop} {fallback x : α} {p : Plain}
    (hline : c.plain? i = some p) (hreads : reads p.value x)
    (hstandard : i.IsStandard c → x = fallback) :
    Says (c.sheet layout).tree i.key reads fallback x := by
  refine says_scalar (fun q hq => ?_) fun h => hstandard ?_
  · obtain rfl := Option.some.inj (hline.symm.trans hq)
    exact hreads
  · rcases h with hi | hnone
    · exact layout.standard_of_not_mem_lines i hi
    · cases hline.symm.trans hnone

/-- What the document says about a tool is what the tool is. -/
theorem says_tool (step : Step) :
    Says (c.sheet layout).tree step.name IsTool (standard.tool step) (c.tool step) where
  present := by
    intro v hv
    obtain ⟨-, rfl⟩ := mem_tree_step.mp hv
    exact .table (c.tool step)
  absent := by
    intro hname
    refine layout.standard_of_not_mem_sections step fun hstep => hname ?_
    exact List.mem_map_of_mem (f := Prod.fst) (mem_tree_step.mpr ⟨hstep, rfl⟩)

theorem isJobs_plainJobs (jobs : Jobs) : IsJobs (plainJobs jobs).value jobs := by
  cases jobs with
  | fixed count hne => exact .count count hne
  | auto => exact .text (by decide)

/-- **The document describes its configuration.** -/
theorem describes_sheet (c : Config) (layout : Layout c) : Describes (c.sheet layout).tree c where
  known := by
    rintro ⟨name, v⟩ hmem
    rcases mem_tree_iff.mp hmem with ⟨i, -, -, -, rfl, -⟩ | ⟨step, -, rfl, -⟩
    · cases i <;> simp [keys, Scalar.key]
    · cases step <;> simp [keys, Step.name]
  buildDir := says_line (i := .buildDir) rfl rfl id
  jobs := says_line (i := .jobs) rfl (isJobs_plainJobs c.jobs) id
  keepGoing := says_line (i := .keepGoing) rfl rfl id
  checkStatus := says_line (i := .checkStatus) rfl rfl id
  timeoutSecs := by
    refine says_scalar (i := .timeoutSecs) (fun p hp => ?_) fun h => ?_
    · obtain ⟨n, hn, rfl⟩ := Option.map_eq_some_iff.mp hp
      rw [hn]
      exact .limit n
    · rcases h with hi | hnone
      · exact layout.standard_of_not_mem_lines .timeoutSecs hi
      · exact Option.map_eq_none_iff.mp hnone
  configure := says_tool .configure
  build := says_tool .build

/-! ## Reading back -/

theorem bare_key (i : Scalar) : IsBareKey i.key := by
  cases i <;> decide

theorem bare_name (step : Step) : IsBareKey step.name := by
  cases step <;> decide

/-- The names of the lines and of the sections. -/
theorem names_sheet (c : Config) (layout : Layout c) : (c.sheet layout).names =
    layout.lines.filterMap (fun i => (c.plain? i).map fun _ => i.key) ++
      layout.sections.map Step.name := by
  rw [Sheet.names, sheet, List.map_filterMap, List.map_map]
  simp only [Option.map_map]
  rfl

/-- No name of the document needs quotes, and none is used twice in one place. -/
theorem wellFormed_sheet (c : Config) (layout : Layout c) : (c.sheet layout).WellFormed where
  bare := by
    intro l hl
    rcases List.mem_append.mp hl with hl | hl
    · obtain ⟨field, hfield, rfl⟩ := List.mem_map.mp hl
      obtain ⟨i, -, hi⟩ := List.mem_filterMap.mp hfield
      obtain ⟨p, -, rfl⟩ := Option.map_eq_some_iff.mp hi
      exact bare_key i
    · obtain ⟨section_, hsection, hl⟩ := List.mem_flatMap.mp hl
      obtain ⟨step, -, rfl⟩ := List.mem_map.mp hsection
      rcases List.mem_cons.mp hl with rfl | hl
      · exact bare_name step
      · obtain rfl := List.mem_singleton.mp hl
        exact (by decide : IsBareKey "command")
  distinct := by
    rw [names_sheet]
    refine List.nodup_append.mpr ⟨?_, ?_, ?_⟩
    · refine layout.lines_nodup.filterMap fun i j key hi hj => ?_
      obtain ⟨-, -, hi⟩ := Option.map_eq_some_iff.mp hi
      obtain ⟨-, -, hj⟩ := Option.map_eq_some_iff.mp hj
      exact Scalar.key_injective (hi.trans hj.symm)
    · exact layout.sections_nodup.map fun s t h => Step.name_injective h
    · intro key hkey name hname
      obtain ⟨i, -, hi⟩ := List.mem_filterMap.mp hkey
      obtain ⟨-, -, rfl⟩ := Option.map_eq_some_iff.mp hi
      obtain ⟨step, -, rfl⟩ := List.mem_map.mp hname
      exact i.key_ne_name step
  distinct_section := by
    intro section_ hsection
    obtain ⟨step, -, rfl⟩ := List.mem_map.mp hsection
    exact List.nodup_singleton "command"

/-- **A valid configuration can be written down, and what is written is read back as exactly it**,
whatever is left out as standard, in which order the rest stands, and how characters are escaped. -/
theorem parse_written {c : Config} (hvalid : c.validate = .ok ()) :
    Nonempty (Layout c) ∧
      ∀ (style : Style) (layout : Layout c), parse (c.written style layout) = .ok c := by
  refine ⟨⟨.full c⟩, fun style layout => ?_⟩
  exact parse_eq_ok_iff_describes.mpr ⟨(c.sheet layout).tree,
    Sheet.read?_text style (wellFormed_sheet c layout), describes_sheet c layout, hvalid⟩

/-- The largest numbers, characters of all kinds, an empty argument, lines and sections in an order of
their own, and one setting left out. -/
theorem parse_written_extreme :
    let c : Config :=
      { buildDir := "o\"u\\t\x00é😀"
        jobs := .fixed 18446744073709551615 (by decide)
        keepGoing := true
        checkStatus := true
        timeoutSecs := some 18446744073709551615
        configure := ⟨["cmake"]⟩
        build := ⟨["ninja", "", "-v\n"]⟩ }
    let text :=
      [ "timeout_secs = 18446744073709551615\n"
      , "check_status = true\n"
      , "build_dir = \"o\\u0022u\\u005Ct\\u0000\\u00E9\\U0001F600\"\n"
      , "jobs = 18446744073709551615\n"
      , "[build]\n"
      , "command = [\"ninja\", \"\", \"-v\\u000A\"]\n"
      , "[configure]\n"
      , "command = [\"cmake\"]\n" ].flatMap String.toList
    c.validate = .ok () ∧ parse text = .ok c := by
  intro c text
  have hvalid : c.validate = .ok () := by decide
  let layout : Layout c :=
    { lines := [.timeoutSecs, .checkStatus, .buildDir, .jobs]
      sections := [.build, .configure]
      lines_nodup := by decide
      sections_nodup := by decide
      standard_of_not_mem_lines := by
        intro i hi
        cases i with
        | keepGoing => rfl
        | _ => simp at hi
      standard_of_not_mem_sections := by
        intro step hstep
        cases step <;> simp at hstep }
  have htext : text = c.written ⟨false, fun _ => false⟩ layout := by decide +kernel
  refine ⟨hvalid, ?_⟩
  rw [htext]
  exact (parse_written hvalid).2 ⟨false, fun _ => false⟩ layout

end Config

end FreshBuild
