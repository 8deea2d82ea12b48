/-
# FreshBuild.Proofs.Json.Recovered — a report is recovered from what is printed of it.

A report in JSON says three things, and each can be read off it again: where the build directory is, to
the last byte of its path, and how either step ended. The endings that look most alike are a failure
with a code, a failure without one and a step that did not run; the first two differ in what stands
under `code`, and the third is no object at all (`Report.ofDatum?_datum`). So different reports are
printed differently (`Report.printed_means`). What cannot be printed is a path that is no text.
-/
import FreshBuild.Program
import FreshBuild.Proofs.Json.Written
import FreshBuild.Proofs.Text.Utf8

namespace FreshBuild

open Json (Datum)

variable {r : Report} {dir : List Char} {text : List Char}

/-! ## Reports as data -/

/-- The value of a member of an object. -/
def Json.Datum.member? (name : String) : Datum → Option Datum
  | .object members => members.lookup name
  | _ => none

namespace Outcome

def datum : Outcome → Datum
  | .succeeded => .object [("status", .string "succeeded")]
  | .failed (some code) => .object [("status", .string "failed"), ("code", .number code 0)]
  | .failed none => .object [("status", .string "failed"), ("code", .null)]
  | .timedOut => .object [("status", .string "timed_out")]

/-- The outcome that a value tells of. -/
def ofDatum? (v : Datum) : Option Outcome :=
  match v.member? "status" with
  | some (.string "succeeded") => some .succeeded
  | some (.string "failed") =>
    match v.member? "code" with
    | some (.number code 0) => some (.failed (some code))
    | some .null => some (.failed none)
    | _ => none
  | some (.string "timed_out") => some .timedOut
  | _ => none

theorem datum_toJson (outcome : Outcome) : outcome.toJson.datum = outcome.datum := by
  cases outcome with
  | succeeded => rfl
  | failed code => cases code <;> rfl
  | timedOut => rfl

theorem ofDatum?_datum (outcome : Outcome) : ofDatum? outcome.datum = some outcome := by
  cases outcome with
  | succeeded => rfl
  | failed code => cases code <;> rfl
  | timedOut => rfl

end Outcome

namespace Report

/-- A report about a build directory with these characters. -/
def datum (r : Report) (dir : List Char) : Datum :=
  .object
    [ ("build_dir", .string (String.ofList dir))
    , ("configure", r.configure.datum)
    , ("build", r.build.elim .null Outcome.datum) ]

/-- How the build step ended, if it ran at all. -/
def buildOfDatum? : Datum → Option (Option Outcome)
  | .null => some none
  | v => (Outcome.ofDatum? v).map some

/-- The report that a value tells of. -/
def ofDatum? (v : Datum) : Option Report :=
  match v.member? "build_dir", v.member? "configure", v.member? "build" with
  | some (.string dir), some configure, some build => do
    let configure ← Outcome.ofDatum? configure
    let build ← buildOfDatum? build
    return ⟨Path.ofString dir, configure, build⟩
  | _, _, _ => none

theorem buildOfDatum?_datum (build : Option Outcome) :
    buildOfDatum? (build.elim .null Outcome.datum) = some build := by
  cases build with
  | none => rfl
  | some outcome =>
      have hobject : ∃ members, outcome.datum = .object members := by
        cases outcome with
        | succeeded => exact ⟨_, rfl⟩
        | failed code => cases code <;> exact ⟨_, rfl⟩
        | timedOut => exact ⟨_, rfl⟩
      obtain ⟨members, hmembers⟩ := hobject
      have houtcome := outcome.ofDatum?_datum
      rw [Option.elim_some, hmembers] at *
      rw [buildOfDatum?, houtcome]
      · rfl
      · exact Datum.noConfusion

/-- **A report is recovered from its datum**, the path of the build directory byte by byte. -/
theorem ofDatum?_datum (h : r.buildDir.bytes = Utf8.encode dir) :
    ofDatum? (r.datum dir) = some r := by
  obtain ⟨⟨bytes⟩, configure, build⟩ := r
  obtain rfl : bytes = Utf8.encode dir := h
  have hdir : Path.ofString (String.ofList dir) = ⟨Utf8.encode dir⟩ := by
    rw [Path.ofString, Utf8.ofString, String.toList_ofList]
  have hmembers : (datum ⟨⟨Utf8.encode dir⟩, configure, build⟩ dir).member? "build_dir" =
        some (.string (String.ofList dir)) ∧
      (datum ⟨⟨Utf8.encode dir⟩, configure, build⟩ dir).member? "configure" =
        some configure.datum ∧
      (datum ⟨⟨Utf8.encode dir⟩, configure, build⟩ dir).member? "build" =
        some (build.elim .null Outcome.datum) := ⟨rfl, rfl, rfl⟩
  rw [ofDatum?, hmembers.1, hmembers.2.1, hmembers.2.2]
  simp only [configure.ofDatum?_datum, buildOfDatum?_datum, hdir, bind, Option.bind, pure]

/-! ## What is printed -/

/-- A text means a report: it is JSON, an object with these three members and no others, and the report
is recovered from it. -/
structure MeantBy (r : Report) (text : List Char) : Prop where
  reads : ∃ dir, r.buildDir.bytes = Utf8.encode dir ∧
    Json.Grammar.read? text = some (r.datum dir)
  recovered : (Json.Grammar.read? text).bind ofDatum? = some r

/-- A text means one report at most. -/
theorem MeantBy.unique {r' : Report} (h : r.MeantBy text) (h' : r'.MeantBy text) : r = r' :=
  Option.some.inj (h.recovered.symm.trans h'.recovered)

theorem toJson?_eq_some_iff {json : Json} :
    r.toJson? = some json ↔ ∃ dir, r.buildDir.bytes = Utf8.encode dir ∧
      .object [("build_dir", .string (String.ofList dir)), ("configure", r.configure.toJson),
        ("build", r.build.elim .null Outcome.toJson)] = json := by
  simp only [toJson?, Option.map_eq_some_iff, Utf8.decode?_eq_some_iff]

/-- The datum of a report is what its JSON means. -/
theorem datum_eq (r : Report) (dir : List Char) :
    Json.datum (.object [("build_dir", .string (String.ofList dir)),
      ("configure", r.configure.toJson), ("build", r.build.elim .null Outcome.toJson)]) =
        r.datum dir := by
  have hbuild : Json.datum (r.build.elim .null Outcome.toJson) =
      r.build.elim .null Outcome.datum := by
    cases r.build with
    | none => rfl
    | some outcome => exact outcome.datum_toJson
  simp only [Json.datum, Json.datumMembers, Outcome.datum_toJson, hbuild, datum]

theorem meantBy_pretty {json : Json} (h : r.toJson? = some json) {back : List Char}
    (hback : ∀ c ∈ back, Json.Grammar.isSpace c = true) :
    r.MeantBy ((json.pretty 0).toList ++ back) := by
  obtain ⟨dir, hdir, rfl⟩ := toJson?_eq_some_iff.mp h
  have hread := Json.read?_pretty (.object [("build_dir", .string (String.ofList dir)),
    ("configure", r.configure.toJson), ("build", r.build.elim .null Outcome.toJson)]) hback
  rw [datum_eq] at hread
  exact
    { reads := ⟨dir, hdir, hread⟩
      recovered := by rw [hread, Option.bind_some, ofDatum?_datum hdir] }

/-- **What is printed of a report means the report**, and two different ones are never printed alike.
Only a report about a path that is no text is not printed. -/
theorem printed_means :
    (∀ r : Report, r.toJson? = none ↔ ∀ dir, r.buildDir.bytes ≠ Utf8.encode dir) ∧
    (∀ (r : Report) (json : Json), r.toJson? = some json → r.MeantBy (json.pretty 0).toList) ∧
    (∀ (o : Options) (r : Report) (printed : String), o.json = true →
      o.render? r = some printed → r.MeantBy printed.toList) ∧
    ∀ (r r' : Report) (json json' : Json), r.toJson? = some json → r'.toJson? = some json' →
      json.pretty 0 = json'.pretty 0 → r = r' := by
  have hmeans : ∀ (r : Report) (json : Json), r.toJson? = some json →
      r.MeantBy (json.pretty 0).toList := by
    intro r json h
    have hnothing := @meantBy_pretty r json h [] (by simp)
    rwa [List.append_nil] at hnothing
  refine ⟨fun r => ?_, hmeans, fun o r printed hjson hprinted => ?_, ?_⟩
  · rw [toJson?, Option.map_eq_none_iff, Utf8.decode?_eq_none_iff]
  · rw [Options.render?, if_pos hjson] at hprinted
    obtain ⟨json, h, rfl⟩ := Option.map_eq_some_iff.mp hprinted
    rw [String.toList_append]
    exact meantBy_pretty h (by simp [Json.Grammar.isSpace])
  · intro r r' json json' h h' hsame
    have hr := hmeans r json h
    rw [hsame] at hr
    exact hr.unique (hmeans r' json' h')

/-- A path with a quote, a backslash, a control character and a letter beyond ASCII, a death by signal
and a step that did not run. -/
theorem printed_means_awkward :
    let r : Report := ⟨Path.ofString "a\"\\\x01é", .failed none, none⟩
    ∃ json, r.toJson? = some json ∧ r.MeantBy (json.pretty 0).toList ∧
      json.pretty 0 = "\x7b\n  \"build_dir\": \"a\\\"\\\\\\u0001é\",\n  \"configure\": \x7b\n" ++
        "    \"status\": \"failed\",\n    \"code\": null\n  \x7d,\n  \"build\": null\n\x7d" := by
  intro r
  have hdir : r.buildDir.bytes = Utf8.encode ['a', '"', '\\', '\x01', 'é'] := rfl
  have hjson := toJson?_eq_some_iff.mpr ⟨_, hdir, rfl⟩
  exact ⟨_, hjson, printed_means.2.1 r _ hjson, by decide +kernel⟩

end Report

end FreshBuild
