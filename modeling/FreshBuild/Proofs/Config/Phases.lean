/-
# FreshBuild.Proofs.Config.Phases — which fault of a configuration file is reported.

A file can be wrong in many ways at once. What is reported is the fault of the first phase that finds
one, and a phase looks at the whole file: a stray bracket in the last line comes before a misspelt key
in the first. `Phased` says when each phase has the word, in terms of the file alone. Its conditions
exclude one another and leave nothing out, so every file has exactly one kind of answer, and both
loaders give it (`load_phased`). They part only where there is no file.

The second phase has a dialect of its own. The reader takes every word that looks like an integer for a
value and leaves the number to the next phase, so `jobs = 0x`, which is no TOML, is read without
complaint and refused for its number (`phased_garbled`). And it gives up on values that nest too deep,
whatever there is inside them (`malformed_of_deep`). `LoadsAlike` has a clause for either.
-/
import FreshBuild.Proofs.Config.Source
import FreshBuild.Proofs.Disk.Operations
import FreshBuild.Proofs.Text.Utf8

namespace FreshBuild

/-- Somewhere in the value stands a word that denotes nothing. -/
inductive Toml.Value.HasGarbled : Toml.Value → Prop where
  | word (word : String) : HasGarbled (.garbled word)
  | item {items : List Toml.Value} {v : Toml.Value} (hmem : v ∈ items) (h : HasGarbled v) :
      HasGarbled (.array items)
  | field {fields : Toml.Fields} {field : String × Toml.Value} (hmem : field ∈ fields)
      (h : HasGarbled field.2) : HasGarbled (.table fields)

/-! ## Values that nest too deep -/

namespace Toml

/-- A value does not open more brackets than it may nest. -/
theorem value_brackets (depth : Nat) (s : List Char) :
    value depth (List.replicate (depth + 1) '[' ++ s) = none := by
  induction depth with
  | zero => rfl
  | succ depth ih =>
      rw [List.replicate_succ, List.cons_append]
      -- the first bracket opens a list, and the first item of it opens too many
      have hitems : ∀ fuel,
          items (value depth) ']' fuel (List.replicate (depth + 1) '[' ++ s) = none := by
        intro fuel
        cases fuel with
        | zero => rfl
        | succ fuel =>
            rw [List.replicate_succ, List.cons_append] at ih ⊢
            have hskip : skipFiller false ('[' :: (List.replicate depth '[' ++ s)) =
                '[' :: (List.replicate depth '[' ++ s) := rfl
            unfold items
            rw [hskip]
            simp only [ih]
            rfl
      unfold value
      simp only [hitems]
      rfl

/-- A text whose first value is none is no document. -/
theorem read?_of_value_none {c : Char} {t : List Char} (hc : skipBlanks (' ' :: c :: t) = c :: t)
    (hvalue : value maxDepth (c :: t) = none) : read? ("jobs = ".toList ++ c :: t) = none := by
  have hkey : key ("jobs = ".toList ++ c :: t) =
      some (⟨[], "jobs"⟩, " = ".toList ++ c :: t) := rfl
  have hsign : skipBlanks (" = ".toList ++ c :: t) = '=' :: ' ' :: c :: t := rfl
  have hassign : assignment skipBlanks (value maxDepth) ("jobs = ".toList ++ c :: t) = none := by
    unfold assignment
    simp only [hkey, hsign, hc, hvalue]
    rfl
  have hstatement : statement ("jobs = ".toList ++ c :: t) = none := by
    show (assignment skipBlanks (value maxDepth) ("jobs = ".toList ++ c :: t)).map _ = none
    rw [hassign]
    rfl
  have hstatements : ∀ fuel, statements fuel ("jobs = ".toList ++ c :: t) = none := by
    intro fuel
    cases fuel with
    | zero => rfl
    | succ fuel =>
        have hskip : skipFiller false ("jobs = ".toList ++ c :: t) =
            'j' :: ("obs = ".toList ++ c :: t) := rfl
        have htext : 'j' :: ("obs = ".toList ++ c :: t) = "jobs = ".toList ++ c :: t := rfl
        unfold statements
        simp only [hskip]
        rw [htext, hstatement]
  show (statements _ ("jobs = ".toList ++ c :: t)).bind _ = none
  rw [hstatements]
  rfl

end Toml

namespace Config

open Toml (Fields Value)

variable {path : Path} {content : Bytes} {text : List Char} {c : Config}

/-! ## Refusals -/

theorem refuses_malformed_iff : Refuses text .malformed ↔ Toml.read? text = none := by
  constructor
  · rintro ⟨hread⟩
    exact hread
  · exact .malformed

/-- A document is refused for its data exactly if it describes no configuration. -/
theorem exists_refuses_data_iff :
    (∃ problem, Refuses text (.data problem)) ↔
      ∃ fields, Toml.read? text = some fields ∧ ∀ c, ¬ Describes fields c := by
  constructor
  · rintro ⟨problem, h⟩
    cases h with
    | data hread hdecode =>
        refine ⟨_, hread, fun c hc => ?_⟩
        rw [← decode_eq_ok_iff (Toml.read?_wellFormed hread), hdecode] at hc
        cases hc
  · rintro ⟨fields, hread, hnone⟩
    cases hdecode : decode fields with
    | error problem => exact ⟨problem, .data hread hdecode⟩
    | ok c => exact absurd ((decode_eq_ok_iff (Toml.read?_wellFormed hread)).mp hdecode) (hnone c)

theorem refuses_defect_iff {defect : Defect} :
    Refuses text (.defect defect) ↔
      ∃ fields c, Toml.read? text = some fields ∧ Describes fields c ∧ c.validate = .error defect := by
  constructor
  · intro h
    cases h with
    | defect hread hdecode hvalid =>
        exact ⟨_, _, hread, (decode_eq_ok_iff (Toml.read?_wellFormed hread)).mp hdecode, hvalid⟩
  · rintro ⟨fields, c, hread, hdescribes, hvalid⟩
    exact .defect hread ((decode_eq_ok_iff (Toml.read?_wellFormed hread)).mpr hdescribes) hvalid

/-- The content of a file is refused as the text that it encodes. -/
theorem ofBytes_eq_refused_iff {refusal : Refusal} :
    ofBytes path content = .error (.refused path refusal) ↔
      ∃ text, content = Utf8.encode text ∧ Refuses text refusal := by
  simp [ofBytes_eq_error_iff, Utf8.decode?_eq_some_iff]

theorem ofBytes_encode (path : Path) (text : List Char) :
    ofBytes path (Utf8.encode text) = (parse text).mapError (.refused path) :=
  ofBytes_of_text path (Utf8.decode?_eq_some_iff.mpr rfl)

/-- **More brackets than values may nest** are no document, whatever stands between and behind them. -/
theorem malformed_of_deep {n : Nat} (hdeep : 80 < n) (s : List Char) (path : Path) :
    ofBytes path (Utf8.encode ("jobs = ".toList ++ (List.replicate n '[' ++ s))) =
      .error (.refused path .malformed) := by
  have hvalue : Toml.value Toml.maxDepth (List.replicate n '[' ++ s) = none := by
    have hdepth : Toml.maxDepth = 80 := rfl
    have hsplit : n = Toml.maxDepth + 1 + (n - (Toml.maxDepth + 1)) := by omega
    rw [hsplit, List.replicate_add, List.append_assoc]
    exact Toml.value_brackets Toml.maxDepth _
  obtain ⟨k, rfl⟩ := Nat.exists_eq_succ_of_ne_zero (Nat.ne_of_gt (Nat.zero_lt_of_lt hdeep))
  rw [List.replicate_succ, List.cons_append] at hvalue ⊢
  rw [ofBytes_encode, parse, Toml.read?_of_value_none rfl hvalue]
  rfl

/-! ## Words that denote nothing -/

/-- No setting can be read from a word that denotes nothing. -/
theorem Describes.not_garbled {fields : Fields} {key word : String} (h : Describes fields c) :
    (key, .garbled word) ∉ fields := by
  intro hmem
  have hkey := h.known _ hmem
  simp only [keys, List.mem_cons, List.not_mem_nil, or_false] at hkey
  rcases hkey with rfl | rfl | rfl | rfl | rfl | rfl | rfl
  · cases h.buildDir.present _ hmem
  · cases h.jobs.present _ hmem
  · cases h.keepGoing.present _ hmem
  · cases h.checkStatus.present _ hmem
  · cases h.timeoutSecs.present _ hmem
  · cases h.configure.present _ hmem
  · cases h.build.present _ hmem

/-- A radix without digits is read as such a word. -/
theorem read?_radix :
    ∃ fields key word, Toml.read? "jobs = 0x".toList = some fields ∧ (key, .garbled word) ∈ fields := by
  have hword : (Toml.read? "jobs = 0x".toList).map (·.any fun field =>
      match field.2 with
      | .garbled _ => true
      | _ => false) = some true := by
    decide +kernel
  obtain ⟨fields, hfields, hany⟩ := Option.map_eq_some_iff.mp hword
  obtain ⟨⟨key, v⟩, hmem, hv⟩ := List.any_eq_true.mp hany
  cases v with
  | garbled word => exact ⟨fields, key, word, hfields, hmem⟩
  | string | integer | float | boolean | moment | array | table => cases hv

/-! ## Phases -/

/-- The answer for a file's content has the kind that the phases decide, each of them for the whole
content and none before the ones in front of it. -/
structure Phased (path : Path) (content : Bytes) (answer : Except LoadError Config) : Prop where
  /-- The content is no text. -/
  unreadable_iff : (∃ cause, answer = .error (.unreadable path cause)) ↔
    ∀ text, content ≠ Utf8.encode text
  /-- The text is no document, whatever else is wrong with the part that is one. -/
  malformed_iff : answer = .error (.refused path .malformed) ↔
    ∃ text, content = Utf8.encode text ∧ Toml.read? text = none
  /-- The document describes no configuration. -/
  data_iff : (∃ problem, answer = .error (.refused path (.data problem))) ↔
    ∃ text fields, content = Utf8.encode text ∧ Toml.read? text = some fields ∧
      ∀ c, ¬ Describes fields c
  /-- The configuration cannot be run. -/
  defect_iff : ∀ defect, answer = .error (.refused path (.defect defect)) ↔
    ∃ text fields c, content = Utf8.encode text ∧ Toml.read? text = some fields ∧
      Describes fields c ∧ c.validate = .error defect
  ok_iff : ∀ c, answer = .ok c ↔
    ∃ text fields, content = Utf8.encode text ∧ Toml.read? text = some fields ∧
      Describes fields c ∧ c.validate = .ok ()

theorem ofBytes_phased (path : Path) (content : Bytes) :
    Phased path content (ofBytes path content) where
  unreadable_iff := by
    simp [ofBytes_eq_error_iff, Utf8.decode?_eq_none_iff]
  malformed_iff := by
    simp only [ofBytes_eq_refused_iff, refuses_malformed_iff]
  data_iff := by
    simp only [ofBytes_eq_refused_iff]
    rw [exists_comm]
    simp only [exists_and_left, exists_refuses_data_iff]
  defect_iff defect := by
    simp only [ofBytes_eq_refused_iff, refuses_defect_iff, exists_and_left]
  ok_iff c := by
    simp only [ofBytes_eq_ok_iff, Utf8.decode?_eq_some_iff, parse_eq_ok_iff_describes,
      exists_and_left]

/-- What the two loaders answer about the file at a path: the one that was named, which must be there,
and the one that need not be. -/
structure LoadsAlike (d : Disk) (at_ : Location) (path : Path) : Prop where
  /-- Every content that can be read has one answer, of the kind that the phases decide. -/
  content : ∀ content, d.readFile at_ path = .ok content →
    load d at_ path = loadRequired d at_ path ∧ Phased path content (load d at_ path)
  /-- More than eighty brackets are no document, whatever stands between and behind them. -/
  nested : ∀ (n : Nat) (s : List Char), 80 < n →
    d.readFile at_ path = .ok (Utf8.encode ("jobs = ".toList ++ (List.replicate n '[' ++ s))) →
      load d at_ path = .error (.refused path .malformed)
  /-- A word that looks like a number and denotes none is not found fault with in a document. As the
  value of a key it is left to the third phase. -/
  garbled : ∀ text fields key word, d.readFile at_ path = .ok (Utf8.encode text) →
    Toml.read? text = some fields → (key, .garbled word) ∈ fields →
      ∃ problem, load d at_ path = .error (.refused path (.data problem))
  /-- No file. -/
  missing : d.readFile at_ path = .error (.system .noEntry) →
    load d at_ path = .ok standard ∧
      loadRequired d at_ path = .error (.unreadable path (.system .noEntry))
  /-- A file that cannot be read. -/
  unreadable : ∀ cause, d.readFile at_ path = .error cause → cause ≠ .system .noEntry →
    load d at_ path = .error (.unreadable path cause) ∧
      loadRequired d at_ path = .error (.unreadable path cause)

theorem load_of_readFile {d : Disk} {at_ : Location} (hread : d.readFile at_ path = .ok content) :
    load d at_ path = ofBytes path content := by
  rw [load, hread]

/-- **The fault that is reported is the first phase's**, and both loaders report it: on every disk, for
every path and every content. -/
theorem load_phased (d : Disk) (at_ : Location) (path : Path) : LoadsAlike d at_ path where
  content := by
    intro content hread
    have hload : load d at_ path = ofBytes path content := load_of_readFile hread
    have hrequired : loadRequired d at_ path = ofBytes path content := by
      rw [loadRequired, hread]
    rw [hload, hrequired]
    exact ⟨rfl, ofBytes_phased path content⟩
  nested := by
    intro n s hdeep hread
    rw [load_of_readFile hread]
    exact malformed_of_deep hdeep s path
  garbled := by
    intro text fields key word hread hfields hmem
    rw [load_of_readFile hread]
    exact (ofBytes_phased path _).data_iff.mpr
      ⟨text, fields, rfl, hfields, fun c hc => hc.not_garbled hmem⟩
  missing := by
    intro hread
    rw [load, loadRequired, hread]
    exact ⟨rfl, rfl⟩
  unreadable := by
    intro cause hread hother
    have hpresent : cause.isAbsence = false := by
      rw [← Bool.not_eq_true, Cause.isAbsence_iff]
      exact hother
    rw [load, loadRequired, hread]
    simp only [hpresent, Bool.false_eq_true, if_false, and_self]

/-- A file with an unknown key, a value of the wrong type and, in its last line, a header without an
end. The end of the text decides, and the same file without its last line is refused for its data. So
is a radix without digits. -/
theorem load_phased_several :
    let dir := Utf8.ofString "p"
    let name := Utf8.ofString "c.toml"
    let faults := "bogus = 1\njobs = true\n"
    let path := Path.ofString "c.toml"
    let holding (text : String) : Disk :=
      ⟨[([dir], .directory), ([dir, name], .file (Utf8.ofString text) false)], []⟩
    load (holding (faults ++ "[build")) [dir] path = .error (.refused path .malformed) ∧
      loadRequired (holding (faults ++ "[build")) [dir] path = .error (.refused path .malformed) ∧
      (∃ problem, load (holding faults) [dir] path = .error (.refused path (.data problem))) ∧
      ∃ problem, load (holding "jobs = 0x") [dir] path = .error (.refused path (.data problem)) := by
  intro dir name faults path holding
  have hread : ∀ text, (holding text).readFile [dir] path = .ok (Utf8.ofString text) := by
    intro text
    have hnames : path.names = [] ++ [name] := by decide
    have hfollow : (holding text).follow true false Disk.maxLinks [dir] path =
        .ok (.entry [dir, name] (.file (Utf8.ofString text) false)) := by
      rw [Disk.follow_of_walk (by decide) hnames (Disk.walk_nil _ _ _)]
      rfl
    rw [Disk.readFile, Disk.inspect_of_follow (by decide) hfollow]
    rfl
  obtain ⟨hsame, hphased⟩ :=
    (load_phased (holding (faults ++ "[build")) [dir] path).content _ (hread _)
  have hmalformed := hphased.malformed_iff.mpr ⟨(faults ++ "[build").toList, rfl, by decide⟩
  obtain ⟨fields, key, word, hradix, hword⟩ := read?_radix
  refine ⟨hmalformed, hsame ▸ hmalformed, ?_, (load_phased (holding "jobs = 0x") [dir] path).garbled
    _ fields key word (hread _) hradix hword⟩
  obtain ⟨-, hphased⟩ := (load_phased (holding faults) [dir] path).content _ (hread _)
  have hkeys : (Toml.read? faults.toList).map (·.map Prod.fst) = some ["bogus", "jobs"] := by
    decide
  obtain ⟨fields, hfields, hnames⟩ := Option.map_eq_some_iff.mp hkeys
  refine hphased.data_iff.mpr ⟨faults.toList, fields, rfl, hfields, fun c hc => ?_⟩
  have hbogus : "bogus" ∈ fields.map Prod.fst := by
    rw [hnames]
    exact List.mem_cons_self
  obtain ⟨field, hmem, hkey⟩ := List.mem_map.mp hbogus
  exact absurd (hkey ▸ hc.known field hmem) (by decide)

/-- A text is a document in the strict sense: it is read, and every word in it denotes a value. -/
def IsStrictDocument (text : List Char) : Prop :=
  ∃ fields, Toml.read? text = some fields ∧ ¬ (Value.table fields).HasGarbled

/-- A radix without digits is no value. The syntax of the text is not found fault with even so, and it
is refused for its data. -/
theorem phased_garbled :
    let text := "jobs = 0x".toList
    let path := Path.ofString "rebuild.toml"
    ¬ IsStrictDocument text ∧
      ofBytes path (Utf8.encode text) = .error (.refused path (.data .integerOverflow)) ∧
      ¬ (ofBytes path (Utf8.encode text) = .error (.refused path .malformed) ↔
        ¬ IsStrictDocument text) := by
  intro text path
  have hgarbled : ¬ IsStrictDocument text := by
    rintro ⟨fields, hread, hstrict⟩
    obtain ⟨fields', key, word, hradix, hword⟩ := read?_radix
    obtain rfl := Option.some.inj (hread.symm.trans hradix)
    exact hstrict (.field hword (.word word))
  have hparse : parse text = .error (.data .integerOverflow) := by decide +kernel
  have hanswer : ofBytes path (Utf8.encode text) =
      .error (.refused path (.data .integerOverflow)) := by
    rw [ofBytes_encode, hparse]
    rfl
  refine ⟨hgarbled, hanswer, fun hiff => ?_⟩
  have hmalformed := hiff.mpr hgarbled
  rw [hanswer] at hmalformed
  cases hmalformed

end Config

end FreshBuild
