/-
# FreshBuild.Proofs.Config.Valid — which configurations can be run, by their texts.

Validation takes the name of the build directory to pieces, as a path of bytes, and asks what
components are left. The law it enforces is about the text: a name of one character or more, none of
them a slash, that is neither `.` nor `..`, and behind it a trail of slashes with one dot behind each
at most. A slash is a byte of its own in UTF-8 and no part of another character, so a text is cut
where its bytes are cut (`spellsName_encode_iff`), and the law on bytes is the law on characters.

`validate_verdict` puts the four checks together. It says which of them is reported when several fail.
-/
import FreshBuild.Config
import FreshBuild.Proofs.Path.Trail
import FreshBuild.Proofs.Text.Utf8
import Mathlib.Tactic.SplitIfs

namespace FreshBuild

/-! ## Slashes in texts -/

namespace Utf8

/-- A byte below 128 in a character is this character. -/
theorem toNat_eq_of_mem_encodeChar {c : Char} {b : UInt8} (hb : b.toNat < 128)
    (h : b ∈ String.utf8EncodeChar c) : c.toNat = b.toNat := by
  have hrange : ∀ n < 256, b = UInt8.ofNat n → b.toNat = n := by
    rintro n hn rfl
    exact toNat_ofNat_of_lt hn
  rw [encodeChar_eq] at h
  -- all bytes of a character that has more than one are above
  split_ifs at h <;> simp only [List.mem_cons, List.not_mem_nil, or_false] at h
  · exact (hrange _ (by omega) h).symm
  · rcases h with h | h <;> have := hrange _ (by omega) h <;> omega
  · rcases h with h | h | h <;> have := hrange _ (by omega) h <;> omega
  · rcases h with h | h | h | h <;> have := hrange _ (by omega) h <;> omega

/-- The bytes of a text have a slash where the text has one. -/
theorem slash_mem_encode_iff {cs : List Char} : Path.slash ∈ encode cs ↔ '/' ∈ cs := by
  rw [encode, List.mem_flatMap]
  constructor
  · rintro ⟨c, hc, hslash⟩
    have hslash : c = '/' := Char.toNat_inj.mp (toNat_eq_of_mem_encodeChar (by decide) hslash)
    exact hslash ▸ hc
  · exact fun h => ⟨'/', h, by decide⟩

end Utf8

/-! ## Spellings in characters -/

/-- A trail of bytes is a trail of characters. -/
theorem isTrail_encode_iff {cs : List Char} :
    IsTrail Path.slash Path.dot (Utf8.encode cs) ↔ IsTrail '/' '.' cs := by
  constructor
  · intro h
    obtain ⟨ds, hds, hbytes⟩ : ∃ ds, IsTrail '/' '.' ds ∧ Utf8.encode ds = Utf8.encode cs := by
      generalize Utf8.encode cs = bytes at h
      induction h with
      | nil => exact ⟨[], .nil, rfl⟩
      | slash _ ih =>
          obtain ⟨ds, hds, rfl⟩ := ih
          exact ⟨'/' :: ds, .slash hds, rfl⟩
      | slashDot _ ih =>
          obtain ⟨ds, hds, rfl⟩ := ih
          exact ⟨'/' :: '.' :: ds, .slashDot hds, rfl⟩
    exact Utf8.encode_injective hbytes ▸ hds
  · intro h
    induction h with
    | nil => exact .nil
    | slash _ ih => exact .slash ih
    | slashDot _ ih => exact .slashDot ih

/-- **A text spells a name if its bytes do.** -/
theorem spellsName_encode_iff {cs : List Char} :
    (∃ name, SpellsName Path.slash Path.dot name (Utf8.encode cs)) ↔
      ∃ name, SpellsName '/' '.' name cs := by
  constructor
  · rintro ⟨name, ⟨trail, hcut, htrail⟩, hne, hslash, hhere, hup⟩
    -- the text is cut where its bytes are
    obtain ⟨front, back, rfl, hfront, hback⟩ := exists_cut '/' cs
    have hstart : StartsAt Path.slash (Utf8.encode back) := by
      cases back with
      | nil => simp [StartsAt, Utf8.encode]
      | cons c back =>
          obtain rfl : c = '/' := hback c rfl
          exact startsAt_cons Path.slash (Utf8.encode back)
    rw [Utf8.encode_append] at hcut
    obtain ⟨rfl, rfl⟩ := cut_unique (mt Utf8.slash_mem_encode_iff.mp hfront) hstart hslash
      htrail.startsAt hcut
    refine ⟨front, ⟨back, rfl, isTrail_encode_iff.mp htrail⟩, ?_, hfront, ?_, ?_⟩
    · rintro rfl
      exact hne rfl
    · rintro rfl
      exact hhere rfl
    · rintro rfl
      exact hup rfl
  · rintro ⟨name, ⟨trail, rfl, htrail⟩, hne, hslash, hhere, hup⟩
    refine ⟨Utf8.encode name, ⟨Utf8.encode trail, Utf8.encode_append name trail,
      isTrail_encode_iff.mpr htrail⟩, ?_, mt Utf8.slash_mem_encode_iff.mp hslash, ?_, ?_⟩
    · exact fun h => hne (Utf8.encode_injective (h.trans rfl))
    · exact fun h => hhere (Utf8.encode_injective (h.trans rfl))
    · exact fun h => hup (Utf8.encode_injective (h.trans rfl))

/-! ## Configurations -/

/-- The program of a tool has a name: the command has a first element, and this has a character that
can be seen. -/
def Tool.IsNamed (tool : Tool) : Prop :=
  ∃ program args, tool.command = program :: args ∧ ∃ c ∈ program.toList, Blank.isBlank c = false

theorem Tool.isBlank_eq_false_iff {tool : Tool} : tool.isBlank = false ↔ tool.IsNamed := by
  obtain ⟨command⟩ := tool
  rw [Tool.isBlank, Blank.isBlankText, Tool.IsNamed]
  cases command with
  | nil => simp [Tool.program]
  | cons program args => simp [Tool.program]

namespace Config

theorem isSingleName_iff {text : String} :
    isSingleName text = true ↔ ∃ name, SpellsName '/' '.' name text.toList := by
  have hcomponent : isSingleName text = true ↔
      ∃ name, (Path.ofString text).components = [.normal name] := by
    unfold isSingleName
    split
    · rename_i name hname
      simp [hname]
    · rename_i hother
      simp only [Bool.false_eq_true, false_iff, not_exists]
      exact hother
  rw [hcomponent]
  simp only [Path.components_eq_normal_iff_spells]
  exact spellsName_encode_iff

variable {c : Config}

/-- A configuration that can be run. -/
structure IsRunnable (c : Config) : Prop where
  buildDir : ∃ name, SpellsName '/' '.' name c.buildDir.toList
  timeoutSecs : c.timeoutSecs ≠ some 0
  configure : c.configure.IsNamed
  build : c.build.IsNamed

/-- The message for a configuration that cannot be run. It is that of the first check that fails: those
before it are passed, whatever the ones behind it would say. -/
inductive ComplainsOf (c : Config) : String → Prop where
  | buildDir (hname : ¬ ∃ name, SpellsName '/' '.' name c.buildDir.toList) :
      ComplainsOf c ("build_dir must be a single directory name, got \x60" ++ c.buildDir ++ "\x60")
  | timeoutSecs (hname : ∃ name, SpellsName '/' '.' name c.buildDir.toList)
      (hzero : c.timeoutSecs = some 0) : ComplainsOf c "timeout_secs must be > 0"
  | configure (hname : ∃ name, SpellsName '/' '.' name c.buildDir.toList)
      (hpositive : c.timeoutSecs ≠ some 0) (hconfigure : ¬ c.configure.IsNamed) :
      ComplainsOf c "configure.command must be a non-empty array"
  | build (hname : ∃ name, SpellsName '/' '.' name c.buildDir.toList)
      (hpositive : c.timeoutSecs ≠ some 0) (hconfigure : c.configure.IsNamed)
      (hbuild : ¬ c.build.IsNamed) : ComplainsOf c "build.command must be a non-empty array"

theorem IsRunnable.not_complainsOf (h : IsRunnable c) (message : String) :
    ¬ ComplainsOf c message := by
  rintro (hname | ⟨-, hzero⟩ | ⟨-, -, hconfigure⟩ | ⟨-, -, -, hbuild⟩)
  · exact hname h.buildDir
  · exact h.timeoutSecs hzero
  · exact hconfigure h.configure
  · exact hbuild h.build

/-- There is one first check that fails. -/
theorem ComplainsOf.unique {m m' : String} (h : ComplainsOf c m) (h' : ComplainsOf c m') :
    m = m' := by
  cases h <;> cases h' <;> first | rfl | contradiction

/-- The checks of validation, in the words of the law. -/
theorem validate_judged (c : Config) : (c.validate = .ok () ∧ IsRunnable c) ∨
    ∃ defect, c.validate = .error defect ∧ ComplainsOf c defect.message := by
  unfold validate
  -- a check that is passed is a premise of all that come after it
  split_ifs with hsingle hzero hconfigure hbuild
  · refine Or.inr ⟨_, rfl, .buildDir fun hname => ?_⟩
    simp [isSingleName_iff.mpr hname] at hsingle
  all_goals
    have hname := isSingleName_iff.mp (by simpa using hsingle)
  · exact Or.inr ⟨_, rfl, .timeoutSecs hname hzero⟩
  · refine Or.inr ⟨_, rfl, .configure hname hzero fun hnamed => ?_⟩
    simp [Tool.isBlank_eq_false_iff.mpr hnamed] at hconfigure
  all_goals
    have hconfigure := Tool.isBlank_eq_false_iff.mp (by simpa using hconfigure)
  · refine Or.inr ⟨_, rfl, .build hname hzero hconfigure fun hnamed => ?_⟩
    simp [Tool.isBlank_eq_false_iff.mpr hnamed] at hbuild
  · exact Or.inl ⟨rfl, hname, hzero, hconfigure,
      Tool.isBlank_eq_false_iff.mp (by simpa using hbuild)⟩

/-- **Validation accepts the configurations that can be run**, whose build directory is the spelling of
a name, whose time limit is not zero and whose tools are named, and no others. Of the others it reports
the first check that fails, and quotes a build directory as it was written. -/
theorem validate_verdict (c : Config) : (c.validate = .ok () ↔ IsRunnable c) ∧
    ∀ message, c.validate.mapError Defect.message = .error message ↔ ComplainsOf c message := by
  rcases validate_judged c with ⟨hvalid, hrunnable⟩ | ⟨defect, hvalid, hcomplains⟩
  · rw [hvalid]
    exact ⟨iff_of_true rfl hrunnable, fun message =>
      iff_of_false (by simp [Except.mapError]) (hrunnable.not_complainsOf message)⟩
  · rw [hvalid]
    refine ⟨iff_of_false (by simp) fun hrunnable => hrunnable.not_complainsOf _ hcomplains, ?_⟩
    intro message
    constructor
    · intro h
      exact Except.error.inj h ▸ hcomplains
    · intro h
      exact congrArg Except.error (hcomplains.unique h)

/-- A name with a trail of both kinds, and a configuration with three faults. -/
theorem validate_verdict_trail :
    let plain : Config := { standard with buildDir := "out//./." }
    let faulty : Config :=
      { standard with buildDir := "out/..", timeoutSecs := some 0, build := ⟨[" "]⟩ }
    plain.validate = .ok () ∧ faulty.validate.mapError Defect.message =
      .error "build_dir must be a single directory name, got \x60out/..\x60" := by
  intro plain faulty
  constructor
  · have hname : SpellsName '/' '.' ['o', 'u', 't'] plain.buildDir.toList :=
      { trail := ⟨['/', '/', '.', '/', '.'], by decide, .slash (.slashDot (.slashDot .nil))⟩
        ne_nil := by decide
        no_slash := by decide
        ne_here := by decide
        ne_up := by decide }
    exact (validate_verdict plain).1.mpr
      { buildDir := ⟨_, hname⟩
        timeoutSecs := by decide
        configure := ⟨"cmake", [], rfl, 'c', by decide, by decide⟩
        build := ⟨"make", [], rfl, 'm', by decide, by decide⟩ }
  · have hname : ¬ ∃ name, SpellsName '/' '.' name faulty.buildDir.toList :=
      mt isSingleName_iff.mpr (by decide)
    exact ((validate_verdict faulty).2 _).mpr (.buildDir hname)

end Config

end FreshBuild
