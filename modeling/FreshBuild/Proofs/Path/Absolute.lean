/-
# FreshBuild.Proofs.Path.Absolute — the normal form that making a path absolute gives it.

To make a path absolute is to walk along its names and to write them down again. What is written has a
form that three things decide (`spell`): whether two slashes stand at its front or one, the names, and
whether a slash stands at its end. `absolute?_eq` says which three these are for a given path and
current directory.

Everything else follows from the form. The three things can be read off it again, so making the result
absolute once more gives the result (`absolute?_spell`), and between names that are not empty no slash
is doubled. A path without names is the exception all through: it is nothing but slashes, and its last
slash is its first.
-/
import FreshBuild.Proofs.BuildDir.Child
import FreshBuild.Proofs.Path.Trail
import Mathlib.Data.List.Chain

namespace FreshBuild

namespace Path

/-! ## The form -/

/-- Names that can be written between slashes and read again. -/
def AreWritable (names : List Name) : Prop := ∀ name ∈ names, name ≠ [] ∧ slash ∉ name

/-- An absolute path in its normal form: one slash in front of each name, one more at the front if
`double`, and one at the end if `final`. Where there is no name, the end is the front. -/
def spell (double : Bool) (names : List Name) (final : Bool) : Path :=
  ⟨(if double then [slash] else []) ++
    (names.flatMap (slash :: ·) ++ if final || names.isEmpty then [slash] else [])⟩

variable {double final : Bool} {name : Name} {names : List Name}

theorem areWritable_names (p : Path) : AreWritable p.names :=
  fun _ hname => ne_nil_and_no_slash_of_mem_names hname

theorem AreWritable.tail (h : AreWritable (name :: names)) : AreWritable names :=
  fun n hn => h n (List.mem_cons_of_mem name hn)

theorem AreWritable.append {names' : List Name} (h : AreWritable names)
    (h' : AreWritable names') : AreWritable (names ++ names') := by
  intro name hname
  rcases List.mem_append.mp hname with hname | hname
  · exact h name hname
  · exact h' name hname

theorem AreWritable.filter (h : AreWritable names) (keep : Name → Bool) :
    AreWritable (names.filter keep) :=
  fun name hname => h name (List.mem_filter.mp hname).1

/-- Names behind a path that does not end in a slash. -/
theorem bytes_foldl_join (hnames : AreWritable names) {q : Path} (hne : q.bytes ≠ [])
    (hend : q.endsInSlash = false) :
    (names.foldl (fun (q : Path) name => q.join ⟨name⟩) q).bytes =
      q.bytes ++ names.flatMap (slash :: ·) := by
  induction names generalizing q with
  | nil => simp
  | cons name rest ih =>
      obtain ⟨hname, hslash⟩ := hnames name List.mem_cons_self
      have hrel : isAbsolute ⟨name⟩ = false := isAbsolute_of_no_slash hslash
      have hjoin : (q.join ⟨name⟩).bytes = q.bytes ++ slash :: name := by
        rw [join, if_neg (by simp [hrel]), if_neg (by simp [hne, hend])]
      have hend' : (q.join ⟨name⟩).endsInSlash = false := q.endsInSlash_join_name hname hslash
      rw [List.foldl_cons, ih hnames.tail (by simp [hjoin]) hend', hjoin, List.flatMap_cons,
        List.append_assoc]

/-- Names behind the slashes at the front. -/
theorem foldl_join_front (hnames : AreWritable names) (double : Bool) :
    names.foldl (fun (q : Path) name => q.join ⟨name⟩)
      ⟨(if double then [slash] else []) ++ [slash]⟩ = spell double names false := by
  cases names with
  | nil => rfl
  | cons name rest =>
      obtain ⟨hname, hslash⟩ := hnames name List.mem_cons_self
      have hrel : isAbsolute ⟨name⟩ = false := isAbsolute_of_no_slash hslash
      have hjoin : join ⟨(if double then [slash] else []) ++ [slash]⟩ ⟨name⟩ =
          ⟨(if double then [slash] else []) ++ slash :: name⟩ := by
        rw [join, if_neg (by simp [hrel]), if_pos (by simp [endsInSlash])]
        simp
      have hend : endsInSlash ⟨(if double then [slash] else []) ++ slash :: name⟩ = false := by
        rw [← hjoin]
        exact endsInSlash_join_name _ hname hslash
      rw [List.foldl_cons, hjoin]
      refine congrArg Path.mk ((bytes_foldl_join hnames.tail (by simp) hend).trans ?_)
      simp

/-! ## What the form shows -/

theorem isAbsolute_spell (double : Bool) (names : List Name) (final : Bool) :
    (spell double names final).isAbsolute = true := by
  cases double <;> cases names <;> simp [spell, isAbsolute]

theorem endsInSlash_spell (hnames : AreWritable names) :
    (spell double names final).endsInSlash = (final || names.isEmpty) := by
  cases hend : final || names.isEmpty with
  | true =>
      rw [endsInSlash_iff]
      exact ⟨(if double then [slash] else []) ++ names.flatMap (slash :: ·), by simp [spell, hend]⟩
  | false =>
      obtain ⟨rfl, hfilled⟩ := Bool.or_eq_false_iff.mp hend
      rcases List.eq_nil_or_concat names with rfl | ⟨front, last, rfl⟩
      · cases hfilled
      · -- the form ends as its last name does
        rw [List.concat_eq_append] at hnames ⊢
        obtain ⟨hne, hslash⟩ := hnames last (by simp)
        rw [← foldl_join_front hnames, List.foldl_append, List.foldl_cons, List.foldl_nil]
        exact endsInSlash_join_name _ hne hslash

/-- A slash at the end is one more join with nothing. -/
theorem spell_join_empty (hnames : AreWritable names) :
    (spell double names false).join ⟨[]⟩ = spell double names true := by
  have hend : (spell double names false).endsInSlash = (false || names.isEmpty) :=
    endsInSlash_spell hnames
  rw [join, if_neg (by decide), hend]
  cases names with
  | nil => simp [spell]
  | cons name rest => simp [spell]

theorem names_spell (hnames : AreWritable names) : (spell double names final).names = names := by
  have hfront : Path.names ⟨(if double then [slash] else []) ++ [slash]⟩ = [] := by
    cases double <;> rfl
  have hplain : (spell double names false).names = names := by
    rw [← foldl_join_front hnames, names_foldl_join hnames, hfront, List.nil_append]
  cases final with
  | false => exact hplain
  | true => rw [← spell_join_empty hnames, names_join rfl, hplain, names_empty, List.append_nil]

theorem startsInDoubleSlash_spell (hnames : AreWritable names) :
    (spell double names final).startsInDoubleSlash = double := by
  cases names with
  | nil => cases double <;> cases final <;> rfl
  | cons name rest =>
      obtain ⟨hne, hslash⟩ := hnames name List.mem_cons_self
      obtain ⟨b, name, rfl⟩ := List.exists_cons_of_ne_nil hne
      have hb : b ≠ slash := fun hb => hslash (hb ▸ List.mem_cons_self)
      cases double <;> simp [spell, startsInDoubleSlash, hb]

/-- No slash stands right behind another one. -/
def HasSingleSlashes (bytes : Bytes) : Prop :=
  ∀ front back, bytes ≠ front ++ slash :: slash :: back

theorem HasSingleSlashes.of_isChain {bytes : Bytes}
    (h : bytes.IsChain fun a b => a = slash → b ≠ slash) : HasSingleSlashes bytes := by
  rintro front back rfl
  obtain ⟨-, hslashes, -⟩ := List.isChain_append.mp h
  exact (List.isChain_cons_cons.mp hslashes).1 rfl rfl

theorem isChain_cons_of_no_slash (b : UInt8) {bytes : Bytes} (h : slash ∉ bytes) :
    (b :: bytes).IsChain fun a b => a = slash → b ≠ slash := by
  induction bytes generalizing b with
  | nil => exact .singleton b
  | cons c bytes ih =>
      rw [List.mem_cons, not_or] at h
      exact List.isChain_cons_cons.mpr ⟨fun _ => Ne.symm h.1, ih c h.2⟩

/-- Between two slashes stands a name. -/
theorem isChain_flatMap (hnames : AreWritable names) {back : Bytes}
    (hback : back.IsChain fun a b => a = slash → b ≠ slash) :
    (names.flatMap (slash :: ·) ++ back).IsChain fun a b => a = slash → b ≠ slash := by
  induction names with
  | nil => exact hback
  | cons name rest ih =>
      obtain ⟨hne, hslash⟩ := hnames name List.mem_cons_self
      rw [List.flatMap_cons, List.append_assoc, List.isChain_append]
      refine ⟨isChain_cons_of_no_slash slash hslash, ih hnames.tail, ?_⟩
      intro a ha b _ heq
      rw [List.getLast?_cons_of_ne_nil hne] at ha
      exact absurd (List.mem_of_mem_getLast? ha) (heq ▸ hslash)

/-- Slashes in the form are single, but for the two at its front. -/
theorem bytes_spell (hnames : AreWritable names) (double final : Bool) :
    ∃ rest, (spell double names final).bytes = (if double then [slash] else []) ++ slash :: rest ∧
      HasSingleSlashes (slash :: rest) := by
  have hback : (if final || names.isEmpty then [slash] else []).IsChain
      fun a b => a = slash → b ≠ slash := by
    split
    · exact .singleton slash
    · exact .nil
  have hchain := isChain_flatMap hnames hback
  -- what stands behind a second slash in front is the form with one
  obtain ⟨rest, hrest⟩ := isAbsolute_iff.mp (isAbsolute_spell false names final)
  refine ⟨rest, ?_, .of_isChain ?_⟩
  · rw [← hrest]
    rfl
  · rw [← hrest]
    exact hchain

/-! ## The form of an absolute path -/

/-- Names of a normalised path: they can be written, and none of them is a `.`. -/
structure AreNormal (names : List Name) : Prop where
  writable : AreWritable names
  no_here : here ∉ names

theorem AreNormal.filter_eq (h : AreNormal names) : names.filter (· ≠ here) = names := by
  rw [List.filter_eq_self]
  intro name hname
  simpa using fun heq : name = here => h.no_here (heq ▸ hname)

/-- The names that the absolute form of a path has. -/
def absoluteNames (p : Path) (at_ : Location) : List Name :=
  (if p.isAbsolute then [] else at_) ++ p.names.filter (· ≠ here)

variable {p : Path} {at_ : Location}

theorem areNormal_absoluteNames (hat : p.isAbsolute = false → AreNormal at_) :
    AreNormal (p.absoluteNames at_) := by
  have hkept : AreNormal (p.names.filter (· ≠ here)) :=
    ⟨p.areWritable_names.filter _, by simp⟩
  unfold absoluteNames
  cases habs : p.isAbsolute with
  | true => exact hkept
  | false =>
      refine ⟨(hat habs).writable.append hkept.writable, fun hmem => ?_⟩
      rcases List.mem_append.mp hmem with hmem | hmem
      · exact (hat habs).no_here hmem
      · exact hkept.no_here hmem

/-- **The absolute form of a path is a spelling of its names**, and keeps two things of how the path
itself was spelled: two slashes in front and a slash at the end. -/
theorem absolute?_eq (hp : p.bytes ≠ []) (hat : p.isAbsolute = false → AreNormal at_) :
    p.absolute? (Location.path at_) =
      some (spell p.startsInDoubleSlash (p.absoluteNames at_) p.endsInSlash) := by
  have hnames := (areNormal_absoluteNames hat).writable
  -- the current directory is itself written name by name, so both kinds of path start at a front
  have hstart : (if p.startsInDoubleSlash then ⟨[slash, slash]⟩
      else if p.isAbsolute then ⟨[slash]⟩ else Location.path at_ : Path) =
      (if p.isAbsolute then [] else at_).foldl (fun (q : Path) name => q.join ⟨name⟩)
        ⟨(if p.startsInDoubleSlash then [slash] else []) ++ [slash]⟩ := by
    cases hdouble : p.startsInDoubleSlash with
    | true => simp [isAbsolute_of_startsInDoubleSlash hdouble]
    | false =>
        cases p.isAbsolute with
        | true => rfl
        | false => rfl
  have hbody : (p.names.filter (· ≠ here)).foldl (fun (q : Path) name => q.join ⟨name⟩)
      (if p.startsInDoubleSlash then ⟨[slash, slash]⟩
        else if p.isAbsolute then ⟨[slash]⟩ else Location.path at_) =
      spell p.startsInDoubleSlash (p.absoluteNames at_) false := by
    rw [hstart, ← List.foldl_append]
    exact foldl_join_front hnames _
  unfold absolute?
  rw [if_neg hp]
  simp only [hbody]
  cases p.endsInSlash with
  | true => rw [if_pos rfl, spell_join_empty hnames]
  | false => rw [if_neg (by decide)]

/-- **The form is its own absolute form**, wherever the current directory is. -/
theorem absolute?_spell (hnames : AreNormal names) (at_ : Location) :
    (spell double names final).absolute? (Location.path at_) = some (spell double names final) := by
  have habs : (spell double names final).isAbsolute = true := isAbsolute_spell double names final
  have hkept : (spell double names final).absoluteNames at_ = names := by
    rw [absoluteNames, if_pos habs, names_spell hnames.writable, List.nil_append,
      hnames.filter_eq]
  rw [absolute?_eq (bytes_ne_nil_of_isAbsolute habs) (by simp [habs]), hkept,
    startsInDoubleSlash_spell hnames.writable, endsInSlash_spell hnames.writable]
  -- without names the slash at the front is the one at the end
  cases names <;> simp [spell]

/-! ## Components -/

theorem components_spell (hnames : AreNormal names) :
    (spell double names final).components = .root :: names.map Component.ofName := by
  rw [components_of_isAbsolute (isAbsolute_spell double names final),
    names_spell hnames.writable, hnames.filter_eq]

/-- The components of a relative path behind a `.` in front are those of its names that are kept. -/
theorem components_dropWhile (hrel : p.isAbsolute = false) :
    p.components.dropWhile (· = .here) = (p.names.filter (· ≠ here)).map Component.ofName := by
  have hkept : ∀ names : List Name, (names.map Component.ofName).dropWhile (· = .here) =
      names.map Component.ofName := by
    intro names
    cases names with
    | nil => rfl
    | cons name rest =>
        refine List.dropWhile_cons_of_neg ?_
        unfold Component.ofName
        split <;> simp
  unfold components
  rw [if_neg (by simp [hrel])]
  cases p.names with
  | nil => rfl
  | cons first rest =>
      by_cases hfirst : first = here
      · simp only [hfirst, if_true]
        rw [List.dropWhile_cons_of_pos (by simp), hkept, List.filter_cons_of_neg (by simp)]
      · simp only [hfirst, if_false]
        rw [hkept]

/-- Exactly two slashes stand at the front of the path. -/
def LeadsWithTwo (p : Path) : Prop :=
  ∃ rest, p.bytes = slash :: slash :: rest ∧ rest.head? ≠ some slash

theorem startsInDoubleSlash_iff : p.startsInDoubleSlash = true ↔ p.LeadsWithTwo := by
  unfold startsInDoubleSlash LeadsWithTwo
  split
  · rename_i a b rest hbytes
    simp [hbytes, and_assoc]
  · rename_i hother
    simp only [Bool.false_eq_true, false_iff]
    rintro ⟨rest, hrest, -⟩
    exact hother slash slash rest hrest

/-- `r` is the absolute form of `p`, seen from the directory with the path `cwd`. -/
structure IsAbsoluteForm (p cwd r : Path) : Prop where
  absolute : r.isAbsolute = true
  components_of_absolute : p.isAbsolute = true → r.components = p.components
  /-- A `.` in front of a relative path is no component of its absolute form. One of `..` is kept where
  it stands. -/
  components_of_relative : p.isAbsolute = false →
    r.components = cwd.components ++ p.components.dropWhile (· = .here)
  no_here : here ∉ r.names
  doubled : p.LeadsWithTwo →
    ∃ rest, r.bytes = slash :: slash :: rest ∧ HasSingleSlashes (slash :: rest)
  single : ¬ p.LeadsWithTwo → HasSingleSlashes r.bytes
  final : (∃ b ∈ r.bytes, b ≠ slash) → r.endsInSlash = p.endsInSlash

/-- The form has everything that an absolute form should have. -/
theorem isAbsoluteForm_spell (hat : AreNormal at_) (p : Path) :
    p.IsAbsoluteForm (Location.path at_)
      (spell p.startsInDoubleSlash (p.absoluteNames at_) p.endsInSlash) := by
  have hnames : AreNormal (p.absoluteNames at_) := areNormal_absoluteNames fun _ => hat
  obtain ⟨rest, hbytes, hsingle⟩ :=
    bytes_spell hnames.writable p.startsInDoubleSlash p.endsInSlash
  exact
    { absolute := isAbsolute_spell _ _ _
      components_of_absolute := by
        intro habs
        rw [components_spell hnames, components_of_isAbsolute habs, absoluteNames, if_pos habs,
          List.nil_append]
      components_of_relative := by
        intro hrel
        have hcwd : Location.path at_ = spell false at_ false :=
          foldl_join_front hat.writable false
        rw [components_spell hnames, hcwd, components_spell hat, components_dropWhile hrel,
          absoluteNames, if_neg (by simp [hrel]), List.map_append, List.cons_append]
      no_here := by
        rw [names_spell hnames.writable]
        exact hnames.no_here
      doubled := by
        intro htwo
        rw [startsInDoubleSlash_iff.mpr htwo] at hbytes ⊢
        exact ⟨rest, hbytes, hsingle⟩
      single := by
        intro htwo
        rw [Bool.eq_false_iff.mpr (mt startsInDoubleSlash_iff.mp htwo)] at hbytes ⊢
        rw [hbytes]
        exact hsingle
      final := by
        rintro ⟨b, hb, hslash⟩
        have hfilled := names_ne_nil hb hslash
        rw [names_spell hnames.writable] at hfilled
        rw [endsInSlash_spell hnames.writable]
        simp [hfilled] }

end Path

/-! ## Roots -/

theorem resolveRoot_empty {p : Path} (hp : p.bytes = []) (d : Disk) (at_ : Location) :
    resolveRoot d at_ p = .error (.filesystem "resolve" p .emptyPath) := by
  unfold resolveRoot Path.absolute?
  rw [if_pos hp]

/-- A root that can be made absolute becomes a spelling. -/
theorem resolveRoot_eq {d : Disk} {at_ : Location} {p : Path} (hp : p.bytes ≠ [])
    (hat : p.isAbsolute = false → Path.AreNormal at_ ∧ d.hasDirectory at_ = true) :
    resolveRoot d at_ p =
      .ok (Path.spell p.startsInDoubleSlash (p.absoluteNames at_) p.endsInSlash) := by
  unfold resolveRoot
  rw [Path.absolute?_eq hp fun hrel => (hat hrel).1]
  refine if_pos ?_
  cases habs : p.isAbsolute with
  | true => rfl
  | false => exact (hat habs).2

/-- **A root is made absolute in its normal form.** From every current directory, every root has an
absolute form but the empty one, which is refused. The form is absolute and keeps the root's
components; it has no `.` and no doubled slash, up to the two that a root can have in front, and it
ends as the root does. Once made absolute, a root stays as it is, wherever that is done again. -/
theorem resolveRoot_normal {d : Disk} {at_ : Location} (hat : d.hasDirectory at_ = true)
    (hnormal : Path.AreNormal at_) (p : Path) :
    ((∃ fault, resolveRoot d at_ p = .error fault) ↔ p.bytes = []) ∧
    (∀ fault, resolveRoot d at_ p = .error fault →
      fault.isFilesystem = true ∧ fault.exitCode = 4) ∧
    (p.bytes ≠ [] → ∃ r, resolveRoot d at_ p = .ok r ∧ p.IsAbsoluteForm (Location.path at_) r ∧
      ∀ d' at', resolveRoot d' at' r = .ok r) := by
  by_cases hp : p.bytes = []
  · rw [resolveRoot_empty hp]
    refine ⟨iff_of_true ⟨_, rfl⟩ hp, fun fault h => ?_, fun hne => absurd hp hne⟩
    obtain rfl := Except.error.inj h
    exact ⟨rfl, rfl⟩
  · rw [resolveRoot_eq hp fun _ => ⟨hnormal, hat⟩]
    refine ⟨iff_of_false (by simp) hp, fun fault h => ?_, fun _ => ⟨_, rfl, ?_, fun d' at' => ?_⟩⟩
    · cases h
    · exact Path.isAbsoluteForm_spell hnormal p
    · have hnames : Path.AreNormal (p.absoluteNames at_) :=
        Path.areNormal_absoluteNames fun _ => hnormal
      have habs := Path.isAbsolute_spell p.startsInDoubleSlash (p.absoluteNames at_) p.endsInSlash
      unfold resolveRoot
      rw [Path.absolute?_spell hnames at', habs]
      rfl

/-- A relative root with a `.` in front, doubled slashes, a `..` and a slash at its end, and an
absolute one with two slashes in front. -/
theorem resolveRoot_normal_dotted :
    let d : Disk := ⟨[([Utf8.ofString "a"], .directory)], []⟩
    let at_ : Location := [Utf8.ofString "a"]
    d.hasDirectory at_ = true ∧ Path.AreNormal at_ ∧
      resolveRoot d at_ (Path.ofString ".//b/./..//") = .ok (Path.ofString "/a/b/../") ∧
      (∀ d' at', resolveRoot d' at' (Path.ofString "/a/b/../") = .ok (Path.ofString "/a/b/../")) ∧
      (Path.ofString "//b///.").IsAbsoluteForm (Location.path at_) (Path.ofString "//b") := by
  intro d at_
  have hat : d.hasDirectory at_ = true := by decide
  have hnormal : Path.AreNormal at_ := by
    constructor
    · unfold Path.AreWritable
      decide
    · decide
  have hrelative : resolveRoot d at_ (Path.ofString ".//b/./..//") =
      .ok (Path.ofString "/a/b/../") := by decide
  have hdouble : resolveRoot d at_ (Path.ofString "//b///.") = .ok (Path.ofString "//b") := by
    decide
  obtain ⟨-, -, hform⟩ := resolveRoot_normal hat hnormal (Path.ofString ".//b/./..//")
  obtain ⟨-, -, hform'⟩ := resolveRoot_normal hat hnormal (Path.ofString "//b///.")
  obtain ⟨r, hr, -, hagain⟩ := hform (by decide)
  obtain ⟨r', hr', habsolute, -⟩ := hform' (by decide)
  obtain rfl := Except.ok.inj (hrelative.symm.trans hr)
  obtain rfl := Except.ok.inj (hdouble.symm.trans hr')
  exact ⟨hat, hnormal, hrelative, hagain, habsolute⟩

end FreshBuild
