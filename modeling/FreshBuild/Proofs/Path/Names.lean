/-
# FreshBuild.Proofs.Path.Names — what joining paths does to their names.

A file system never sees the spelling of a path, only the names a walk along it meets. So every law
about joined or absolute paths that the file operations need is a law on `Path.names`: joining
appends the names (`names_join`), the path of a location has exactly that location as its names
(`Location.names_path`), and making a path absolute only drops the names `.` and puts the current
directory in front (`names_of_absolute?`).

The validator judges by `components`. `components_eq_normal_iff` translates its verdict: one normal
component means one name followed by nothing but `.`. The two views differ by exactly those dots.
-/
import FreshBuild.Disk

namespace FreshBuild

namespace Path

/-! ## Stretches -/

theorem stretches_ne_nil (bytes : Bytes) : stretches bytes ≠ [] := by
  cases bytes with
  | nil => simp [stretches]
  | cons b rest =>
      unfold stretches
      split
      · simp
      · split <;> simp

/-- A slash separates: the stretches on both sides of it do not see each other. -/
theorem stretches_append_slash (a b : Bytes) :
    stretches (a ++ slash :: b) = stretches a ++ stretches b := by
  induction a with
  | nil => simp [stretches]
  | cons c a ih =>
      by_cases hc : c = slash
      · simp [stretches, hc, ih]
      · obtain ⟨s, more, hs⟩ := List.exists_cons_of_ne_nil (stretches_ne_nil a)
        simp [stretches, hc, ih, hs]

theorem stretches_of_no_slash {bytes : Bytes} (h : slash ∉ bytes) : stretches bytes = [bytes] := by
  induction bytes with
  | nil => rfl
  | cons b rest ih =>
      simp only [List.mem_cons, not_or] at h
      have hb : b ≠ slash := fun hb => h.1 hb.symm
      simp [stretches, hb, ih h.2]

/-- A stretch is made of the bytes that are no slash. -/
theorem mem_of_mem_stretches {bytes s : Bytes} (hs : s ∈ stretches bytes) {b : UInt8}
    (hb : b ∈ s) : b ∈ bytes ∧ b ≠ slash := by
  induction bytes generalizing s with
  | nil =>
      simp only [stretches, List.mem_singleton] at hs
      simp [hs] at hb
  | cons c rest ih =>
      obtain ⟨t, more, ht⟩ := List.exists_cons_of_ne_nil (stretches_ne_nil rest)
      by_cases hc : c = slash
      · simp only [stretches, hc, if_true, List.mem_cons] at hs
        rcases hs with rfl | hs
        · simp at hb
        · obtain ⟨hmem, hne⟩ := ih hs hb
          exact ⟨List.mem_cons_of_mem c hmem, hne⟩
      · simp only [stretches, hc, if_false, ht, List.mem_cons] at hs
        rcases hs with rfl | hs
        · rcases List.mem_cons.mp hb with rfl | hb
          · exact ⟨List.mem_cons_self, hc⟩
          · obtain ⟨hmem, hne⟩ := ih (by simp [ht]) hb
            exact ⟨List.mem_cons_of_mem c hmem, hne⟩
        · obtain ⟨hmem, hne⟩ := ih (by simp [ht, hs]) hb
          exact ⟨List.mem_cons_of_mem c hmem, hne⟩

/-- No stretch is longer than the whole. -/
theorem length_le_of_mem_stretches {bytes s : Bytes} (hs : s ∈ stretches bytes) :
    s.length ≤ bytes.length := by
  induction bytes generalizing s with
  | nil =>
      simp only [stretches, List.mem_singleton] at hs
      simp [hs]
  | cons c rest ih =>
      obtain ⟨t, more, ht⟩ := List.exists_cons_of_ne_nil (stretches_ne_nil rest)
      rw [List.length_cons]
      by_cases hc : c = slash
      · simp only [stretches, hc, if_true, List.mem_cons] at hs
        rcases hs with rfl | hs
        · exact Nat.zero_le _
        · exact Nat.le_succ_of_le (ih hs)
      · simp only [stretches, hc, if_false, ht, List.mem_cons] at hs
        rcases hs with rfl | hs
        · exact Nat.succ_le_succ (ih (by simp [ht]))
        · exact Nat.le_succ_of_le (ih (by simp [ht, hs]))

/-- Every byte but a slash is in a stretch. -/
theorem exists_stretch_of_mem {bytes : Bytes} {b : UInt8} (hb : b ∈ bytes) (hslash : b ≠ slash) :
    ∃ s ∈ stretches bytes, b ∈ s := by
  induction bytes with
  | nil => simp at hb
  | cons c rest ih =>
      obtain ⟨t, more, ht⟩ := List.exists_cons_of_ne_nil (stretches_ne_nil rest)
      by_cases hc : c = slash
      · have hrest : b ∈ rest := List.mem_of_ne_of_mem (fun h => hslash (h.trans hc)) hb
        obtain ⟨s, hs, hbs⟩ := ih hrest
        exact ⟨s, by simp [stretches, hc, hs], hbs⟩
      · rcases List.mem_cons.mp hb with rfl | hrest
        · exact ⟨b :: t, by simp [stretches, hc, ht], List.mem_cons_self⟩
        · obtain ⟨s, hs, hbs⟩ := ih hrest
          rw [ht] at hs
          rcases List.mem_cons.mp hs with rfl | hs
          · exact ⟨c :: s, by simp [stretches, hc, ht], List.mem_cons_of_mem c hbs⟩
          · exact ⟨s, by simp [stretches, hc, ht, hs], hbs⟩

/-! ## Names -/

/-- What can stand as a name in a path: something, without a slash. -/
theorem ne_nil_and_no_slash_of_mem_names {p : Path} {name : Name} (h : name ∈ p.names) :
    name ≠ [] ∧ slash ∉ name := by
  simp only [names, List.mem_filter, decide_eq_true_eq] at h
  exact ⟨h.2, fun hslash => (mem_of_mem_stretches h.1 hslash).2 rfl⟩

@[simp]
theorem names_empty : names ⟨[]⟩ = [] := rfl

theorem bytes_ne_nil_of_names {p : Path} (h : p.names ≠ []) : p.bytes ≠ [] := by
  intro hempty
  exact h (by rw [names, hempty]; rfl)

theorem names_of_no_slash {name : Name} (hne : name ≠ []) (h : slash ∉ name) :
    names ⟨name⟩ = [name] := by
  simp [names, stretches_of_no_slash h, hne]

theorem names_append_slash (a b : Bytes) : names ⟨a ++ slash :: b⟩ = names ⟨a⟩ ++ names ⟨b⟩ := by
  simp [names, stretches_append_slash]

/-- A slash at the end adds no name. -/
theorem names_append_final_slash (a : Bytes) : names ⟨a ++ [slash]⟩ = names ⟨a⟩ := by
  rw [names_append_slash, names_empty, List.append_nil]

theorem endsInSlash_iff {p : Path} : p.endsInSlash = true ↔ ∃ a, p.bytes = a ++ [slash] := by
  rw [endsInSlash, beq_iff_eq, List.getLast?_eq_some_iff]

theorem mem_bytes_of_mem_join {p q : Path} {b : UInt8} (hb : b ∈ (p.join q).bytes) :
    b ∈ p.bytes ∨ b ∈ q.bytes ∨ b = slash := by
  unfold join at hb
  split at hb
  · exact Or.inr (Or.inl hb)
  · split at hb
    · rcases List.mem_append.mp hb with hb | hb
      · exact Or.inl hb
      · exact Or.inr (Or.inl hb)
    · rcases List.mem_append.mp hb with hb | hb
      · exact Or.inl hb
      · rcases List.mem_cons.mp hb with hb | hb
        · exact Or.inr (Or.inr hb)
        · exact Or.inr (Or.inl hb)

/-- The path behind is in a join as it was spelled. -/
theorem mem_bytes_join_right (p : Path) {q : Path} {b : UInt8} (hb : b ∈ q.bytes) :
    b ∈ (p.join q).bytes := by
  unfold join
  split
  · exact hb
  · split <;> simp [hb]

/-- **Joining appends names.** Whatever slashes stand at the seam, a relative path put behind another
one is walked after it. -/
theorem names_join {p q : Path} (hq : q.isAbsolute = false) :
    (p.join q).names = p.names ++ q.names := by
  obtain ⟨a⟩ := p
  obtain ⟨b⟩ := q
  simp only [join, hq, Bool.false_eq_true, if_false]
  by_cases hempty : a = []
  · simp [hempty]
  · by_cases hslash : endsInSlash ⟨a⟩ = true
    · obtain ⟨a', ha⟩ := endsInSlash_iff.mp hslash
      simp only at ha
      rw [if_pos (by simp [hslash]), ha, List.append_assoc, List.singleton_append,
        names_append_slash, names_append_final_slash]
    · simp only [hempty, hslash, decide_false, Bool.or_self, Bool.false_eq_true, if_false]
      exact names_append_slash a b

theorem isAbsolute_iff {p : Path} : p.isAbsolute = true ↔ ∃ b, p.bytes = slash :: b := by
  rw [isAbsolute, beq_iff_eq, List.head?_eq_some_iff]

theorem bytes_ne_nil_of_isAbsolute {p : Path} (h : p.isAbsolute = true) : p.bytes ≠ [] := by
  obtain ⟨b, hb⟩ := isAbsolute_iff.mp h
  simp [hb]

/-- A path without slashes is not absolute. -/
theorem isAbsolute_of_no_slash {name : Bytes} (h : slash ∉ name) :
    isAbsolute ⟨name⟩ = false := by
  rw [Bool.eq_false_iff, ne_eq, isAbsolute_iff]
  rintro ⟨b, hb⟩
  simp only at hb
  simp [hb] at h

/-- A relative path keeps the start of the path it is joined behind. -/
theorem isAbsolute_join_relative {p q : Path} (hp : p.bytes ≠ []) (hq : q.isAbsolute = false) :
    (p.join q).isAbsolute = p.isAbsolute := by
  obtain ⟨b, a, ha⟩ := List.exists_cons_of_ne_nil hp
  rw [join, if_neg (by simp [hq])]
  split <;> simp [isAbsolute, ha]

theorem isAbsolute_join {p : Path} (hp : p.isAbsolute = true) (q : Path) :
    (p.join q).isAbsolute = true := by
  obtain ⟨b, hb⟩ := isAbsolute_iff.mp hp
  unfold join
  split
  · assumption
  · split <;> simp [isAbsolute, hb]

/-- What is put behind another path decides how the whole ends. -/
theorem endsInSlash_join {p q : Path} (hq : q.isAbsolute = false) (hne : q.bytes ≠ []) :
    (p.join q).endsInSlash = q.endsInSlash := by
  have hsome : q.bytes.getLast? = some (q.bytes.getLast hne) := List.getLast?_eq_some_getLast hne
  rw [join, if_neg (by simp [hq])]
  split
  · rw [endsInSlash, endsInSlash, List.getLast?_append, hsome, Option.some_or]
  · rw [endsInSlash, endsInSlash, List.getLast?_append, List.getLast?_cons_of_ne_nil hne, hsome,
      Option.some_or]

theorem endsInSlash_of_no_slash {name : Bytes} (h : slash ∉ name) :
    endsInSlash ⟨name⟩ = false := by
  rw [Bool.eq_false_iff, ne_eq, endsInSlash_iff]
  rintro ⟨a, ha⟩
  simp only at ha
  simp [ha] at h

/-- A path with a name behind it does not end in a slash. -/
theorem endsInSlash_join_name (p : Path) {name : Bytes} (hne : name ≠ []) (h : slash ∉ name) :
    (p.join ⟨name⟩).endsInSlash = false := by
  rw [endsInSlash_join (isAbsolute_of_no_slash h) hne]
  exact endsInSlash_of_no_slash h

/-! ## Spellings with and without slashes -/

/-- The names of a path are made of its bytes. -/
theorem mem_bytes_of_mem_names {p : Path} {name : Name} {b : UInt8} (hname : name ∈ p.names)
    (hb : b ∈ name) : b ∈ p.bytes :=
  (mem_of_mem_stretches (List.mem_filter.mp hname).1 hb).1

/-- Every byte of a path is in one of its names or a slash. -/
theorem exists_name_of_mem_bytes {p : Path} {b : UInt8} (hb : b ∈ p.bytes) (hslash : b ≠ slash) :
    ∃ name ∈ p.names, b ∈ name := by
  obtain ⟨s, hs, hbs⟩ := exists_stretch_of_mem hb hslash
  exact ⟨s, List.mem_filter.mpr ⟨hs, by simpa using List.ne_nil_of_mem hbs⟩, hbs⟩

theorem length_le_of_mem_names {p : Path} {name : Name} (hname : name ∈ p.names) :
    name.length ≤ p.bytes.length :=
  length_le_of_mem_stretches (List.mem_filter.mp hname).1

/-- Only slashes make no name. -/
theorem names_ne_nil {p : Path} {b : UInt8} (hb : b ∈ p.bytes) (hslash : b ≠ slash) :
    p.names ≠ [] := by
  obtain ⟨name, hname, -⟩ := exists_name_of_mem_bytes hb hslash
  exact List.ne_nil_of_mem hname

/-- A relative path that is not empty has a name to begin with. -/
theorem names_ne_nil_of_relative {q : Path} (hne : q.bytes ≠ []) (hrel : q.isAbsolute = false) :
    q.names ≠ [] := by
  obtain ⟨b, rest, hbytes⟩ := List.exists_cons_of_ne_nil hne
  have hb : b ≠ slash := by
    rintro rfl
    simp [isAbsolute, hbytes] at hrel
  exact names_ne_nil (hbytes ▸ List.mem_cons_self) hb

/-- A NUL in a path is a NUL in one of its names. -/
theorem nul_mem_bytes_iff {p : Path} : 0 ∈ p.bytes ↔ ∃ name ∈ p.names, 0 ∈ name := by
  constructor
  · exact fun h => exists_name_of_mem_bytes h (by decide)
  · rintro ⟨name, hname, hnul⟩
    exact mem_bytes_of_mem_names hname hnul

/-- A relative path with one name that does not end in a slash is spelled as that name. -/
theorem bytes_eq_of_names {p : Path} {name : Name} (habs : p.isAbsolute = false)
    (hend : p.endsInSlash = false) (hnames : p.names = [name]) : p.bytes = name := by
  obtain ⟨bytes⟩ := p
  by_cases hslash : slash ∈ bytes
  -- a slash would stand between two names, for it is neither the first byte nor the last
  · obtain ⟨a, b, rfl⟩ := List.append_of_mem hslash
    have ha : names ⟨a⟩ ≠ [] := by
      cases a with
      | nil => simp [isAbsolute] at habs
      | cons c a =>
          refine names_ne_nil List.mem_cons_self ?_
          rintro rfl
          simp [isAbsolute] at habs
    have hb : names ⟨b⟩ ≠ [] := by
      rcases List.eq_nil_or_concat b with rfl | ⟨b, c, rfl⟩
      · simp [endsInSlash] at hend
      · refine names_ne_nil (b := c) (by simp) ?_
        rintro rfl
        simp [endsInSlash, List.getLast?_cons] at hend
    rw [names_append_slash] at hnames
    have hlen := congrArg List.length hnames
    have ha' := List.length_pos_iff.mpr ha
    have hb' := List.length_pos_iff.mpr hb
    rw [List.length_append, List.length_singleton] at hlen
    omega
  · have hne : bytes ≠ [] := by
      rintro rfl
      simp at hnames
    rw [names_of_no_slash hne hslash] at hnames
    exact (List.cons.inj hnames).1

/-- The spelling asks for a directory: a slash or the name `.` stands at its end. A machine that looks
such a path up looks through a link at its end, whether it was asked to or not. -/
def AsksForDirectory (p : Path) : Prop :=
  p.endsInSlash = true ∨ p.names.getLast? = some here

/-! ## Paths of locations -/

theorem names_foldl_join {names : List Name} (h : ∀ name ∈ names, name ≠ [] ∧ slash ∉ name)
    (p : Path) :
    (names.foldl (fun (q : Path) name => q.join ⟨name⟩) p).names = p.names ++ names := by
  induction names generalizing p with
  | nil => simp
  | cons name rest ih =>
      obtain ⟨hne, hslash⟩ := h name (by simp)
      rw [List.foldl_cons, ih fun n hn => h n (by simp [hn]),
        names_join (isAbsolute_of_no_slash hslash), names_of_no_slash hne hslash,
        List.append_assoc, List.singleton_append]

theorem isAbsolute_foldl_join {p : Path} (hp : p.isAbsolute = true) (names : List Name) :
    (names.foldl (fun (q : Path) name => q.join ⟨name⟩) p).isAbsolute = true := by
  induction names generalizing p with
  | nil => exact hp
  | cons name rest ih => exact ih (isAbsolute_join hp ⟨name⟩)

theorem isAbsolute_root : isAbsolute ⟨[slash]⟩ = true := rfl

/-! ## Making absolute -/

theorem isAbsolute_of_startsInDoubleSlash {p : Path} (h : p.startsInDoubleSlash = true) :
    p.isAbsolute = true := by
  unfold startsInDoubleSlash at h
  split at h
  · rename_i a b rest hbytes
    simp only [Bool.and_eq_true, beq_iff_eq] at h
    rw [isAbsolute, hbytes, h.1.1, List.head?_cons, beq_self_eq_true]
  · simp at h

/-- Where the absolute form of a path starts, before its own names are put behind. -/
theorem absolute_start {p cwd : Path} (hcwd : cwd.isAbsolute = true) :
    let start : Path := if p.startsInDoubleSlash then ⟨[slash, slash]⟩
      else if p.isAbsolute then ⟨[slash]⟩ else cwd
    start.isAbsolute = true ∧ start.names = if p.isAbsolute then [] else cwd.names := by
  intro start
  by_cases hdouble : p.startsInDoubleSlash = true
  · simp only [start, hdouble, isAbsolute_of_startsInDoubleSlash hdouble, if_true]
    exact ⟨rfl, rfl⟩
  · by_cases habs : p.isAbsolute = true
    · simp only [start, hdouble, habs, if_true, Bool.false_eq_true, if_false]
      exact ⟨rfl, rfl⟩
    · simp only [start, hdouble, habs, Bool.false_eq_true, if_false, hcwd, true_and]

/-- **Making a path absolute keeps its names.** Only the names `.` go, and a relative path gets the
names of the current directory in front. -/
theorem names_of_absolute? {p cwd r : Path} (hcwd : cwd.isAbsolute = true)
    (h : p.absolute? cwd = some r) :
    r.isAbsolute = true ∧
      r.names = (if p.isAbsolute then [] else cwd.names) ++ p.names.filter (· ≠ here) := by
  unfold absolute? at h
  split at h
  · simp at h
  · obtain ⟨hstart, hnames⟩ := absolute_start (p := p) hcwd
    have hkept : ∀ name ∈ p.names.filter (· ≠ here), name ≠ [] ∧ slash ∉ name :=
      fun name hn => ne_nil_and_no_slash_of_mem_names (List.mem_filter.mp hn).1
    have hbody := names_foldl_join hkept
    have habs := isAbsolute_foldl_join hstart (p.names.filter (· ≠ here))
    simp only [Option.some.injEq] at h
    subst h
    rw [← hnames, ← hbody]
    split
    · exact ⟨isAbsolute_join habs _, by rw [names_join rfl, names_empty, List.append_nil]⟩
    · exact ⟨habs, rfl⟩

/-! ## One normal component -/

/-- **What the validator lets through.** A path has one normal component and nothing else if and only
if it is relative and its names are one that is neither `.` nor `..`, and then nothing but `.`. -/
theorem components_eq_normal_iff {p : Path} {name : Name} :
    p.components = [.normal name] ↔
      p.isAbsolute = false ∧ name ≠ here ∧ name ≠ up ∧
        ∃ k, p.names = name :: List.replicate k here := by
  unfold components
  by_cases habs : p.isAbsolute = true
  · simp [habs]
  · simp only [habs, Bool.false_eq_true, if_false, true_and]
    cases hnames : p.names with
    | nil => simp
    | cons first rest =>
        by_cases hfirst : first = here
        · simp only [hfirst, if_true, List.cons.injEq]
          constructor
          · rintro ⟨h, -⟩
            cases h
          · rintro ⟨hne, -, k, heq, -⟩
            exact absurd heq.symm hne
        -- what is left of the other names when every `.` is dropped is nothing
        · have hrest : (rest.filter (· ≠ here)).map Component.ofName = [] ↔
              ∃ k, rest = List.replicate k here := by
            rw [List.map_eq_nil_iff, List.filter_eq_nil_iff]
            constructor
            · intro h
              exact ⟨rest.length, List.eq_replicate_iff.mpr ⟨rfl, by simpa using h⟩⟩
            · rintro ⟨k, rfl⟩ a ha
              simp [List.eq_of_mem_replicate ha]
          simp only [hfirst, if_false, ne_eq, not_false_eq_true, decide_true,
            List.filter_cons_of_pos, List.map_cons, List.cons.injEq]
          simp only [ne_eq] at hrest
          rw [hrest]
          constructor
          · rintro ⟨hhead, k, rfl⟩
            unfold Component.ofName at hhead
            split at hhead
            · cases hhead
            · rename_i hup
              cases hhead
              exact ⟨hfirst, hup, k, rfl, rfl⟩
          · rintro ⟨-, hup, k, rfl, rfl⟩
            exact ⟨by simp [Component.ofName, hup], k, rfl⟩

/-- Without a slash there is no room for a `.` behind the name. -/
theorem names_of_component {q : Path} {name : Name} (hq : q.components = [.normal name])
    (hslash : slash ∉ q.bytes) : q.names = [name] := by
  obtain ⟨-, -, -, k, hnames⟩ := components_eq_normal_iff.mp hq
  have hone := names_of_no_slash (bytes_ne_nil_of_names (p := q) (by simp [hnames])) hslash
  rw [hnames] at hone ⊢
  rw [(List.cons.inj hone).2]

/-- Among the spellings of one normal component those with a slash ask for a directory. -/
theorem asksForDirectory_iff {q : Path} {name : Name} (hq : q.components = [.normal name]) :
    q.AsksForDirectory ↔ slash ∈ q.bytes := by
  obtain ⟨hrel, hhere, -, k, hnames⟩ := components_eq_normal_iff.mp hq
  have hname : slash ∉ name := (ne_nil_and_no_slash_of_mem_names (p := q) (by simp [hnames])).2
  constructor
  · rintro (hend | hlast)
    · obtain ⟨a, ha⟩ := endsInSlash_iff.mp hend
      simp [ha]
    · by_cases hslash : slash ∈ q.bytes
      · exact hslash
      · rw [names_of_component hq hslash] at hlast
        exact absurd (Option.some.inj hlast) hhere
  · intro hslash
    cases k with
    | zero =>
        cases hend : q.endsInSlash with
        | true => exact Or.inl hend
        | false =>
            rw [bytes_eq_of_names hrel hend hnames] at hslash
            exact absurd hslash hname
    | succ k =>
        refine Or.inr ?_
        rw [hnames, List.replicate_succ', ← List.cons_append, List.getLast?_concat]

/-- A path that is joined behind another one keeps its own end. -/
theorem asksForDirectory_join (p : Path) {q : Path} (hrel : q.isAbsolute = false)
    (hnames : q.names ≠ []) : (p.join q).AsksForDirectory ↔ q.AsksForDirectory := by
  have hne : q.bytes ≠ [] := bytes_ne_nil_of_names hnames
  have hlast : (p.names ++ q.names).getLast? = q.names.getLast? := by
    rw [List.getLast?_append, List.getLast?_eq_some_getLast hnames, Option.some_or]
  rw [AsksForDirectory, AsksForDirectory, endsInSlash_join hrel hne, names_join hrel, hlast]

end Path

/-! ## Locations as paths -/

/-- The path of a location is absolute. -/
theorem Location.isAbsolute_path (at_ : Location) : (Location.path at_).isAbsolute = true :=
  Path.isAbsolute_foldl_join Path.isAbsolute_root at_

/-- Walking the path of a location meets the names of the location. -/
theorem Location.names_path {at_ : Location} (h : ∀ name ∈ at_, name ≠ [] ∧ Path.slash ∉ name) :
    (Location.path at_).names = at_ := by
  rw [Location.path, Path.names_foldl_join h]
  rfl

end FreshBuild
