/-
# FreshBuild.Proofs.Toml.Facts — what a document says, whichever way it is written.

The same table can be written as a section, with dotted keys or between braces, and its pairs in any
order. A document is a list of pairs, whichever way is taken: every statement puts a value at the end
of a path (`pairs`; a header puts an empty table there). What the pairs say is a set of facts about
paths, that they lead to a table or to a certain other value (`Value.Says`, `Along`), and neither the
order of the pairs nor their cut into statements is seen in this set.

The tree of a document says what its pairs say (`says_iff_of_statements`), since entering a statement
adds the facts of its pair and takes none away (`Adds`, one law an operation). And trees that say the
same are alike (`Value.alike_of_facts`). So documents that say the same have alike trees. Arrays of
tables are left out here: it depends on the order of the headers which element a pair belongs to.
-/
import FreshBuild.Proofs.Toml.Alike
import FreshBuild.Proofs.Toml.Sheet

namespace FreshBuild.Toml

/-! ## Facts of a tree -/

/-- What is said of a path: that it leads to a table, or to a value that is none. -/
inductive Fact where
  | table
  | leaf (v : Value)

/-- What a value says of the paths into it. -/
inductive Value.Says : Value → List String → Fact → Prop where
  | table (fields : Fields) : Says (.table fields) [] .table
  | leaf {v : Value} (h : ∀ fields, v ≠ .table fields) : Says v [] (.leaf v)
  | field {fields : Fields} {key : String} {v : Value} {path : List String} {fact : Fact}
      (hmem : (key, v) ∈ fields) (h : Says v path fact) : Says (.table fields) (key :: path) fact

variable {v w : Value} {fs gs : Fields} {key : String} {path below : List String} {fact : Fact}

theorem Value.says_field_iff :
    (Value.table fs).Says (key :: path) fact ↔ ∃ v, (key, v) ∈ fs ∧ v.Says path fact := by
  constructor
  · intro h
    cases h with
    | field hmem h => exact ⟨_, hmem, h⟩
  · rintro ⟨v, hmem, h⟩
    exact .field hmem h

theorem Value.says_root_iff : (Value.table fs).Says [] fact ↔ fact = .table := by
  constructor
  · intro h
    cases h with
    | table => rfl
    | leaf h => exact absurd rfl (h fs)
  · rintro rfl
    exact .table fs

/-- An empty table says that it is one, and nothing else. -/
theorem Value.says_nil_iff : (Value.table []).Says path fact ↔ path = [] ∧ fact = .table := by
  cases path with
  | nil => simp [says_root_iff]
  | cons key path => simp [says_field_iff]

theorem Value.says_of_nil (fs : Fields) (h : (Value.table []).Says path fact) :
    (Value.table fs).Says path fact := by
  obtain ⟨rfl, rfl⟩ := says_nil_iff.mp h
  exact .table fs

/-- Every value says something of the path to itself. -/
theorem Value.exists_fact (v : Value) : ∃ fact, v.Says [] fact := by
  cases v with
  | table fields => exact ⟨.table, .table fields⟩
  | _ => exact ⟨_, .leaf fun _ => nofun⟩

/-- A tree without tables is known from what it says of the path to itself. -/
theorem Value.eq_of_says_leaf (h : v.Says [] (.leaf w)) : v = w := by
  cases h with
  | leaf => rfl

/-- Where keys do not repeat, a table says of the paths below a key what the value there says. -/
theorem Value.says_below_iff (hfs : (Value.table fs).WellFormed) (hmem : (key, v) ∈ fs) :
    (Value.table fs).Says (key :: path) fact ↔ v.Says path fact := by
  rw [says_field_iff]
  constructor
  · rintro ⟨w, hw, h⟩
    rwa [eq_of_distinct hfs.distinct hmem hw]
  · exact fun h => ⟨v, hmem, h⟩

theorem Value.mem_keys_iff :
    key ∈ fs.map Prod.fst ↔ ∃ fact, (Value.table fs).Says [key] fact := by
  constructor
  · intro hkey
    obtain ⟨⟨_, v⟩, hmem, rfl⟩ := List.mem_map.mp hkey
    obtain ⟨fact, h⟩ := v.exists_fact
    exact ⟨fact, .field hmem h⟩
  · rintro ⟨fact, h⟩
    obtain ⟨v, hmem, -⟩ := says_field_iff.mp h
    exact List.mem_map_of_mem hmem

/-- **Trees that say the same are alike.** -/
theorem Value.alike_of_facts (hv : v.WellFormed) (hw : w.WellFormed)
    (h : ∀ path fact, v.Says path fact ↔ w.Says path fact) : v.Alike w := by
  induction hv generalizing w with
  | @table fs distinct all ih =>
      have hroot : w.Says [] .table := (h [] .table).mp (.table fs)
      cases hroot with
      | table gs =>
          have hfs : (Value.table fs).WellFormed := .table distinct all
          -- a key is there if anything is said of the path to it
          refine .table (fun key => ?_) fun key v w hv hw' => ?_
          · rw [mem_keys_iff, mem_keys_iff]
            exact exists_congr fun fact => h [key] fact
          · refine ih (key, v) hv (hw.field hw') fun path fact => ?_
            rw [← says_below_iff hfs hv, ← says_below_iff hw hw']
            exact h (key :: path) fact
  | _ =>
      -- a value that is no table is said itself
      have hleaf := (h [] _).mp (.leaf fun _ => nofun)
      rw [eq_of_says_leaf hleaf] at hw ⊢
      exact hw.alike

/-! ## Facts along a path -/

/-- On the way along a path there are tables, and from its end on it is said what `F` says. -/
inductive Along (F : List String → Fact → Prop) : List String → List String → Fact → Prop where
  | table (key : String) (path : List String) : Along F (key :: path) [] .table
  | step (key : String) {path below : List String} {fact : Fact} (h : Along F path below fact) :
      Along F (key :: path) (key :: below) fact
  | stop {below : List String} {fact : Fact} (h : F below fact) : Along F [] below fact

section Along

variable {F G : List String → Fact → Prop} {path' : List String}

theorem along_nil_iff : Along F [] below fact ↔ F below fact := by
  constructor
  · intro h
    cases h with
    | stop h => exact h
  · exact .stop

theorem along_cons_iff : Along F (key :: path) below fact ↔
    below = [] ∧ fact = .table ∨ ∃ rest, below = key :: rest ∧ Along F path rest fact := by
  constructor
  · intro h
    cases h with
    | table => exact .inl ⟨rfl, rfl⟩
    | step _ h => exact .inr ⟨_, rfl, h⟩
  · rintro (⟨rfl, rfl⟩ | ⟨rest, rfl, h⟩)
    · exact .table key path
    · exact .step key h

/-- Under one key nothing is said but what stands there, and of the table that it is one. -/
theorem along_singleton_iff :
    Along F [key] below fact ↔
      below = [] ∧ fact = .table ∨ ∃ rest, below = key :: rest ∧ F rest fact := by
  simp only [along_cons_iff, along_nil_iff]

theorem Along.of_ne_nil (h : path ≠ []) : Along F path [] .table := by
  cases path with
  | nil => exact absurd rfl h
  | cons key path => exact .table key path

/-- If there is a table at the end, there is one everywhere on the way. -/
theorem Along.root (h : F [] .table) (path : List String) : Along F path [] .table := by
  cases path with
  | nil => exact .stop h
  | cons key path => exact .table key path

theorem along_append_iff :
    Along F (path ++ path') below fact ↔ Along (Along F path') path below fact := by
  induction path generalizing below with
  | nil => exact along_nil_iff.symm
  | cons key path ih =>
      rw [List.cons_append, along_cons_iff, along_cons_iff]
      exact or_congr_right (exists_congr fun rest => and_congr_right fun _ => ih)

theorem Along.mono (h : Along F path below fact) (hFG : ∀ below fact, F below fact → G below fact) :
    Along G path below fact := by
  induction h with
  | table key path => exact .table key path
  | step key _ ih => exact .step key ih
  | stop h => exact .stop (hFG _ _ h)

end Along

/-! ## Tables while they are read -/

/-- There are no arrays of tables in it, at any depth. -/
inductive Node.Flat : Node → Prop where
  | value (v : Value) : Flat (.value v)
  | table (origin : Origin) {entries : Entries} (all : ∀ entry ∈ entries, Flat entry.2) :
      Flat (.table origin entries)

namespace Entries

variable {entries entries' inner : Entries} {node old : Node} {F G : List String → Fact → Prop}

def Flat (entries : Entries) : Prop := ∀ entry ∈ entries, entry.2.Flat

theorem mem_of_find? (h : entries.find? key = some node) : (key, node) ∈ entries := by
  obtain ⟨front, back, rfl, -⟩ := List.lookup_eq_some_iff.mp h
  exact List.mem_append_right front List.mem_cons_self

theorem mem_set_iff {entry : String × Node} : entry ∈ entries.set key node ↔
    entry ∈ entries ∧ entry.1 ≠ key ∨ entry = (key, node) ∧ key ∈ entries.map Prod.fst := by
  rw [set, List.mem_map]
  constructor
  · rintro ⟨⟨k, n⟩, hmem, rfl⟩
    by_cases hk : k = key
    · subst hk
      exact .inr ⟨if_pos rfl, List.mem_map_of_mem hmem⟩
    · simp only [if_neg hk]
      exact .inl ⟨hmem, hk⟩
  · rintro (⟨hmem, hne⟩ | ⟨rfl, hkey⟩)
    · exact ⟨entry, hmem, if_neg hne⟩
    · obtain ⟨⟨_, n⟩, hmem, rfl⟩ := List.mem_map.mp hkey
      exact ⟨_, hmem, if_pos rfl⟩

theorem Flat.found (h : entries.Flat) (hfind : entries.find? key = some node) : node.Flat :=
  h _ (mem_of_find? hfind)

theorem Flat.add (h : entries.Flat) (hnode : node.Flat) : (entries.add key node).Flat := by
  intro entry hentry
  rcases List.mem_append.mp hentry with hold | hnew
  · exact h entry hold
  · rw [List.mem_singleton.mp hnew]
    exact hnode

theorem Flat.set (h : entries.Flat) (hnode : node.Flat) : (entries.set key node).Flat := by
  intro entry hentry
  rcases mem_set_iff.mp hentry with ⟨hold, -⟩ | ⟨rfl, -⟩
  · exact h entry hold
  · exact hnode

/-- What a table says that is not yet finished. -/
def Says (entries : Entries) : List String → Fact → Prop :=
  (Value.table (finishEntries entries)).Says

theorem says_root_iff : entries.Says [] fact ↔ fact = .table := Value.says_root_iff

theorem says_field_iff : entries.Says (key :: path) fact ↔
    ∃ node, (key, node) ∈ entries ∧ node.finish.Says path fact := by
  rw [Says, Value.says_field_iff, finishEntries_eq_map]
  constructor
  · rintro ⟨v, hv, h⟩
    obtain ⟨⟨k, node⟩, hmem, heq⟩ := List.mem_map.mp hv
    obtain ⟨rfl, rfl⟩ := Prod.mk.inj heq
    exact ⟨node, hmem, h⟩
  · rintro ⟨node, hmem, h⟩
    exact ⟨node.finish, List.mem_map.mpr ⟨_, hmem, rfl⟩, h⟩

theorem says_nil_iff : Entries.Says [] path fact ↔ path = [] ∧ fact = .table := by
  rw [Says, finishEntries, Value.says_nil_iff]

/-- The second table says what the first one says, and these facts. -/
def Adds (entries entries' : Entries) (F : List String → Fact → Prop) : Prop :=
  ∀ path fact, entries'.Says path fact ↔ entries.Says path fact ∨ F path fact

theorem Adds.congr (h : Adds entries entries' F) (hFG : ∀ path fact, F path fact ↔ G path fact) :
    Adds entries entries' G :=
  fun path fact => (h path fact).trans (or_congr_right (hFG path fact))

/-- A new entry adds what it says. -/
theorem adds_add (h : ∀ below fact, node.finish.Says below fact ↔ G below fact) :
    Adds entries (entries.add key node) (Along G [key]) := by
  intro path fact
  rw [along_singleton_iff]
  cases path with
  | nil => simp [says_root_iff]
  | cons k rest =>
      rw [says_field_iff, says_field_iff]
      simp only [add, List.mem_append, List.mem_singleton, or_and_right, exists_or]
      refine or_congr_right ?_
      constructor
      · rintro ⟨_, heq, hfact⟩
        obtain ⟨rfl, rfl⟩ := Prod.mk.inj heq
        exact .inr ⟨rest, rfl, (h rest fact).mp hfact⟩
      · rintro (⟨hnil, -⟩ | ⟨_, heq, hG⟩)
        · exact absurd hnil (List.cons_ne_nil k rest)
        · obtain ⟨rfl, rfl⟩ := List.cons.inj heq
          exact ⟨node, rfl, (h rest fact).mpr hG⟩

/-- A change in place adds what the new entry says and the old one did not. -/
theorem adds_set (hwf : entries.WellFormed) (hfind : entries.find? key = some old)
    (h : ∀ below fact, node.finish.Says below fact ↔ old.finish.Says below fact ∨ G below fact) :
    Adds entries (entries.set key node) (Along G [key]) := by
  have hold : (key, old) ∈ entries := mem_of_find? hfind
  intro path fact
  rw [along_singleton_iff]
  cases path with
  | nil => simp [says_root_iff]
  | cons k rest =>
      rw [says_field_iff, says_field_iff]
      -- under the key the new entry speaks for itself, and under the others nothing has changed
      by_cases hk : k = key
      · subst hk
        have hnew : (∃ n, (k, n) ∈ entries.set k node ∧ n.finish.Says rest fact) ↔
            node.finish.Says rest fact := by
          constructor
          · rintro ⟨n, hn, hfact⟩
            rcases mem_set_iff.mp hn with ⟨-, hne⟩ | ⟨heq, -⟩
            · exact absurd rfl hne
            · rwa [← (Prod.mk.inj heq).2]
          · exact fun hfact => ⟨node, mem_set_iff.mpr (.inr ⟨rfl, List.mem_map_of_mem hold⟩), hfact⟩
        have hbefore : (∃ n, (k, n) ∈ entries ∧ n.finish.Says rest fact) ↔
            old.finish.Says rest fact := by
          constructor
          · rintro ⟨n, hn, hfact⟩
            have hsame := List.inj_on_of_nodup_map hwf.distinct hn hold rfl
            rwa [← (Prod.mk.inj hsame).2]
          · exact fun hfact => ⟨old, hold, hfact⟩
        rw [hnew, hbefore, h]
        simp
      · have hsame : ∀ n, (k, n) ∈ entries.set key node ↔ (k, n) ∈ entries := by
          intro n
          rw [mem_set_iff]
          constructor
          · rintro (⟨hmem, -⟩ | ⟨heq, -⟩)
            · exact hmem
            · exact absurd (Prod.mk.inj heq).1 hk
          · exact fun hmem => .inl ⟨hmem, hk⟩
        simp [hsame, hk]

/-- An operation on tables that adds these facts, and makes no array of tables. -/
def AddsAlways (act : Entries → Option Entries) (F : List String → Fact → Prop) : Prop :=
  ∀ ⦃entries result : Entries⦄, entries.WellFormed → entries.Flat → act entries = some result →
    Adds entries result F ∧ result.Flat

theorem AddsAlways.congr {act : Entries → Option Entries} (h : AddsAlways act F)
    (hFG : ∀ path fact, F path fact ↔ G path fact) : AddsAlways act G := by
  intro entries result hwf hflat hresult
  obtain ⟨hadds, hflat'⟩ := h hwf hflat hresult
  exact ⟨hadds.congr hFG, hflat'⟩

/-- **Following a path adds what is added at its end, along the path.** -/
theorem descend_adds {byDots : Bool} {act : Origin → Entries → Option Entries}
    (hact : ∀ origin, AddsAlways (act origin) F) (hroot : F [] .table) (path : List String)
    (origin : Origin) : AddsAlways (descend byDots act path origin) (Along F path) := by
  intro entries result hwf hflat hresult
  -- on every level of the path one entry is made or changed, and the rest stays
  induction path generalizing origin entries result with
  | nil =>
      obtain ⟨hadds, hflat'⟩ := hact origin hwf hflat hresult
      exact ⟨hadds.congr fun _ _ => along_nil_iff.symm, hflat'⟩
  | cons key path ih =>
      have halong : ∀ below fact, Along (Along F path) [key] below fact ↔
          Along F (key :: path) below fact := fun _ _ => along_append_iff.symm
      rw [descend] at hresult
      split at hresult
      case h_1 =>
        -- a table that is made says of itself that it is one, as the path does
        obtain ⟨inner, hinner, rfl⟩ := Option.map_eq_some_iff.mp hresult
        obtain ⟨hadds, hflat'⟩ := ih _ .nil (by simp [Flat]) hinner
        refine ⟨(adds_add fun below fact => ?_).congr halong, hflat.add (.table _ hflat')⟩
        rw [Node.finish]
        refine (hadds below fact).trans ⟨?_, .inr⟩
        rintro (hempty | h)
        · obtain ⟨rfl, rfl⟩ := says_nil_iff.mp hempty
          exact .root hroot path
        · exact h
      case h_2 made inner hfind =>
        split at hresult
        · simp at hresult
        · obtain ⟨inner', hinner, rfl⟩ := Option.map_eq_some_iff.mp hresult
          have hinnerWf := Node.wellFormed_table.mp (hwf.found hfind)
          cases hflat.found hfind with
          | table _ hinnerFlat =>
              obtain ⟨hadds, hflat'⟩ := ih _ hinnerWf hinnerFlat hinner
              refine ⟨(adds_set hwf hfind fun below fact => ?_).congr halong,
                hflat.set (.table _ hflat')⟩
              rw [Node.finish, Node.finish]
              exact hadds below fact
      case h_3 hfind => cases hflat.found hfind
      case h_4 => simp at hresult

/-- An assignment adds what the value says, along its path. -/
theorem assign_adds (path : KeyPath) (v : Value) :
    AddsAlways (assign path v) (Along v.Says (path.front ++ [path.last])) := by
  refine (descend_adds (F := Along v.Says [path.last]) (fun origin inner result _ hflat h => ?_)
    (.table _ _) path.front .named).congr fun _ _ => along_append_iff.symm
  split at h
  · simp at h
  · split at h
    · obtain rfl := Option.some.inj h
      refine ⟨adds_add fun below fact => ?_, hflat.add (.value v)⟩
      rw [Node.finish]
    · simp at h

/-- A header adds an empty table, along its path. -/
theorem openTable_adds (path : KeyPath) :
    AddsAlways (openTable path) (Along (Value.table []).Says (path.front ++ [path.last])) := by
  refine (descend_adds (F := Along (Value.table []).Says [path.last])
    (fun origin entries result hwf hflat h => ?_) (.table _ _) path.front .named).congr
      fun _ _ => along_append_iff.symm
  split at h
  case h_1 =>
    obtain rfl := Option.some.inj h
    refine ⟨adds_add fun below fact => ?_, hflat.add (.table .named (by simp))⟩
    rw [Node.finish, finishEntries]
  case h_2 inner hfind =>
    obtain rfl := Option.some.inj h
    cases hflat.found hfind with
    | table _ hinner =>
        refine ⟨adds_set hwf hfind fun below fact => ?_, hflat.set (.table .named hinner)⟩
        -- the table was there, and an empty one says no more than that
        rw [Node.finish, Node.finish]
        exact ⟨.inl, fun h => h.elim id (Value.says_of_nil _)⟩
  case h_3 => simp at h

end Entries

/-! ## Statements -/

/-- The pairs of a list of statements: each puts a value at the end of a path. `opened` is the section
that is open. -/
def pairs : List String → List Statement → List (List String × Value)
  | _, [] => []
  | _, .table path :: ss =>
    (path.front ++ [path.last], .table []) :: pairs (path.front ++ [path.last]) ss
  | _, .element path :: ss => pairs (path.front ++ [path.last]) ss
  | opened, .assign path v :: ss => (opened ++ (path.front ++ [path.last]), v) :: pairs opened ss

/-- What pairs say. -/
def Said (ps : List (List String × Value)) (path : List String) (fact : Fact) : Prop :=
  ∃ p ∈ ps, Along p.2.Says p.1 path fact

theorem said_cons_iff {p : List String × Value} {ps : List (List String × Value)} :
    Said (p :: ps) path fact ↔ Along p.2.Says p.1 path fact ∨ Said ps path fact := by
  simp only [Said, List.mem_cons, or_and_right, exists_or, exists_eq_left]

theorem said_append_iff {ps ps' : List (List String × Value)} :
    Said (ps ++ ps') path fact ↔ Said ps path fact ∨ Said ps' path fact := by
  simp only [Said, List.mem_append, or_and_right, exists_or]

/-- A statement adds what its pair says. -/
theorem Draft.enter_adds {d d' : Draft} {s : Statement} (hs : s.WellFormed)
    (helement : ∀ path, s ≠ .element path) (hwf : d.entries.WellFormed) (hflat : d.entries.Flat)
    (h : d.enter s = some d') : d'.entries.Flat ∧
      d.entries.Adds d'.entries (Said (pairs d.opened [s])) ∧
      ∀ ss, pairs d.opened (s :: ss) = pairs d.opened [s] ++ pairs d'.opened ss := by
  cases s with
  | table path =>
      obtain ⟨entries, hentries, rfl⟩ := Option.map_eq_some_iff.mp h
      obtain ⟨hadds, hflat'⟩ := Entries.openTable_adds path hwf hflat hentries
      exact ⟨hflat', hadds.congr fun _ _ => by simp [Said, pairs], fun _ => rfl⟩
  | element path => exact absurd rfl (helement path)
  | assign path v =>
      obtain ⟨entries, hentries, rfl⟩ := Option.map_eq_some_iff.mp h
      have hact : Entries.AddsAlways
          (Entries.descend false (fun _ inner => Entries.assign path v inner) d.opened .named) _ :=
        Entries.descend_adds (fun _ => Entries.assign_adds path v) (.of_ne_nil (by simp)) _ _
      obtain ⟨hadds, hflat'⟩ := hact hwf hflat hentries
      refine ⟨hflat', hadds.congr fun _ _ => ?_, fun _ => rfl⟩
      simp [Said, pairs, along_append_iff]

/-- A run over statements adds what their pairs say. -/
theorem enter_all_adds {ss : List Statement} {d d' : Draft} (hss : ∀ s ∈ ss, s.WellFormed)
    (helement : ∀ path, .element path ∉ ss) (hwf : d.entries.WellFormed) (hflat : d.entries.Flat)
    (h : ss.foldlM Draft.enter d = some d') :
    d.entries.Adds d'.entries (Said (pairs d.opened ss)) := by
  induction ss generalizing d with
  | nil =>
      obtain rfl := Option.some.inj h
      exact fun path fact => by simp [Said, pairs]
  | cons s ss ih =>
      rw [List.foldlM_cons] at h
      obtain ⟨next, hnext, hrest⟩ := Option.bind_eq_some_iff.mp h
      have hs : s.WellFormed := hss s List.mem_cons_self
      obtain ⟨hflat', hadds, hpairs⟩ := Draft.enter_adds hs
        (fun path heq => helement path (heq ▸ List.mem_cons_self)) hwf hflat hnext
      have hafter := ih (fun s' hs' => hss s' (List.mem_cons_of_mem s hs'))
        (fun path hmem => helement path (List.mem_cons_of_mem s hmem))
        (Draft.enter_wellFormed hs hwf hnext) hflat' hrest
      intro path fact
      rw [hafter path fact, hadds path fact, or_assoc, hpairs ss, said_append_iff]

/-! ## Documents -/

/-- The statements of a text. -/
def statements? (text : List Char) : Option (List Statement) :=
  let text := dropByteOrderMark text
  statements (text.length + 1) text

/-- A text is a document, and these are its pairs. -/
structure IsDocumentOf (text : List Char) (ps : List (List String × Value)) : Prop where
  read : ∃ fields, read? text = some fields
  written : ∃ ss, statements? text = some ss ∧ (∀ path, .element path ∉ ss) ∧ pairs [] ss = ps

section Documents

variable {text text' : List Char} {ps ps' : List (List String × Value)} {front : List String}

/-- **The tree of a document says what its pairs say**, and that it is a table. -/
theorem IsDocumentOf.says_iff (h : IsDocumentOf text ps) (hread : read? text = some fs) :
    (Value.table fs).Says path fact ↔ path = [] ∧ fact = .table ∨ Said ps path fact := by
  obtain ⟨ss, hss, helement, rfl⟩ := h.written
  have hfields : fieldsOfStatements? ss = some fs := by
    have hbind : (statements? text).bind fieldsOfStatements? = some fs := hread
    rwa [hss] at hbind
  obtain ⟨d, hd, rfl⟩ := Option.map_eq_some_iff.mp hfields
  have hadds := enter_all_adds (statements_wellFormed hss) helement .nil (by simp [Entries.Flat]) hd
  exact (hadds path fact).trans (or_congr_left Entries.says_nil_iff)

/-- **Documents whose pairs say the same have alike trees**, in whichever order the pairs stand and
whether they are written in sections, with dots or between braces. -/
theorem alike_of_said (h : IsDocumentOf text ps) (h' : IsDocumentOf text' ps')
    (hread : read? text = some fs) (hread' : read? text' = some gs)
    (hsaid : ∀ path fact, Said ps path fact ↔ Said ps' path fact) :
    (Value.table fs).Alike (.table gs) := by
  refine Value.alike_of_facts (read?_wellFormed hread) (read?_wellFormed hread') fun path fact => ?_
  rw [h.says_iff hread, h'.says_iff hread', hsaid]

/-! ## Spellings -/

/-- The order of the pairs does not matter. -/
theorem said_of_perm (h : ps.Perm ps') : Said ps path fact ↔ Said ps' path fact :=
  exists_congr fun _ => and_congr_left fun _ => h.mem_iff

/-- What stands between braces says what a header and its section say. -/
theorem along_table_iff : Along (Value.table fs).Says front path fact ↔
    Along (Value.table []).Says front path fact ∨
      ∃ field ∈ fs, Along field.2.Says (front ++ [field.1]) path fact := by
  constructor
  · intro h
    induction front generalizing path with
    | nil =>
        cases along_nil_iff.mp h with
        | table => exact .inl (.stop (.table []))
        | leaf hleaf => exact absurd rfl (hleaf fs)
        | field hmem hfact => exact .inr ⟨_, hmem, .step _ (.stop hfact)⟩
    | cons key front ih =>
        cases h with
        | table => exact .inl (.table key front)
        | step _ h =>
            rcases ih h with hempty | ⟨field, hmem, hfield⟩
            · exact .inl (.step key hempty)
            · exact .inr ⟨field, hmem, .step key hfield⟩
  · rintro (hempty | ⟨⟨key, v⟩, hmem, hfield⟩)
    · exact hempty.mono fun _ _ => Value.says_of_nil fs
    · refine (along_append_iff.mp hfield).mono fun below fact hbelow => ?_
      rcases along_singleton_iff.mp hbelow with ⟨rfl, rfl⟩ | ⟨rest, rfl, hrest⟩
      · exact .table fs
      · exact .field hmem hrest

/-- Braces may be opened up into a header and a section. -/
theorem said_braces_iff :
    Said ((front, .table fs) :: ps) path fact ↔
      Said ((front, .table []) :: (fs.map (fun field => (front ++ [field.1], field.2)) ++ ps))
        path fact := by
  have hsection : Said (fs.map fun field => (front ++ [field.1], field.2)) path fact ↔
      ∃ field ∈ fs, Along field.2.Says (front ++ [field.1]) path fact := by
    simp only [Said, List.mem_map, exists_exists_and_eq_and]
  rw [said_cons_iff, said_cons_iff, said_append_iff, hsection, along_table_iff, or_assoc]

/-- A header is needed only if nothing is said of its section. -/
theorem said_header_iff {key : String} {v : Value} (h : (front ++ [key], v) ∈ ps) :
    Said ((front, .table []) :: ps) path fact ↔ Said ps path fact := by
  constructor
  · rintro ⟨p, hp, hfact⟩
    rcases List.mem_cons.mp hp with rfl | hp
    · refine ⟨_, h, along_append_iff.mpr (hfact.mono fun below fact hempty => ?_)⟩
      obtain ⟨rfl, rfl⟩ := Value.says_nil_iff.mp hempty
      exact .table key []
    · exact ⟨p, hp, hfact⟩
  · rintro ⟨p, hp, hfact⟩
    exact ⟨p, List.mem_cons_of_mem _ hp, hfact⟩

/-- So dots say what braces say, except of a table with nothing in it. -/
theorem said_dots_iff (h : fs ≠ []) :
    Said ((front, .table fs) :: ps) path fact ↔
      Said (fs.map (fun field => (front ++ [field.1], field.2)) ++ ps) path fact := by
  obtain ⟨⟨key, v⟩, rest, rfl⟩ := List.exists_cons_of_ne_nil h
  have hmem : (front ++ [key], v) ∈
      ((key, v) :: rest).map (fun field => (front ++ [field.1], field.2)) ++ ps :=
    List.mem_append_left ps List.mem_cons_self
  rw [said_braces_iff, said_header_iff hmem]

end Documents

end FreshBuild.Toml
