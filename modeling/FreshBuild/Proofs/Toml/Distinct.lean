/-
# FreshBuild.Proofs.Toml.Distinct — the tables of a document have pairwise different keys.

Tables are lists of fields, and nothing in their type keeps a key from standing in one of them
twice. That is the reader's work: an entry is added only where a lookup found none, and changed only
in place. `Value.WellFormed` says that it holds of every table in a tree, at any depth, and
`Toml.read?_wellFormed` that every document that is read denotes such a tree.

The reader has two kinds of parts, and each gets one kind of lemma. What works on tables preserves
`Entries.WellFormed` (`descend` does if what it applies does, and everything else is a `descend`).
What takes values off a text yields well-formed ones (`Yields`), by induction on the nesting that is
still allowed.
-/
import FreshBuild.Toml.Document
import Mathlib.Data.List.Nodup

namespace FreshBuild.Toml

/-! ## Trees with different keys -/

/-- In every table of the tree the keys are pairwise different. -/
inductive Value.WellFormed : Value → Prop where
  | string (text : String) : WellFormed (.string text)
  | integer (n : Int) : WellFormed (.integer n)
  | garbled (word : String) : WellFormed (.garbled word)
  | float (x : Decimal) : WellFormed (.float x)
  | boolean (b : Bool) : WellFormed (.boolean b)
  | moment (text : String) : WellFormed (.moment text)
  | array {items : List Value} (all : ∀ v ∈ items, WellFormed v) : WellFormed (.array items)
  | table {fields : Fields} (distinct : (fields.map Prod.fst).Nodup)
      (all : ∀ field ∈ fields, WellFormed field.2) : WellFormed (.table fields)

theorem Value.WellFormed.distinct {fields : Fields} (h : (Value.table fields).WellFormed) :
    (fields.map Prod.fst).Nodup := by
  cases h with
  | table distinct _ => exact distinct

theorem Value.WellFormed.field {fields : Fields} {field : String × Value}
    (h : (Value.table fields).WellFormed) (hmem : field ∈ fields) : field.2.WellFormed := by
  cases h with
  | table _ all => exact all field hmem

/-- The same of an entry that is still being read. -/
inductive Node.WellFormed : Node → Prop where
  | value {v : Value} (h : v.WellFormed) : WellFormed (.value v)
  | table (origin : Origin) {entries : Entries} (distinct : (entries.map Prod.fst).Nodup)
      (all : ∀ entry ∈ entries, WellFormed entry.2) : WellFormed (.table origin entries)
  | elements {done : List Entries} {last : Entries}
      (distinct : ∀ entries ∈ done ++ [last], (entries.map Prod.fst).Nodup)
      (all : ∀ entries ∈ done ++ [last], ∀ entry ∈ entries, WellFormed entry.2) :
      WellFormed (.elements done last)

/-- The same of a table that is still being read. -/
structure Entries.WellFormed (entries : Entries) : Prop where
  distinct : (entries.map Prod.fst).Nodup
  all : ∀ entry ∈ entries, entry.2.WellFormed

theorem Node.wellFormed_table {origin : Origin} {entries : Entries} :
    (Node.table origin entries).WellFormed ↔ Entries.WellFormed entries := by
  constructor
  · rintro (_ | ⟨_, distinct, all⟩ | _)
    exact ⟨distinct, all⟩
  · rintro ⟨distinct, all⟩
    exact .table origin distinct all

theorem Node.wellFormed_elements {done : List Entries} {last : Entries} :
    (Node.elements done last).WellFormed ↔
      ∀ entries ∈ done ++ [last], Entries.WellFormed entries := by
  constructor
  · rintro (_ | _ | ⟨distinct, all⟩) entries hmem
    exact ⟨distinct entries hmem, all entries hmem⟩
  · intro h
    exact .elements (fun entries hmem => (h entries hmem).distinct)
      (fun entries hmem => (h entries hmem).all)

/-! ## Tables while they are read -/

namespace Entries

variable {entries inner : Entries} {key : String} {node : Node}

theorem WellFormed.nil : WellFormed [] where
  distinct := List.nodup_nil
  all := by simp

/-- What a lookup finds is one of the entries. -/
theorem WellFormed.found (h : WellFormed entries) (hfind : entries.find? key = some node) :
    node.WellFormed := by
  obtain ⟨front, back, rfl, _⟩ := List.lookup_eq_some_iff.mp hfind
  exact h.all (key, node) (by simp)

/-- A change in place keeps the keys. -/
theorem WellFormed.set (h : WellFormed entries) (hnode : node.WellFormed) :
    WellFormed (entries.set key node) where
  distinct := by
    have hkeys : (entries.set key node).map Prod.fst = entries.map Prod.fst := by
      rw [Entries.set, List.map_map]
      refine List.map_congr_left fun entry _ => ?_
      by_cases heq : entry.1 = key <;> simp [heq]
    rw [hkeys]
    exact h.distinct
  all := by
    intro entry hentry
    obtain ⟨old, hold, rfl⟩ := List.mem_map.mp hentry
    by_cases heq : old.1 = key
    · simpa [heq] using hnode
    · simpa [heq] using h.all old hold

/-- An entry is added only where there is none with its key. -/
theorem WellFormed.add (h : WellFormed entries) (hnone : entries.find? key = none)
    (hnode : node.WellFormed) : WellFormed (entries.add key node) where
  distinct := by
    have hnew : key ∉ entries.map Prod.fst := by
      rintro hmem
      obtain ⟨entry, hentry, rfl⟩ := List.mem_map.mp hmem
      simpa using List.lookup_eq_none_iff.mp hnone entry hentry
    simp only [Entries.add, List.map_append, List.map_cons, List.map_nil, List.nodup_append,
      List.mem_singleton, forall_eq]
    exact ⟨h.distinct, List.nodup_singleton key, fun other hother heq => hnew (heq ▸ hother)⟩
  all := by
    intro entry hentry
    rcases List.mem_append.mp hentry with hold | hnew
    · exact h.all entry hold
    · rw [List.mem_singleton.mp hnew]
      exact hnode

/-- An operation on tables that keeps their keys different whenever it gives a table. -/
def Preserves (act : Entries → Option Entries) : Prop :=
  ∀ ⦃entries result : Entries⦄, WellFormed entries → act entries = some result → WellFormed result

/-- Following a path changes one table on each level and adds those that are missing, so it keeps
what the operation at its end keeps. -/
theorem descend_preserves {byDots : Bool} {act : Origin → Entries → Option Entries}
    (hact : ∀ origin, Preserves (act origin)) (path : List String) (origin : Origin) :
    Preserves (descend byDots act path origin) := by
  intro entries result h hresult
  induction path generalizing origin entries result with
  | nil => exact hact origin h hresult
  | cons key path ih =>
      rw [descend] at hresult
      split at hresult
      case h_1 hnone =>
        -- a missing table is made from nothing, under a key that the lookup found free
        obtain ⟨inner, hinner, rfl⟩ := Option.map_eq_some_iff.mp hresult
        exact h.add hnone (Node.wellFormed_table.mpr (ih _ .nil hinner))
      case h_2 made inner hfind =>
        split at hresult
        · simp at hresult
        · obtain ⟨inner', hinner, rfl⟩ := Option.map_eq_some_iff.mp hresult
          have hwf := Node.wellFormed_table.mp (h.found hfind)
          exact h.set (Node.wellFormed_table.mpr (ih _ hwf hinner))
      case h_3 done last hfind =>
        -- of an array of tables only the last one can change
        obtain ⟨last', hlast, rfl⟩ := Option.map_eq_some_iff.mp hresult
        have hwf := Node.wellFormed_elements.mp (h.found hfind)
        refine h.set (Node.wellFormed_elements.mpr fun es hes => ?_)
        rcases List.mem_append.mp hes with hdone | hnew
        · exact hwf es (List.mem_append_left _ hdone)
        · rw [List.mem_singleton.mp hnew]
          exact ih _ (hwf last (by simp)) hlast
      case h_4 => simp at hresult

theorem assign_preserves {v : Value} (hv : v.WellFormed) (path : KeyPath) :
    Preserves (assign path v) := by
  refine descend_preserves (fun origin inner result h hresult => ?_) path.front .named
  split at hresult
  · simp at hresult
  · split at hresult
    case h_1 hnone =>
      obtain rfl := Option.some.inj hresult
      exact h.add hnone (.value hv)
    case h_2 => simp at hresult

theorem openTable_preserves (path : KeyPath) : Preserves (openTable path) := by
  refine descend_preserves (fun _ entries result h hresult => ?_) path.front .named
  split at hresult
  case h_1 hnone =>
    obtain rfl := Option.some.inj hresult
    exact h.add hnone (Node.wellFormed_table.mpr .nil)
  case h_2 inner hfind =>
    obtain rfl := Option.some.inj hresult
    exact h.set (Node.wellFormed_table.mpr (Node.wellFormed_table.mp (h.found hfind)))
  case h_3 => simp at hresult

theorem openElement_preserves (path : KeyPath) : Preserves (openElement path) := by
  refine descend_preserves (fun _ entries result h hresult => ?_) path.front .named
  split at hresult
  case h_1 hnone =>
    obtain rfl := Option.some.inj hresult
    refine h.add hnone (Node.wellFormed_elements.mpr fun es hes => ?_)
    rw [List.mem_singleton.mp hes]
    exact .nil
  case h_2 done last hfind =>
    obtain rfl := Option.some.inj hresult
    have hwf := Node.wellFormed_elements.mp (h.found hfind)
    refine h.set (Node.wellFormed_elements.mpr fun es hes => ?_)
    rcases List.mem_append.mp hes with hdone | hnew
    · exact hwf es hdone
    · rw [List.mem_singleton.mp hnew]
      exact .nil
  case h_3 => simp at hresult

end Entries

/-! ## Finished trees -/

theorem finishEntries_eq_map (entries : Entries) :
    finishEntries entries = entries.map fun entry => (entry.1, entry.2.finish) := by
  induction entries with
  | nil => simp [finishEntries]
  | cons entry entries ih => simp [finishEntries, ih]

theorem finishTables_eq_map (tables : List Entries) :
    finishTables tables = tables.map fun entries => .table (finishEntries entries) := by
  induction tables with
  | nil => simp [finishTables]
  | cons entries tables ih => simp [finishTables, ih]

/-- A table of finished entries. It has the keys of the table that was read. -/
theorem wellFormed_finishEntries_of {entries : Entries} (distinct : (entries.map Prod.fst).Nodup)
    (all : ∀ entry ∈ entries, entry.2.finish.WellFormed) :
    (Value.table (finishEntries entries)).WellFormed := by
  rw [finishEntries_eq_map]
  refine .table ?_ ?_
  · rw [List.map_map]
    exact distinct
  · intro field hfield
    obtain ⟨entry, hentry, rfl⟩ := List.mem_map.mp hfield
    exact all entry hentry

theorem Node.WellFormed.finish {node : Node} (h : node.WellFormed) : node.finish.WellFormed := by
  induction h with
  | value h =>
      rw [Node.finish]
      exact h
  | table origin distinct _ ih =>
      rw [Node.finish]
      exact wellFormed_finishEntries_of distinct ih
  | @elements done last distinct _ ih =>
      have hitems : (Node.elements done last).finish =
          .array ((done ++ [last]).map fun entries => .table (finishEntries entries)) := by
        rw [Node.finish, finishTables_eq_map, List.map_append]
        rfl
      rw [hitems]
      refine .array fun v hv => ?_
      obtain ⟨entries, hentries, rfl⟩ := List.mem_map.mp hv
      exact wellFormed_finishEntries_of (distinct entries hentries) (ih entries hentries)

theorem Entries.WellFormed.finish {entries : Entries} (h : entries.WellFormed) :
    (Value.table (finishEntries entries)).WellFormed :=
  wellFormed_finishEntries_of h.distinct fun entry hentry => (h.all entry hentry).finish

/-! ## From the text -/

/-- What every step keeps, a run over a list keeps. -/
theorem foldlM_some_induct {α β : Type} {step : β → α → Option β} {P : β → Prop} {xs : List α}
    {b b' : β} (hstep : ∀ x ∈ xs, ∀ b b', P b → step b x = some b' → P b') (hb : P b)
    (hrun : xs.foldlM step b = some b') : P b' := by
  induction xs generalizing b with
  | nil =>
      obtain rfl := Option.some.inj hrun
      exact hb
  | cons x xs ih =>
      rw [List.foldlM_cons] at hrun
      obtain ⟨next, hnext, hrest⟩ := Option.bind_eq_some_iff.mp hrun
      have hP : P next := hstep x (by simp) b next hb hnext
      exact ih (fun y hy => hstep y (by simp [hy])) hP hrest

theorem fieldsOf?_wellFormed {assignments : List (KeyPath × Value)} {fields : Fields}
    (hall : ∀ a ∈ assignments, a.2.WellFormed) (h : fieldsOf? assignments = some fields) :
    (Value.table fields).WellFormed := by
  obtain ⟨entries, hentries, rfl⟩ := Option.map_eq_some_iff.mp h
  have hwf : Entries.WellFormed entries :=
    foldlM_some_induct
      (fun a ha _ _ hb hstep => Entries.assign_preserves (hall a ha) a.1 hb hstep) .nil hentries
  exact hwf.finish

/-- Whatever the reader takes off a text has the property. -/
def Yields {α : Type} (P : α → Prop) (reader : Reader α) : Prop :=
  ∀ ⦃s : List Char⦄ ⦃x : α⦄ ⦃rest : List Char⦄, reader s = some (x, rest) → P x

theorem yields_items {α : Type} {P : α → Prop} {item : Reader α} (hitem : Yields P item)
    (close : Char) (fuel : Nat) : Yields (fun xs => ∀ x ∈ xs, P x) (items item close fuel) := by
  intro s xs rest h
  induction fuel generalizing s xs rest with
  | zero => simp [items] at h
  | succ fuel ih =>
      rw [items] at h
      split at h
      · simp at h
      · split at h
        · simp only [Option.some.injEq, Prod.mk.injEq] at h
          simp [← h.1]
        · split at h
          · simp at h
          case h_2 hfirst =>
            split at h
            case h_1 more _ =>
              obtain ⟨⟨others, after⟩, hothers, heq⟩ := Option.map_eq_some_iff.mp h
              simp only [Prod.mk.injEq] at heq
              rw [← heq.1]
              exact List.forall_mem_cons.mpr ⟨hitem hfirst, ih hothers⟩
            case h_2 =>
              split at h
              · simp only [Option.some.injEq, Prod.mk.injEq] at h
                rw [← h.1]
                simpa using hitem hfirst
              · simp at h
            case h_3 => simp at h

theorem yields_assignment {reader : Reader Value} (h : Yields Value.WellFormed reader)
    (skip : List Char → List Char) :
    Yields (fun a => a.2.WellFormed) (assignment skip reader) := by
  intro s a rest hread
  simp only [assignment] at hread
  split at hread
  · simp at hread
  · split at hread
    · obtain ⟨⟨v, after⟩, hv, heq⟩ := Option.map_eq_some_iff.mp hread
      simp only [Prod.mk.injEq] at heq
      rw [← heq.1]
      exact h hv
    · simp at hread

/-- A single word is a value with nothing inside it. -/
theorem wordValue?_wellFormed {word : List Char} {v : Value} (h : wordValue? word = some v) :
    v.WellFormed := by
  unfold wordValue? at h
  split at h
  · exact Option.some.inj h ▸ .boolean true
  split at h
  · exact Option.some.inj h ▸ .boolean false
  split at h
  case h_1 n _ => exact Option.some.inj h ▸ .integer n
  split at h
  case h_1 x _ => exact Option.some.inj h ▸ .float x
  split at h
  · exact Option.some.inj h ▸ .moment _
  split at h
  · exact Option.some.inj h ▸ .garbled _
  · cases h

/-- A value without brackets and braces. -/
theorem yields_plain {s rest : List Char} {v : Value}
    (h : (match quotedText s with
      | some (text, rest) => some (Value.string text, rest)
      | none => scalar s) = some (v, rest)) : v.WellFormed := by
  split at h
  · simp only [Option.some.injEq, Prod.mk.injEq] at h
    rw [← h.1]
    exact .string _
  · obtain ⟨w, hw, heq⟩ := Option.map_eq_some_iff.mp h
    simp only [Prod.mk.injEq] at heq
    rw [← heq.1]
    exact wordValue?_wellFormed hw

/-- Values are well-formed however deep they nest. -/
theorem yields_value (depth : Nat) : Yields Value.WellFormed (value depth) := by
  induction depth with
  | zero =>
      intro s v rest h
      exact yields_plain h
  | succ depth ih =>
      intro s v rest h
      rw [value.eq_def] at h
      dsimp only at h
      split at h
      · -- the items of an array are values of the next depth
        obtain ⟨⟨vs, after⟩, hvs, heq⟩ := Option.map_eq_some_iff.mp h
        simp only [Prod.mk.injEq] at heq
        rw [← heq.1]
        exact .array (yields_items ih _ _ hvs)
      · -- what stands between braces is assigned one by one, like the lines of a section
        split at h
        case h_1 hread =>
          obtain ⟨fields, hfields, heq⟩ := Option.map_eq_some_iff.mp h
          simp only [Prod.mk.injEq] at heq
          rw [← heq.1]
          exact fieldsOf?_wellFormed (yields_items (yields_assignment ih _) _ _ hread) hfields
        case h_2 => simp at h
      · exact yields_plain h

/-- Every value that a statement carries is well-formed. -/
def Statement.WellFormed : Statement → Prop
  | .assign _ v => v.WellFormed
  | _ => True

theorem yields_statement : Yields Statement.WellFormed statement := by
  intro s stmt rest h
  unfold statement at h
  split at h
  all_goals
    obtain ⟨read, hread, heq⟩ := Option.map_eq_some_iff.mp h
    simp only [Prod.mk.injEq] at heq
    rw [← heq.1]
  case h_3 => exact yields_assignment (yields_value maxDepth) _ hread
  all_goals trivial

theorem statements_wellFormed {fuel : Nat} {s : List Char} {ss : List Statement}
    (h : statements fuel s = some ss) : ∀ stmt ∈ ss, stmt.WellFormed := by
  induction fuel generalizing s ss with
  | zero => simp [statements] at h
  | succ fuel ih =>
      rw [statements] at h
      split at h
      · obtain rfl := Option.some.inj h
        simp
      · split at h
        · simp at h
        case h_2 hfirst =>
          split at h
          · simp at h
          · obtain ⟨others, hothers, rfl⟩ := Option.map_eq_some_iff.mp h
            exact List.forall_mem_cons.mpr ⟨yields_statement hfirst, ih hothers⟩

/-- One statement of a document keeps the keys of every table different. -/
theorem Draft.enter_wellFormed {d d' : Draft} {stmt : Statement} (hstmt : stmt.WellFormed)
    (hd : d.entries.WellFormed) (h : d.enter stmt = some d') : d'.entries.WellFormed := by
  cases stmt with
  | table path =>
      obtain ⟨entries, hentries, rfl⟩ := Option.map_eq_some_iff.mp h
      exact Entries.openTable_preserves path hd hentries
  | element path =>
      obtain ⟨entries, hentries, rfl⟩ := Option.map_eq_some_iff.mp h
      exact Entries.openElement_preserves path hd hentries
  | assign path v =>
      obtain ⟨entries, hentries, rfl⟩ := Option.map_eq_some_iff.mp h
      exact Entries.descend_preserves (fun _ => Entries.assign_preserves hstmt path) _ _ hd hentries

/-- The tree of a document has no table with two fields of one key. -/
theorem read?_wellFormed {text : List Char} {fields : Fields} (h : read? text = some fields) :
    (Value.table fields).WellFormed := by
  obtain ⟨ss, hss, hfields⟩ := Option.bind_eq_some_iff.mp h
  obtain ⟨d, hd, rfl⟩ := Option.map_eq_some_iff.mp hfields
  have hwf : d.entries.WellFormed :=
    @foldlM_some_induct _ _ _ (fun d => d.entries.WellFormed) _ _ _
      (fun stmt hstmt _ _ hb hstep =>
        Draft.enter_wellFormed (statements_wellFormed hss stmt hstmt) hb hstep)
      Entries.WellFormed.nil hd
  exact hwf.finish

end FreshBuild.Toml
