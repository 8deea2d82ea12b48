/-
# FreshBuild.Proofs.Disk.Tree — disks that are directory trees.

A `Disk` is a table, and a table may say anything. What a machine holds is a tree: every entry stands
in a directory, under a proper name, once (`IsTree`). Two orders of facts are collected here.

* Lookups. `get?_restrict` and `get?_put` say what every change of a disk does to every location;
  later modules reason through them and never about rows.
* Inclusion. `Within d d'` says that `d'` has at least the entries of `d`. Removal goes down in this
  order and making a new entry goes up, and whether a path still leads where it led is decided by it.

Restricting a tree to locations that are closed under taking the parent gives a tree
(`IsTree.restrict`), so clearing and erasing do; so does a new entry in a directory (`IsTree.put`).
-/
import FreshBuild.Disk.Resolve
import Mathlib.Data.List.Induction
import Mathlib.Data.List.Nodup

namespace FreshBuild

open FreshBuild.Path (slash)

/-! ## Proper names -/

/-- What an entry of a directory can be called. -/
structure Name.IsProper (name : Name) : Prop where
  ne_nil : name ≠ []
  no_slash : slash ∉ name
  no_nul : 0 ∉ name
  ne_here : name ≠ Path.here
  ne_up : name ≠ Path.up
  short : name.length ≤ Disk.maxName

instance (name : Name) : Decidable (Name.IsProper name) :=
  decidable_of_iff
    (name ≠ [] ∧ slash ∉ name ∧ 0 ∉ name ∧ name ≠ Path.here ∧ name ≠ Path.up ∧
      name.length ≤ Disk.maxName)
    ⟨fun ⟨hne, hslash, hnul, hhere, hup, hshort⟩ => ⟨hne, hslash, hnul, hhere, hup, hshort⟩,
      fun h => ⟨h.ne_nil, h.no_slash, h.no_nul, h.ne_here, h.ne_up, h.short⟩⟩

namespace Disk

/-! ## What stands where -/

@[simp]
theorem get?_nil (d : Disk) : d.get? [] = some .directory := rfl

theorem get?_of_ne_nil {d : Disk} {l : Location} (h : l ≠ []) : d.get? l = d.rows.lookup l := by
  simp [get?, h]

theorem hasDirectory_iff {d : Disk} {l : Location} :
    d.hasDirectory l = true ↔ d.get? l = some .directory := by
  unfold hasDirectory
  cases d.get? l with
  | none => simp
  | some e => cases e <;> simp [Entry.isDirectory]

theorem lookup_filter_location (rows : List (Location × Entry)) (kept : Location → Bool)
    (l : Location) :
    (rows.filter fun (m, _) => kept m).lookup l = if kept l then rows.lookup l else none := by
  induction rows with
  | nil => simp
  | cons row rest ih =>
      obtain ⟨m, e⟩ := row
      by_cases hm : l = m
      · subst hm
        cases hk : kept l <;> simp [hk, ih]
      · have hbeq : (l == m) = false := beq_eq_false_iff_ne.mpr hm
        cases hk : kept m <;> simp [hk, List.lookup_cons, hbeq, ih]

/-- Restriction takes away exactly what is not to be kept; the root always stays. -/
theorem get?_restrict (d : Disk) (kept : Location → Bool) (l : Location) :
    (d.restrict kept).get? l = if l = [] ∨ kept l = true then d.get? l else none := by
  by_cases hl : l = []
  · simp [hl]
  · rw [get?_of_ne_nil hl, get?_of_ne_nil hl, restrict, lookup_filter_location]
    simp [hl]

/-- Whether `l` lies strictly below `at_`. -/
def isBelow (at_ l : Location) : Bool := at_.isPrefixOf l && l != at_

theorem isBelow_iff {at_ l : Location} : isBelow at_ l = true ↔ at_ <+: l ∧ l ≠ at_ := by
  simp [isBelow]

theorem clear_eq (d : Disk) (at_ : Location) : d.clear at_ = d.restrict fun l => !isBelow at_ l := rfl

/-- Clearing a directory takes away what lies strictly below it and nothing else. -/
theorem get?_clear (d : Disk) (at_ l : Location) :
    (d.clear at_).get? l = if at_ <+: l ∧ l ≠ at_ then none else d.get? l := by
  rw [clear_eq, get?_restrict]
  simp only [← isBelow_iff]
  by_cases hl : l = []
  · subst hl
    simp [isBelow]
  · by_cases hb : isBelow at_ l = true <;> simp [hl, hb]

/-- Erasing a location other than the root takes it away with what lies below, and nothing else. -/
theorem get?_erase (d : Disk) {at_ : Location} (hat : at_ ≠ []) (l : Location) :
    (d.erase at_).get? l = if at_ <+: l then none else d.get? l := by
  rw [erase, get?_restrict]
  simp only [← List.isPrefixOf_iff_prefix]
  by_cases hl : l = []
  · subst hl
    simp [hat]
  · by_cases hp : at_.isPrefixOf l = true <;> simp [hl, hp]

/-- A new entry replaces what stood at its location and below it. -/
theorem get?_put (d : Disk) {at_ : Location} (hat : at_ ≠ []) (e : Entry) (l : Location) :
    (d.put at_ e).get? l = if l = at_ then some e else (d.erase at_).get? l := by
  by_cases hl : l = []
  · subst hl
    simp [Ne.symm hat]
  · have herased : (d.erase at_).get? at_ = none := by
      rw [get?_erase d hat]
      simp
    rw [get?_of_ne_nil hl, get?_of_ne_nil hl, put, List.lookup_append]
    rw [get?_of_ne_nil hat] at herased
    by_cases heq : l = at_
    · subst heq
      simp [herased]
    · have hbeq : (l == at_) = false := beq_eq_false_iff_ne.mpr heq
      simp [heq, List.lookup_cons, hbeq]

theorem ne_dropLast {l : Location} (h : l ≠ []) : l ≠ l.dropLast := by
  intro heq
  have hlen := congrArg List.length heq
  have hpos := List.length_pos_iff.mpr h
  rw [List.length_dropLast] at hlen
  omega

/-- An emptied directory shows no names. -/
theorem children_clear (d : Disk) (at_ : Location) : (d.clear at_).children at_ = [] := by
  rw [children, List.filterMap_eq_nil_iff]
  rintro ⟨l, e⟩ hrow
  simp only [clear_eq, restrict, List.mem_filter] at hrow
  simp only [ite_eq_right_iff, List.getLast?_eq_none_iff]
  rintro rfl
  by_contra hne
  have hbelow : isBelow l.dropLast l = true :=
    isBelow_iff.mpr ⟨List.dropLast_prefix l, ne_dropLast hne⟩
  simp [hbelow] at hrow

/-- A new entry shows no names. -/
theorem children_put (d : Disk) {at_ : Location} (hat : at_ ≠ []) (e : Entry) :
    (d.put at_ e).children at_ = [] := by
  rw [children, List.filterMap_eq_nil_iff]
  rintro ⟨l, e'⟩ hrow
  simp only [ite_eq_right_iff]
  rintro rfl
  rcases List.mem_append.mp hrow with hrow | hrow
  · have hkept := (List.mem_filter.mp hrow).2
    have hleads := List.isPrefixOf_iff_prefix.mpr (List.dropLast_prefix l)
    simp [hleads] at hkept
  · have hl : l = l.dropLast := (Prod.mk.inj (List.mem_singleton.mp hrow)).1
    have hnil : l = [] := by
      by_contra hne
      exact ne_dropLast hne hl
    exact absurd (by rw [hnil]; rfl) hat

/-! ## Inclusion of disks -/

/-- Every entry of `d` stands on `d'` as well. -/
def Within (d d' : Disk) : Prop := ∀ l e, d.get? l = some e → d'.get? l = some e

theorem Within.refl (d : Disk) : Within d d := fun _ _ h => h

theorem Within.trans {d d' d'' : Disk} (h : Within d d') (h' : Within d' d'') : Within d d'' :=
  fun l e hl => h' l e (h l e hl)

theorem Within.hasDirectory {d d' : Disk} (h : Within d d') {l : Location}
    (hl : d.hasDirectory l = true) : d'.hasDirectory l = true :=
  hasDirectory_iff.mpr (h l _ (hasDirectory_iff.mp hl))

theorem restrict_within (d : Disk) (kept : Location → Bool) : Within (d.restrict kept) d := by
  intro l e h
  rw [get?_restrict] at h
  split at h
  · exact h
  · simp at h

theorem clear_within (d : Disk) (at_ : Location) : Within (d.clear at_) d :=
  restrict_within d _

theorem erase_within (d : Disk) (at_ : Location) : Within (d.erase at_) d :=
  restrict_within d _

/-- Erasing takes away more than clearing. -/
theorem erase_within_clear (d : Disk) {at_ : Location} (hat : at_ ≠ []) :
    Within (d.erase at_) (d.clear at_) := by
  intro l e h
  rw [get?_erase d hat] at h
  rw [get?_clear]
  split at h
  · simp at h
  · rename_i hp
    simp [hp, h]

theorem erase_within_put (d : Disk) {at_ : Location} (hat : at_ ≠ []) (e : Entry) :
    Within (d.erase at_) (d.put at_ e) := by
  intro l e' h
  rw [get?_put d hat]
  have hne : l ≠ at_ := by
    rintro rfl
    rw [get?_erase d hat] at h
    simp at h
  simp [hne, h]

/-- Once a location is cleared, erasing it leaves what erasing it at once leaves. -/
theorem get?_erase_clear (d : Disk) {at_ : Location} (hat : at_ ≠ []) (l : Location) :
    ((d.clear at_).erase at_).get? l = (d.erase at_).get? l := by
  rw [get?_erase _ hat, get?_erase _ hat, get?_clear]
  by_cases hp : at_ <+: l <;> simp [hp]

/-- A directory outlives everything that stands in it. -/
theorem hasDirectory_erase_below {d : Disk} {dir : Location} (hdir : d.hasDirectory dir = true)
    (name : Name) : (d.erase (dir ++ [name])).hasDirectory dir = true := by
  have hnot : ¬ dir ++ [name] <+: dir := fun hp => by
    have hlen := hp.length_le
    simp only [List.length_append, List.length_singleton] at hlen
    omega
  rw [hasDirectory_iff, get?_erase d (by simp), if_neg hnot]
  exact hasDirectory_iff.mp hdir

/-! ## Trees -/

/-- The table is a directory tree: a location has one row at most, every entry stands in a directory
and under proper names, and no link is empty. -/
structure IsTree (d : Disk) : Prop where
  unique : (d.rows.map Prod.fst).Nodup
  rooted : ∀ row ∈ d.rows, row.1 ≠ [] ∧ d.hasDirectory row.1.dropLast = true
  proper : ∀ row ∈ d.rows, ∀ name ∈ row.1, Name.IsProper name
  linked : ∀ row ∈ d.rows, row.2 ≠ .link ⟨[]⟩

instance (d : Disk) : Decidable d.IsTree :=
  decidable_of_iff
    ((d.rows.map Prod.fst).Nodup ∧
      (∀ row ∈ d.rows, row.1 ≠ [] ∧ d.hasDirectory row.1.dropLast = true) ∧
      (∀ row ∈ d.rows, ∀ name ∈ row.1, Name.IsProper name) ∧ ∀ row ∈ d.rows, row.2 ≠ .link ⟨[]⟩)
    ⟨fun ⟨hu, hr, hp, hl⟩ => ⟨hu, hr, hp, hl⟩, fun h => ⟨h.unique, h.rooted, h.proper, h.linked⟩⟩

theorem mem_rows_of_get? {d : Disk} {l : Location} {e : Entry} (hl : l ≠ [])
    (h : d.get? l = some e) : (l, e) ∈ d.rows := by
  rw [get?_of_ne_nil hl] at h
  obtain ⟨before, after, hrows, -⟩ := List.lookup_eq_some_iff.mp h
  simp [hrows]

/-- Wherever the table has a row, something stands. -/
theorem exists_get?_of_mem_rows {d : Disk} {row : Location × Entry} (h : row ∈ d.rows) :
    ∃ e, d.get? row.1 = some e := by
  by_cases hl : row.1 = []
  · exact ⟨.directory, by rw [hl, get?_nil]⟩
  · rw [get?_of_ne_nil hl]
    refine Option.ne_none_iff_exists'.mp fun hnone => ?_
    simpa using List.lookup_eq_none_iff.mp hnone _ h

/-- The names in a directory are those under which something stands there. -/
theorem mem_children_iff {d : Disk} {dir : Location} {name : Name} :
    name ∈ d.children dir ↔ ∃ e, d.get? (dir ++ [name]) = some e := by
  simp only [children, List.mem_filterMap, Option.ite_none_right_eq_some]
  constructor
  · rintro ⟨row, hrow, hdir, hname⟩
    obtain ⟨front, hl⟩ := List.getLast?_eq_some_iff.mp hname
    rw [hl, List.dropLast_concat] at hdir
    rw [← hdir, ← hl]
    exact exists_get?_of_mem_rows hrow
  · rintro ⟨e, he⟩
    refine ⟨(dir ++ [name], e), mem_rows_of_get? (by simp) he, ?_, ?_⟩
    · exact List.dropLast_concat
    · exact List.getLast?_concat

namespace IsTree

variable {d : Disk}

/-- What stands anywhere stands in a directory. -/
theorem hasDirectory_dropLast (hd : d.IsTree) {l : Location} {e : Entry}
    (h : d.get? l = some e) : d.hasDirectory l.dropLast = true := by
  by_cases hl : l = []
  · subst hl
    rfl
  · exact (hd.rooted _ (mem_rows_of_get? hl h)).2

/-- Everything above an entry is a directory. -/
theorem hasDirectory_of_prefix (hd : d.IsTree) {l m : Location} {e : Entry}
    (h : d.get? m = some e) (hp : l <+: m) (hne : l ≠ m) : d.hasDirectory l = true := by
  obtain ⟨suffix, rfl⟩ := hp
  -- induction on what lies between the two locations, its last name first
  induction suffix using List.reverseRecOn generalizing e with
  | nil => exact absurd (List.append_nil l).symm hne
  | append_singleton rest name ih =>
      have hparent := hd.hasDirectory_dropLast h
      rw [← List.append_assoc, List.dropLast_concat] at hparent
      by_cases hrest : rest = []
      · simpa [hrest] using hparent
      · exact ih (hasDirectory_iff.mp hparent) (by simp [hrest])

theorem proper_of_get? (hd : d.IsTree) {l : Location} {e : Entry} (h : d.get? l = some e)
    {name : Name} (hn : name ∈ l) : Name.IsProper name := by
  have hl : l ≠ [] := List.ne_nil_of_mem hn
  exact hd.proper _ (mem_rows_of_get? hl h) _ hn

theorem link_ne_empty (hd : d.IsTree) {l : Location} {target : Path}
    (h : d.get? l = some (.link target)) : target.bytes ≠ [] := by
  intro hempty
  have hl : l ≠ [] := by
    rintro rfl
    simp at h
  obtain ⟨bytes⟩ := target
  simp only at hempty
  subst hempty
  exact hd.linked _ (mem_rows_of_get? hl h) rfl

/-- No two entries of a directory have the same name. -/
theorem nodup_children (hd : d.IsTree) (dir : Location) : (d.children dir).Nodup := by
  have hlocations : d.children dir = (d.rows.map Prod.fst).filterMap fun l =>
      if l.dropLast = dir then l.getLast? else none := by
    rw [children, List.filterMap_map]
    rfl
  rw [hlocations]
  refine List.Nodup.filterMap (fun l m name hl hm => ?_) hd.unique
  simp only [Option.mem_def, Option.ite_none_right_eq_some] at hl hm
  -- a location is told by its directory and its last name
  obtain ⟨front, rfl⟩ := List.getLast?_eq_some_iff.mp hl.2
  obtain ⟨front', rfl⟩ := List.getLast?_eq_some_iff.mp hm.2
  rw [List.dropLast_concat] at hl hm
  rw [hl.1, hm.1]

/-- **Restriction keeps trees trees**, if with every location its parent is kept. -/
theorem restrict (hd : d.IsTree) {kept : Location → Bool}
    (hk : ∀ l, kept l = true → kept l.dropLast = true ∨ l.dropLast = []) :
    (d.restrict kept).IsTree where
  unique := hd.unique.sublist (List.filter_sublist.map _)
  rooted := by
    rintro ⟨l, e⟩ hrow
    obtain ⟨hrow, hkept⟩ := List.mem_filter.mp hrow
    obtain ⟨hne, hparent⟩ := hd.rooted _ hrow
    refine ⟨hne, ?_⟩
    rw [hasDirectory_iff, get?_restrict]
    have hup := hk l hkept
    rw [if_pos hup.symm]
    exact hasDirectory_iff.mp hparent
  proper := fun row hrow => hd.proper row (List.mem_filter.mp hrow).1
  linked := fun row hrow => hd.linked row (List.mem_filter.mp hrow).1

theorem clear (hd : d.IsTree) (at_ : Location) : (d.clear at_).IsTree := by
  rw [clear_eq]
  refine hd.restrict fun l hl => Or.inl ?_
  simp only [Bool.not_eq_true', ← Bool.not_eq_true, isBelow_iff, not_and, Decidable.not_not]
    at hl ⊢
  intro hp
  -- if the parent lies at or below `at_`, so does `l`, and then `l` is `at_` and not below it
  have hle : at_ <+: l := hp.trans (List.dropLast_prefix l)
  rw [hl hle] at hp ⊢
  exact hp.eq_of_length_le (by simp) |>.symm

theorem erase (hd : d.IsTree) (at_ : Location) : (d.erase at_).IsTree := by
  refine hd.restrict fun l hl => Or.inl ?_
  simp only [Bool.not_eq_true', ← Bool.not_eq_true, List.isPrefixOf_iff_prefix] at hl ⊢
  exact fun hp => hl (hp.trans (List.dropLast_prefix l))

/-- Nothing stands at or below a free location. -/
theorem not_prefix_of_vacant (hd : d.IsTree) {l m : Location} {e : Entry}
    (hl : d.get? l = none) (hm : d.get? m = some e) : ¬ l <+: m := by
  intro hp
  by_cases hne : l = m
  · rw [hne, hm] at hl
    cases hl
  · rw [hasDirectory_iff.mp (hd.hasDirectory_of_prefix hm hp hne)] at hl
    cases hl

/-- An entry at a free location is put beside all others. -/
theorem within_put (hd : d.IsTree) {l : Location} (hne : l ≠ []) (hl : d.get? l = none)
    (e : Entry) : Within d (d.put l e) := by
  intro m e' hm
  refine erase_within_put d hne e m e' ?_
  rw [get?_erase d hne, if_neg (hd.not_prefix_of_vacant hl hm), hm]

/-- **A new entry keeps trees trees**, if it is put into a directory and under a proper name. -/
theorem put (hd : d.IsTree) {dir : Location} {name : Name} {e : Entry}
    (hdir : d.hasDirectory dir = true) (hname : Name.IsProper name) (he : e ≠ .link ⟨[]⟩) :
    (d.put (dir ++ [name]) e).IsTree := by
  have hne : dir ++ [name] ≠ [] := by simp
  have herased := hd.erase (dir ++ [name])
  have hwithin := erase_within_put d hne e
  have hparent := hasDirectory_erase_below hdir name
  -- every row is an old one that erasing has spared or the new one
  refine ⟨?_, ?_, ?_, ?_⟩
  · simp only [Disk.put, List.map_append, List.map_cons, List.map_nil]
    refine List.nodup_append.mpr ⟨herased.unique, by simp, ?_⟩
    rintro m hm m' hm' rfl
    obtain ⟨⟨m, e'⟩, hrow, rfl⟩ := List.mem_map.mp hm
    have hm' : m = dir ++ [name] := List.mem_singleton.mp hm'
    have hkept := (List.mem_filter.mp hrow).2
    have hself := List.isPrefixOf_iff_prefix.mpr (List.prefix_refl (dir ++ [name]))
    simp [hm', hself] at hkept
  · rintro ⟨m, e'⟩ hrow
    rcases List.mem_append.mp hrow with hrow | hrow
    · obtain ⟨hm, hup⟩ := herased.rooted _ hrow
      exact ⟨hm, hwithin.hasDirectory hup⟩
    · obtain ⟨rfl, rfl⟩ := Prod.mk.inj (List.mem_singleton.mp hrow)
      refine ⟨hne, ?_⟩
      rw [List.dropLast_concat]
      exact hwithin.hasDirectory hparent
  · rintro ⟨m, e'⟩ hrow n hn
    rcases List.mem_append.mp hrow with hrow | hrow
    · exact herased.proper _ hrow n hn
    · obtain ⟨rfl, rfl⟩ := Prod.mk.inj (List.mem_singleton.mp hrow)
      rcases List.mem_append.mp hn with hn | hn
      · exact hd.proper_of_get? (hasDirectory_iff.mp hdir) hn
      · rw [List.mem_singleton.mp hn]
        exact hname
  · rintro ⟨m, e'⟩ hrow
    rcases List.mem_append.mp hrow with hrow | hrow
    · exact herased.linked _ hrow
    · obtain ⟨rfl, rfl⟩ := Prod.mk.inj (List.mem_singleton.mp hrow)
      exact he

end IsTree

end Disk

end FreshBuild
