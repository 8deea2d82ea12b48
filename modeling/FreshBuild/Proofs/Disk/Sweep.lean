/-
# FreshBuild.Proofs.Disk.Sweep — emptying a directory one entry at a time.

A disk clears a directory in one stroke, by a filter. A machine has no such stroke: it takes away one
entry after the other, each only when it shows no names, and it may be stopped between any two of
them. `Sweep l` is every such course below the location `l`, finished or not.

* A step takes away one entry and nothing else (`Takes`). The entry goes under its own location, so a
  link goes as a link, and where it points to is of no interest.
* A sweep therefore leaves alone whatever does not lie at or below `l` (`Sweep.get?_outside`), no
  matter where it was stopped.
* On a tree the stroke is one of the courses (`sweep_clear`): deepest entries first, there is always
  an entry that shows no names.
-/
import FreshBuild.Proofs.Disk.Tree
import Mathlib.Data.List.MinMax

namespace FreshBuild.Disk

/-! ## Entries with nothing in them -/

/-- On a tree nothing stands anywhere below an entry with nothing in it. -/
theorem IsTree.get?_below_bare {d : Disk} (hd : d.IsTree) {m n : Location}
    (hbare : ∀ name, d.get? (m ++ [name]) = none) (hp : m <+: n) (hne : n ≠ m) :
    d.get? n = none := by
  obtain ⟨suffix, rfl⟩ := hp
  cases suffix with
  | nil => exact absurd (List.append_nil m) hne
  | cons name rest =>
      by_contra hsome
      obtain ⟨e, he⟩ := Option.ne_none_iff_exists'.mp hsome
      have hlead : m ++ [name] <+: m ++ name :: rest := ⟨rest, by simp⟩
      exact hd.not_prefix_of_vacant (hbare name) he hlead

/-! ## One entry at a time -/

/-- From `d` to `d'` the entry at `m`, with nothing in it, is taken away. Everything else stays. -/
structure Takes (m : Location) (d d' : Disk) : Prop where
  stands : ∃ e, d.get? m = some e
  bare : ∀ name, d.get? (m ++ [name]) = none
  others : ∀ n, d'.get? n = if n = m then none else d.get? n

/-- From `d` to `d'` entries at or below `l` are taken away, one after the other. -/
inductive Sweep (l : Location) : Disk → Disk → Prop where
  | done {d d' : Disk} (same : ∀ n, d'.get? n = d.get? n) : Sweep l d d'
  | step {d d₁ d' : Disk} {m : Location} (below : l <+: m) (one : Takes m d d₁)
      (rest : Sweep l d₁ d') : Sweep l d d'

/-- Erasing takes away one entry of a tree, if nothing is in it. -/
theorem IsTree.takes_erase {d : Disk} (hd : d.IsTree) {m : Location} {e : Entry} (hm : m ≠ [])
    (hget : d.get? m = some e) (hbare : ∀ name, d.get? (m ++ [name]) = none) :
    Takes m d (d.erase m) where
  stands := ⟨e, hget⟩
  bare := hbare
  others := by
    intro n
    rw [get?_erase d hm]
    by_cases hn : n = m
    · simp [hn]
    · by_cases hp : m <+: n
      · simp [hn, hp, hd.get?_below_bare hbare hp hn]
      · simp [hn, hp]

namespace Sweep

variable {l : Location} {d d' d'' : Disk}

theorem refl (l : Location) (d : Disk) : Sweep l d d := .done fun _ => rfl

/-- A sweep knows of a disk only what stands where. -/
theorem of_same (hsame : ∀ n, d.get? n = d'.get? n) (h : Sweep l d' d'') : Sweep l d d'' := by
  cases h with
  | done same => exact .done fun n => (same n).trans (hsame n).symm
  | step below one rest =>
      obtain ⟨⟨e, hget⟩, hbare, hothers⟩ := one
      refine .step below ⟨⟨e, (hsame _).trans hget⟩, ?_, ?_⟩ rest
      · exact fun name => (hsame _).trans (hbare name)
      · intro n
        rw [hothers n, hsame n]

theorem trans (h : Sweep l d d') (h' : Sweep l d' d'') : Sweep l d d'' := by
  induction h with
  | done same => exact h'.of_same fun n => (same n).symm
  | step below one _ ih => exact .step below one (ih h')

/-- **A sweep stays inside.** What does not lie at or below `l` is left alone, however far the sweep
has got. -/
theorem get?_outside (h : Sweep l d d') {n : Location} (hn : ¬ l <+: n) :
    d'.get? n = d.get? n := by
  induction h with
  | done same => exact same n
  | @step d d₁ d' m below one _ ih =>
      have hne : n ≠ m := by
        rintro rfl
        exact hn below
      rw [ih, one.others n, if_neg hne]

end Sweep

/-! ## Sweeping a whole directory -/

/-- The rows strictly below a location. -/
def rowsBelow (d : Disk) (l : Location) : List (Location × Entry) :=
  d.rows.filter fun (m, _) => isBelow l m

theorem mem_rowsBelow {d : Disk} {l : Location} {row : Location × Entry} :
    row ∈ d.rowsBelow l ↔ row ∈ d.rows ∧ l <+: row.1 ∧ row.1 ≠ l := by
  rw [rowsBelow, List.mem_filter, isBelow_iff]

/-- Where there are entries below a location, one of them has nothing in it. -/
theorem exists_bare_below {d : Disk} {l : Location} (h : d.rowsBelow l ≠ []) :
    ∃ row ∈ d.rowsBelow l, ∀ name, d.get? (row.1 ++ [name]) = none := by
  -- the entry with the longest location is one
  obtain ⟨row, hrow⟩ := Option.ne_none_iff_exists'.mp
    (mt (List.argmax_eq_none (f := fun row : Location × Entry => row.1.length)).mp h)
  have hmem := List.argmax_mem hrow
  obtain ⟨-, hbelow, -⟩ := mem_rowsBelow.mp hmem
  refine ⟨row, hmem, fun name => ?_⟩
  by_contra hsome
  obtain ⟨e, he⟩ := Option.ne_none_iff_exists'.mp hsome
  have hdeeper : (row.1 ++ [name], e) ∈ d.rowsBelow l := by
    refine mem_rowsBelow.mpr ⟨mem_rows_of_get? (by simp) he, hbelow.trans ⟨[name], rfl⟩, ?_⟩
    intro heq
    have hlen := hbelow.length_le
    rw [← heq, List.length_append, List.length_singleton] at hlen
    omega
  have hlongest := List.le_of_mem_argmax hdeeper hrow
  rw [List.length_append, List.length_singleton] at hlongest
  exact absurd hlongest (Nat.not_succ_le_self _)

/-- Erasing an entry leaves fewer rows below every location above it. -/
theorem length_rowsBelow_erase {d : Disk} {l : Location} {row : Location × Entry}
    (h : row ∈ d.rowsBelow l) : ((d.erase row.1).rowsBelow l).length < (d.rowsBelow l).length := by
  have hcomm : (d.erase row.1).rowsBelow l =
      (d.rowsBelow l).filter fun (m, _) => !row.1.isPrefixOf m := by
    rw [rowsBelow, rowsBelow, List.filter_filter, erase, restrict, List.filter_filter]
    exact List.filter_congr fun _ _ => Bool.and_comm _ _
  rw [hcomm, List.length_filter_lt_length_iff_exists]
  exact ⟨row, h, by simp⟩

/-- **Clearing a directory is a sweep.** -/
theorem sweep_clear {d : Disk} (hd : d.IsTree) (l : Location) : Sweep l d (d.clear l) := by
  -- induction on the number of entries that are left below `l`
  induction hcount : (d.rowsBelow l).length using Nat.strongRecOn generalizing d with
  | _ count ih =>
      subst hcount
      by_cases hrows : d.rowsBelow l = []
      · refine .done fun n => ?_
        rw [get?_clear]
        split
        · rename_i hn
          by_contra hsome
          obtain ⟨e, he⟩ := Option.ne_none_iff_exists'.mp (Ne.symm hsome)
          have hne : n ≠ [] := by
            rintro rfl
            exact hn.2 (List.prefix_nil.mp hn.1).symm
          have hmem := mem_rowsBelow.mpr ⟨mem_rows_of_get? hne he, hn⟩
          simp [hrows] at hmem
        · rfl
      · obtain ⟨row, hrow, hbare⟩ := exists_bare_below hrows
        obtain ⟨hmem, hbelow, hne⟩ := mem_rowsBelow.mp hrow
        have hnil : row.1 ≠ [] := (hd.rooted row hmem).1
        obtain ⟨e, hget⟩ := exists_get?_of_mem_rows hmem
        have hrest := ih _ (length_rowsBelow_erase hrow) (hd.erase row.1) rfl
        refine .step hbelow (hd.takes_erase hnil hget hbare) (hrest.trans (.done fun n => ?_))
        -- what is erased first would have been cleared anyway
        rw [get?_clear, get?_clear, get?_erase d hnil]
        by_cases hp : row.1 <+: n
        · have hn : n ≠ l := by
            rintro rfl
            exact hne (hp.eq_of_length_le hbelow.length_le)
          simp [hbelow.trans hp, hn]
        · simp [hp]

/-- A directory that has been cleared can be taken away. -/
theorem takes_erase_clear {d : Disk} {l : Location} (hl : l ≠ [])
    (hget : d.get? l = some .directory) : Takes l (d.clear l) ((d.clear l).erase l) where
  stands := ⟨.directory, by rw [get?_clear, if_neg (by simp), hget]⟩
  bare := fun name => by rw [get?_clear, if_pos ⟨⟨[name], rfl⟩, by simp⟩]
  others := by
    intro n
    rw [get?_erase _ hl, get?_clear]
    by_cases hn : n = l
    · simp [hn]
    · by_cases hp : l <+: n <;> simp [hn, hp]

end FreshBuild.Disk
