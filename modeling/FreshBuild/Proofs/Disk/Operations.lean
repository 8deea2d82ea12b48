/-
# FreshBuild.Proofs.Disk.Operations — when the file operations succeed, and with what.

An operation that makes or removes an entry needs the path to end in a name and what precedes the name
to lead to a directory. `EndsIn` is that condition, once for all operations. It survives new entries
(`EndsIn.mono`), and after a removal it either still holds or the path leads nowhere
(`EndsIn.restricted`).

Each operation then has one law in terms of the location the path ends in: `make_eq_ok_iff`,
`EndsIn.inspect_eq`, `EndsIn.removeDir_eq`, `IsTree.enter_eq_ok_iff`. A path whose last name is `.`
is different: it can be looked at but it cannot be removed (`removeDir_here`).
-/
import FreshBuild.Proofs.Disk.Walk

namespace FreshBuild.Disk

/-! ## Handing a path to the machine -/

theorem request_eq {α : Type} {p : Path} (hp : accept p = .ok ()) (act : Except Errno α) :
    request p act = act.mapError .system := by
  rw [request, hp]

theorem request_refused {α : Type} {p : Path} {cause : Cause} (hp : accept p = .error cause)
    (act : Except Errno α) : request p act = .error cause := by
  rw [request, hp]

theorem request_eq_ok_iff {α : Type} {p : Path} {act : Except Errno α} {a : α} :
    request p act = .ok a ↔ accept p = .ok () ∧ act = .ok a := by
  unfold request
  cases accept p with
  | error cause => simp
  | ok u => cases act <;> simp [Except.mapError]

/-- A path can be handed over exactly if it holds no NUL and is short enough. -/
theorem accept_eq_ok_iff {p : Path} :
    accept p = .ok () ↔ 0 ∉ p.bytes ∧ p.bytes.length < pathLimit := by
  unfold accept
  by_cases hnul : p.bytes.contains 0 = true
  · rw [if_pos hnul]
    rw [List.contains_iff_mem] at hnul
    simp [hnul]
  · rw [if_neg hnul]
    rw [List.contains_iff_mem] at hnul
    by_cases hlen : pathLimit ≤ p.bytes.length
    · simp [hlen, Nat.not_lt.mpr hlen]
    · simp [hlen, hnul, Nat.not_le.mp hlen]

theorem accept_of_nul {p : Path} (hnul : 0 ∈ p.bytes) : accept p = .error .nulInPath := by
  rw [accept, if_pos (List.contains_iff_mem.mpr hnul)]

/-! ## Paths that end in a name -/

/-- The path ends in a name that an entry can be made or removed under, and the names before it lead
to `dir`. Nothing is said about what stands there. -/
structure EndsIn (d : Disk) (at_ : Location) (p : Path) (dir : Location) (name : Name) : Prop where
  accepted : accept p = .ok ()
  ne_here : name ≠ Path.here
  ne_up : name ≠ Path.up
  walked : ∃ front left, p.names = front ++ [name] ∧
    d.walk maxLinks (start at_ p) front = .ok (dir, left)

/-- The parent of a path, by its last name. -/
theorem parent_eq {d : Disk} {at_ : Location} {p : Path} {front : List Name} {last : Name}
    {may : Access} (hnames : p.names = front ++ [last]) :
    d.parent at_ p may = (d.walk maxLinks (start at_ p) front may).map fun (dir, _) =>
      (dir, if last = Path.here then Last.here else if last = Path.up then .up else .name last) := by
  rw [parent, if_neg (Path.bytes_ne_nil_of_names (by simp [hnames])), hnames, List.getLast?_concat,
    List.dropLast_concat]

/-- A path without names is the root, which is no name under anything. -/
theorem parent_of_no_names {d : Disk} {at_ : Location} {p : Path} (hnames : p.names = [])
    {dir : Location} {name : Name} : d.parent at_ p ≠ .ok (dir, .name name) := by
  unfold parent
  split
  · simp
  · simp [hnames]

theorem endsIn_iff {d : Disk} {at_ : Location} {p : Path} {dir : Location} {name : Name} :
    d.EndsIn at_ p dir name ↔ accept p = .ok () ∧ d.parent at_ p = .ok (dir, .name name) := by
  constructor
  · rintro ⟨hp, hhere, hup, front, left, hnames, hw⟩
    refine ⟨hp, ?_⟩
    rw [parent_eq hnames, hw]
    simp [Except.map, hhere, hup]
  · rintro ⟨hp, hparent⟩
    rcases List.eq_nil_or_concat p.names with hnames | ⟨front, last, hnames⟩
    · exact absurd hparent (parent_of_no_names hnames)
    · rw [List.concat_eq_append] at hnames
      rw [parent_eq hnames] at hparent
      cases hw : d.walk maxLinks (start at_ p) front with
      | error errno => simp [hw, Except.map] at hparent
      | ok r =>
          obtain ⟨reached, left⟩ := r
          simp only [hw, Except.map, Except.ok.injEq, Prod.mk.injEq] at hparent
          obtain ⟨rfl, hlast⟩ := hparent
          split at hlast
          · cases hlast
          · rename_i hhere
            split at hlast
            · cases hlast
            · rename_i hup
              obtain rfl := Last.name.inj hlast
              exact ⟨hp, hhere, hup, front, left, hnames, hw⟩

namespace EndsIn

variable {d d' : Disk} {at_ dir : Location} {p : Path} {name : Name}

theorem bytes_ne_nil (h : d.EndsIn at_ p dir name) : p.bytes ≠ [] := by
  obtain ⟨front, left, hnames, -⟩ := h.walked
  exact Path.bytes_ne_nil_of_names (by simp [hnames])

theorem parent_eq (h : d.EndsIn at_ p dir name) : d.parent at_ p = .ok (dir, .name name) :=
  (endsIn_iff.mp h).2

/-- A path ends in one place. -/
theorem unique {dir' : Location} {name' : Name} (h : d.EndsIn at_ p dir name)
    (h' : d.EndsIn at_ p dir' name') : dir = dir' ∧ name = name' := by
  obtain ⟨hdir, hname⟩ := Prod.mk.inj (Except.ok.inj (h.parent_eq.symm.trans h'.parent_eq))
  exact ⟨hdir, Last.name.inj hname⟩

/-- New entries do not lead a path away. -/
theorem mono (hdd : Within d d') (h : d.EndsIn at_ p dir name) : d'.EndsIn at_ p dir name := by
  obtain ⟨front, left, hnames, hw⟩ := h.walked
  exact ⟨h.accepted, h.ne_here, h.ne_up, front, left, hnames, walk_mono hdd hw⟩

/-- Under a path that ends in a name and is short enough, an entry is called properly. -/
theorem proper (h : d.EndsIn at_ p dir name) (hshort : name.length ≤ maxName) :
    Name.IsProper name := by
  obtain ⟨front, left, hnames, -⟩ := h.walked
  have hmem : name ∈ p.names := by simp [hnames]
  obtain ⟨hne, hslash⟩ := Path.ne_nil_and_no_slash_of_mem_names hmem
  have hnul : 0 ∉ name := fun hb =>
    (accept_eq_ok_iff.mp h.accepted).1 (Path.mem_bytes_of_mem_names hmem hb)
  exact ⟨hne, hslash, hnul, h.ne_here, h.ne_up, hshort⟩

/-- After a removal the path ends where it ended, or something on the way is missing. -/
theorem restricted (hdd : Within d' d) (h : d.EndsIn at_ p dir name) :
    d'.EndsIn at_ p dir name ∨ d'.parent at_ p = .error .noEntry := by
  obtain ⟨front, left, hnames, hw⟩ := h.walked
  rcases walk_restricted hdd hw with hw' | hw'
  · exact Or.inl ⟨h.accepted, h.ne_here, h.ne_up, front, left, hnames, hw'⟩
  · refine Or.inr ?_
    rw [Disk.parent_eq hnames, hw']
    rfl

end EndsIn

/-! ## Looking -/

theorem inspect_eq_ok_iff {d : Disk} {through : Bool} {at_ l : Location} {p : Path} {e : Entry} :
    d.inspect through at_ p = .ok (l, e) ↔
      accept p = .ok () ∧ d.follow through false maxLinks at_ p = .ok (.entry l e) := by
  rw [inspect, request_eq_ok_iff]
  refine and_congr_right fun _ => ?_
  cases d.follow through false maxLinks at_ p with
  | error errno => simp [bind, Except.bind]
  | ok last => cases last <;> simp [bind, Except.bind, pure, Except.pure, throw, throwThe,
      MonadExceptOf.throw]

/-- Looking at a path that the machine takes. -/
theorem inspect_of_follow {d : Disk} {through : Bool} {at_ : Location} {p : Path} {may : Access}
    (hp : accept p = .ok ()) {r : Except Errno End} :
    d.follow through false maxLinks at_ p may = r →
    d.inspect through at_ p may = match r with
      | .error errno => .error (.system errno)
      | .ok (.entry l e) => .ok (l, e)
      | .ok (.vacant _ _) => .error (.system .noEntry) := by
  intro h
  rw [inspect, request_eq hp, h]
  cases r with
  | error errno => rfl
  | ok last => cases last <;> rfl

/-- A path that asks for a directory does not find anything else. -/
theorem follow_asDirectory {d : Disk} {through asDirectory : Bool} {links : Nat}
    {at_ l : Location} {p : Path} {e : Entry} (hthrough : (through || p.endsInSlash) = true)
    (hask : (asDirectory || p.endsInSlash) = true)
    (h : d.follow through asDirectory links at_ p = .ok (.entry l e)) : e = .directory := by
  induction links using Nat.strongRecOn generalizing through asDirectory at_ p with
  | _ links ih =>
      by_cases hne : p.bytes = []
      · rw [follow_empty hne] at h
        cases h
      rcases List.eq_nil_or_concat p.names with hnames | ⟨front, last, hnames⟩
      · rw [follow_of_no_names hne hnames] at h
        cases h
        rfl
      rw [List.concat_eq_append] at hnames
      cases hw : d.walk links (start at_ p) front with
      | error errno =>
          rw [follow_of_walk_error hne hnames hw] at h
          cases h
      | ok r =>
          obtain ⟨dir, left⟩ := r
          rw [follow_of_walk hne hnames hw] at h
          have hleft : left ≤ links := walk_links_le hw
          simp only [hthrough, hask, if_true] at h
          split at h
          · cases h
            rfl
          split at h
          · cases h
            rfl
          split at h
          · cases h
          split at h
          · cases h
          · cases h
            rfl
          · -- a link: the look-up goes on at its target, and still asks for a directory
            cases left with
            | zero => cases h
            | succ left => exact ih left (by omega) rfl rfl h
          · cases h

/-- Behind a slash, and in front of `.`, links are looked through. -/
theorem follow_through {d : Disk} {asDirectory : Bool} {links : Nat} {at_ : Location} {p : Path}
    (hask : p.AsksForDirectory) (through : Bool) :
    d.follow through asDirectory links at_ p = d.follow true asDirectory links at_ p := by
  by_cases hne : p.bytes = []
  · rw [follow_empty hne, follow_empty hne]
  rcases List.eq_nil_or_concat p.names with hnames | ⟨front, last, hnames⟩
  · rw [follow_of_no_names hne hnames, follow_of_no_names hne hnames]
  rw [List.concat_eq_append] at hnames
  cases hw : d.walk links (start at_ p) front with
  | error errno => rw [follow_of_walk_error hne hnames hw, follow_of_walk_error hne hnames hw]
  | ok r =>
      rw [follow_of_walk hne hnames hw, follow_of_walk hne hnames hw]
      rcases hask with hend | hlast
      · simp only [hend, Bool.or_true]
      · rw [hnames, List.getLast?_concat, Option.some.injEq] at hlast
        rw [if_pos hlast, if_pos hlast]

/-- **A path that asks for a directory is never seen to lead to a link**, only to the directory behind
it or to nothing. -/
theorem inspect_asksForDirectory {d : Disk} {through : Bool} {at_ l : Location} {p : Path}
    {e : Entry} (hask : p.AsksForDirectory) (h : d.inspect through at_ p = .ok (l, e)) :
    e = .directory := by
  obtain ⟨-, hfollow⟩ := inspect_eq_ok_iff.mp h
  rcases hask with hend | hlast
  · exact follow_asDirectory (by simp [hend]) (by simp [hend]) hfollow
  · obtain ⟨front, hnames⟩ := List.getLast?_eq_some_iff.mp hlast
    have hne : p.bytes ≠ [] := Path.bytes_ne_nil_of_names (by simp [hnames])
    cases hw : d.walk maxLinks (start at_ p) front with
    | error errno =>
        rw [follow_of_walk_error hne hnames hw] at hfollow
        cases hfollow
    | ok r =>
        rw [follow_of_walk hne hnames hw, if_pos rfl] at hfollow
        cases hfollow
        rfl

theorem inspect_through {d : Disk} {at_ : Location} {p : Path} (hask : p.AsksForDirectory)
    (through : Bool) : d.inspect through at_ p = d.inspect true at_ p := by
  rw [inspect, inspect, follow_through hask]

namespace EndsIn

variable {d d' : Disk} {at_ dir : Location} {p : Path} {name : Name}

/-- Nothing has a name that is too long. -/
theorem inspect_tooLong (h : d.EndsIn at_ p dir name) (hlong : maxName < name.length)
    (through : Bool) : d.inspect through at_ p = .error (.system .nameTooLong) := by
  obtain ⟨front, left, hnames, hw⟩ := h.walked
  refine inspect_of_follow h.accepted (r := .error .nameTooLong) ?_
  rw [follow_of_walk h.bytes_ne_nil hnames hw, if_neg h.ne_here, if_neg h.ne_up, if_pos hlong]

variable (hshort : name.length ≤ maxName)
include hshort

/-- **Looking at a path without looking through it.** What is seen is what stands under the last name
in the directory that the path leads to. -/
theorem inspect_eq (h : d.EndsIn at_ p dir name) (hslash : p.endsInSlash = false) :
    d.inspect false at_ p = match d.get? (dir ++ [name]) with
      | none => .error (.system .noEntry)
      | some e => .ok (dir ++ [name], e) := by
  obtain ⟨front, left, hnames, hw⟩ := h.walked
  rw [inspect_of_follow h.accepted (follow_of_walk h.bytes_ne_nil hnames hw), if_neg h.ne_here,
    if_neg h.ne_up, if_neg (Nat.not_lt.mpr hshort)]
  cases d.get? (dir ++ [name]) with
  | none => rfl
  | some e => cases e <;> simp [hslash]

/-- A directory is seen whether or not a slash stands behind its name. -/
theorem inspect_directory (h : d.EndsIn at_ p dir name)
    (hget : d.get? (dir ++ [name]) = some .directory) (through : Bool) :
    d.inspect through at_ p = .ok (dir ++ [name], .directory) := by
  obtain ⟨front, left, hnames, hw⟩ := h.walked
  rw [inspect_of_follow h.accepted (follow_of_walk h.bytes_ne_nil hnames hw), if_neg h.ne_here,
    if_neg h.ne_up, if_neg (Nat.not_lt.mpr hshort), hget]

theorem inspect_vacant (h : d.EndsIn at_ p dir name) (hget : d.get? (dir ++ [name]) = none)
    (through : Bool) : d.inspect through at_ p = .error (.system .noEntry) := by
  obtain ⟨front, left, hnames, hw⟩ := h.walked
  rw [inspect_of_follow h.accepted (follow_of_walk h.bytes_ne_nil hnames hw), if_neg h.ne_here,
    if_neg h.ne_up, if_neg (Nat.not_lt.mpr hshort), hget]

end EndsIn

theorem enter_eq_ok_iff_inspect {d : Disk} {at_ l : Location} {p : Path} :
    d.enter at_ p = .ok l ↔ d.inspect true at_ p = .ok (l, .directory) := by
  unfold enter
  cases d.inspect true at_ p with
  | error cause => simp [bind, Except.bind]
  | ok r =>
      obtain ⟨m, e⟩ := r
      cases e <;> simp [bind, Except.bind, pure, Except.pure, throw, throwThe, MonadExceptOf.throw]

theorem enter_eq (d : Disk) (at_ : Location) (p : Path) (may : Access) :
    d.enter at_ p may =
      request p (d.follow true false maxLinks at_ p may >>= End.directory may) := by
  unfold enter inspect request
  cases accept p with
  | error cause => rfl
  | ok u =>
      cases d.follow true false maxLinks at_ p may with
      | error errno => rfl
      | ok last =>
          cases last with
          | vacant dir name => rfl
          | entry l e =>
              cases e with
              | directory =>
                  simp only [bind, Except.bind, pure, Except.pure, Except.mapError, End.directory]
                  cases may l <;> rfl
              | file _ _ | link _ | program _ | null => rfl

/-- **Entering a directory** is walking to it, and it fails as the walk fails. -/
theorem IsTree.enter_eq {d : Disk} (hd : d.IsTree) (at_ : Location) {p : Path} {may : Access}
    (hne : p.bytes ≠ []) :
    d.enter at_ p may = request p ((d.walk maxLinks (start at_ p) p.names may).map Prod.fst) := by
  rw [Disk.enter_eq, hd.follow_bind_directory false hne]

theorem IsTree.enter_eq_ok_iff {d : Disk} (hd : d.IsTree) {at_ l : Location} {p : Path} :
    d.enter at_ p = .ok l ↔ accept p = .ok () ∧ p.bytes ≠ [] ∧
      ∃ left, d.walk maxLinks (start at_ p) p.names = .ok (l, left) := by
  rw [← hd.follow_directory_iff false, ← inspect_eq_ok_iff, enter_eq_ok_iff_inspect]

/-! ## Making -/

/-- **Making an entry.** It succeeds exactly if the path ends in a free name of a directory that is
there; then the entry stands under that name and nothing else is different. -/
theorem make_eq_ok_iff {d d' : Disk} {at_ : Location} {p : Path} {e : Entry} :
    d.make at_ p e = .ok d' ↔ ∃ dir name, d.EndsIn at_ p dir name ∧ name.length ≤ maxName ∧
      d.get? (dir ++ [name]) = none ∧ d.hasDirectory dir = true ∧
        d' = d.put (dir ++ [name]) e := by
  simp only [endsIn_iff]
  rw [make, request_eq_ok_iff]
  cases hparent : d.parent at_ p with
  | error errno => simp [bind, Except.bind]
  | ok r =>
      obtain ⟨dir, last⟩ := r
      cases last with
      | root | here | up => simp [bind, Except.bind, throw, throwThe, MonadExceptOf.throw]
      | name name =>
          simp only [bind, Except.bind, pure, Except.pure, throw, throwThe, MonadExceptOf.throw]
          -- each refusal of `make` is the failure of one condition on the right
          constructor
          · rintro ⟨hp, h⟩
            split at h
            · cases h
            · rename_i hshort
              split at h
              · cases h
              · rename_i hfree
                split at h
                · cases h
                · rename_i hdir
                  refine ⟨dir, name, ⟨hp, rfl⟩, Nat.not_lt.mp hshort, ?_, ?_, ?_⟩
                  · simpa using hfree
                  · simpa using hdir
                  · exact (Except.ok.inj h).symm
          · rintro ⟨dir', name', ⟨hp, heq⟩, hshort, hfree, hdir, rfl⟩
            obtain ⟨rfl, hname⟩ := Prod.mk.inj (Except.ok.inj heq)
            obtain rfl := Last.name.inj hname
            exact ⟨hp, by simp [Nat.not_lt.mpr hshort, hfree, hdir]⟩

/-- A path that leads nowhere cannot be made. -/
theorem make_of_parent_error {d : Disk} {at_ : Location} {p : Path} {e : Entry} {errno : Errno}
    (hp : accept p = .ok ()) (h : d.parent at_ p = .error errno) :
    d.make at_ p e = .error (.system errno) := by
  rw [make, request_eq hp, h]
  rfl

/-! ## Removing -/

/-- **Removing a directory.** What can be removed under a name is a directory that shows no names. -/
theorem EndsIn.removeDir_eq {d : Disk} {at_ dir : Location} {p : Path} {name : Name}
    (h : d.EndsIn at_ p dir name) (hshort : name.length ≤ maxName) :
    d.removeDir at_ p = match d.get? (dir ++ [name]) with
      | none => .error (.system .noEntry)
      | some .directory =>
        if (d.children (dir ++ [name])).isEmpty then .ok (d.erase (dir ++ [name]))
        else .error (.system .notEmpty)
      | some _ => .error (.system .notDirectory) := by
  rw [removeDir, request_eq h.accepted, h.parent_eq]
  simp only [bind, Except.bind, pure, Except.pure, throw, throwThe, MonadExceptOf.throw,
    Nat.not_lt.mpr hshort, if_false]
  cases d.get? (dir ++ [name]) with
  | none => rfl
  | some e =>
      cases e with
      | directory => simp only; split <;> rfl
      | file _ _ | link _ | program _ | null => rfl

theorem removeDir_of_parent_error {d : Disk} {at_ : Location} {p : Path} {errno : Errno}
    (hp : accept p = .ok ()) (h : d.parent at_ p = .error errno) :
    d.removeDir at_ p = .error (.system errno) := by
  rw [removeDir, request_eq hp, h]
  rfl

/-- What a successful removal has removed. -/
theorem removeDir_eq_ok {d d' : Disk} {at_ : Location} {p : Path}
    (h : d.removeDir at_ p = .ok d') : ∃ dir name, d.EndsIn at_ p dir name ∧
      name.length ≤ maxName ∧ d.get? (dir ++ [name]) = some .directory ∧
        d.children (dir ++ [name]) = [] ∧ d' = d.erase (dir ++ [name]) := by
  have hp : accept p = .ok () := by
    rw [removeDir, request_eq_ok_iff] at h
    exact h.1
  cases hparent : d.parent at_ p with
  | error errno => simp [removeDir_of_parent_error hp hparent] at h
  | ok r =>
      obtain ⟨dir, last⟩ := r
      cases last with
      | root | here | up =>
          rw [removeDir, request_eq hp, hparent] at h
          cases h
      | name name =>
          have hends := endsIn_iff.mpr ⟨hp, hparent⟩
          by_cases hshort : name.length ≤ maxName
          · rw [hends.removeDir_eq hshort] at h
            cases hget : d.get? (dir ++ [name]) with
            | none => simp [hget] at h
            | some e =>
                cases e with
                | file _ _ | link _ | program _ | null => simp [hget] at h
                | directory =>
                    simp only [hget] at h
                    split at h
                    · rename_i hempty
                      exact ⟨dir, name, hends, hshort, hget, List.isEmpty_iff.mp hempty,
                        (Except.ok.inj h).symm⟩
                    · cases h
          · rw [removeDir, request_eq hp, hparent] at h
            simp [bind, Except.bind, throw, throwThe, MonadExceptOf.throw, Nat.not_le.mp hshort,
              Except.mapError] at h

/-- The directory itself, named `.`, cannot be removed. -/
theorem removeDir_here {d : Disk} {at_ dir : Location} {p : Path} (hp : accept p = .ok ())
    (h : d.parent at_ p = .ok (dir, .here)) : d.removeDir at_ p = .error (.system .invalid) := by
  rw [removeDir, request_eq hp, h]
  rfl

end FreshBuild.Disk
