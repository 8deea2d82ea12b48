/-
# FreshBuild.Proofs.Path.Trail — what may stand behind a name in a path.

The components of a path forget slashes and dots. What they forget behind a name is a trail: slashes,
each with one dot behind it at most. A path of one normal component is therefore a name and a trail,
and nothing else (`components_eq_normal_iff_spells`), which is said about the bytes as they stand.

The argument cuts a path at its first slash. There is one such cut (`cut_unique`), what stands before
it is the first name (`names_append_trail`), and what stands behind it is a path again. Bytes and
characters are two alphabets of one notion of spelling, so the notions leave the alphabet open.
-/
import FreshBuild.Proofs.Path.Names

namespace FreshBuild

/-! ## Spellings of a name -/

section Spelling

variable {α : Type} {slash dot : α}

/-- What may stand behind a name and adds no component to it: slashes, each of them with one dot behind
it at most. -/
inductive IsTrail (slash dot : α) : List α → Prop where
  | nil : IsTrail slash dot []
  | slash {trail : List α} (h : IsTrail slash dot trail) : IsTrail slash dot (slash :: trail)
  | slashDot {trail : List α} (h : IsTrail slash dot trail) :
      IsTrail slash dot (slash :: dot :: trail)

/-- A spelling of a name: the name, which is something without a slash and neither one dot nor two,
and a trail. The alphabet is left open; it is bytes or characters. -/
structure SpellsName (slash dot : α) (name spelling : List α) : Prop where
  trail : ∃ trail, spelling = name ++ trail ∧ IsTrail slash dot trail
  ne_nil : name ≠ []
  no_slash : slash ∉ name
  ne_here : name ≠ [dot]
  ne_up : name ≠ [dot, dot]

/-- Nothing stands before the first slash. -/
def StartsAt (slash : α) (xs : List α) : Prop := ∀ x ∈ xs.head?, x = slash

theorem startsAt_cons (slash : α) (xs : List α) : StartsAt slash (slash :: xs) :=
  fun _ hx => (Option.some.inj hx).symm

theorem IsTrail.startsAt {trail : List α} (h : IsTrail slash dot trail) :
    StartsAt slash trail := by
  cases h <;> simp [StartsAt]

/-- Every spelling is cut at its first slash. -/
theorem exists_cut [DecidableEq α] (slash : α) (xs : List α) :
    ∃ front back, xs = front ++ back ∧ slash ∉ front ∧ StartsAt slash back := by
  induction xs with
  | nil => exact ⟨[], [], rfl, by simp, by simp [StartsAt]⟩
  | cons x xs ih =>
      by_cases hx : x = slash
      · exact ⟨[], x :: xs, rfl, by simp, by simp [StartsAt, hx]⟩
      · obtain ⟨front, back, rfl, hfront, hback⟩ := ih
        exact ⟨x :: front, back, rfl, by simp [hfront, Ne.symm hx], hback⟩

/-- There is one first slash. -/
theorem cut_unique {a b c d : List α} (ha : slash ∉ a) (hb : StartsAt slash b) (hc : slash ∉ c)
    (hd : StartsAt slash d) (h : a ++ b = c ++ d) : a = c ∧ b = d := by
  induction a generalizing c with
  | nil =>
      cases c with
      | nil => exact ⟨rfl, h⟩
      | cons x c =>
          -- `x` is the first of `b`
          have hx : x = slash := hb x (by rw [← List.nil_append b, h]; rfl)
          exact absurd List.mem_cons_self (hx ▸ hc)
  | cons x a ih =>
      cases c with
      | nil =>
          have hx : x = slash := hd x (by rw [← List.nil_append d, ← h]; rfl)
          exact absurd List.mem_cons_self (hx ▸ ha)
      | cons y c =>
          obtain ⟨rfl, hrest⟩ := List.cons.inj h
          rw [List.mem_cons, not_or] at ha hc
          obtain ⟨rfl, rfl⟩ := ih ha.2 hc.2 hrest
          exact ⟨rfl, rfl⟩

end Spelling

namespace Path

/-! ## The names of a trail -/

theorem names_slash_cons (bytes : Bytes) : names ⟨slash :: bytes⟩ = names ⟨bytes⟩ :=
  names_append_slash [] bytes

/-- What stands before the first slash is a name. -/
theorem names_append_trail {name back : Bytes} (hne : name ≠ []) (hslash : slash ∉ name)
    (hback : StartsAt slash back) : names ⟨name ++ back⟩ = name :: names ⟨back⟩ := by
  cases back with
  | nil => rw [List.append_nil, names_of_no_slash hne hslash, names_empty]
  | cons b back =>
      obtain rfl : b = slash := hback b rfl
      rw [names_append_slash, names_of_no_slash hne hslash, names_slash_cons, List.singleton_append]

theorem names_of_isTrail {trail : Bytes} (h : IsTrail slash dot trail) :
    ∃ k, names ⟨trail⟩ = List.replicate k here := by
  induction h with
  | nil => exact ⟨0, rfl⟩
  | slash _ ih => rwa [names_slash_cons]
  | @slashDot trail htrail ih =>
      obtain ⟨k, hk⟩ := ih
      have hdot : names ⟨here ++ trail⟩ = here :: names ⟨trail⟩ :=
        names_append_trail (by decide) (by decide) htrail.startsAt
      exact ⟨k + 1, by rw [names_slash_cons, List.replicate_succ, ← hk, ← hdot]; rfl⟩

/-- Nothing but dots between slashes is a trail. -/
theorem isTrail_of_names {bytes : Bytes} (hstart : StartsAt slash bytes)
    (hnames : ∀ name ∈ names ⟨bytes⟩, name = here) : IsTrail slash dot bytes := by
  induction hlen : bytes.length using Nat.strongRecOn generalizing bytes with
  | _ n ih =>
      cases bytes with
      | nil => exact .nil
      | cons b rest =>
          obtain rfl : b = slash := hstart b rfl
          obtain ⟨front, back, rfl, hfront, hback⟩ := exists_cut slash rest
          rw [names_slash_cons] at hnames
          by_cases hempty : front = []
          · subst hempty
            exact .slash (ih _ (by simp [← hlen]) hback hnames rfl)
          · rw [names_append_trail hempty hfront hback] at hnames
            obtain ⟨rfl, hdots⟩ := List.forall_mem_cons.mp hnames
            have hshorter : back.length < (slash :: (here ++ back)).length := by
              rw [List.length_cons, List.length_append]
              omega
            exact .slashDot (ih _ (hlen ▸ hshorter) hback hdots rfl)

/-- **One normal component is what a name is spelled as**, and its trail. -/
theorem components_eq_normal_iff_spells {p : Path} {name : Bytes} :
    p.components = [.normal name] ↔ SpellsName slash dot name p.bytes := by
  obtain ⟨bytes⟩ := p
  rw [components_eq_normal_iff]
  constructor
  · rintro ⟨hrel, hhere, hup, k, hnames⟩
    obtain ⟨front, back, rfl, hfront, hback⟩ := exists_cut slash bytes
    have hne : front ≠ [] := by
      rintro rfl
      cases back with
      | nil => cases hnames
      | cons b back =>
          obtain rfl : b = slash := hback b rfl
          simp [isAbsolute] at hrel
    rw [names_append_trail hne hfront hback] at hnames
    obtain ⟨rfl, hdots⟩ := List.cons.inj hnames
    have htrail : IsTrail slash dot back :=
      isTrail_of_names hback fun n hn => List.eq_of_mem_replicate (hdots ▸ hn)
    exact ⟨⟨back, rfl, htrail⟩, hne, hfront, hhere, hup⟩
  · rintro ⟨⟨trail, rfl, htrail⟩, hne, hslash, hhere, hup⟩
    refine ⟨?_, hhere, hup, ?_⟩
    · obtain ⟨b, rest, rfl⟩ := List.exists_cons_of_ne_nil hne
      rw [Bool.eq_false_iff, ne_eq, isAbsolute_iff]
      rintro ⟨tail, htail⟩
      exact hslash ((List.cons.inj htail).1 ▸ List.mem_cons_self)
    · obtain ⟨k, hk⟩ := names_of_isTrail htrail
      exact ⟨k, by rw [names_append_trail hne hslash htrail.startsAt, hk]⟩

end Path

end FreshBuild
