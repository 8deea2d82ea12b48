/-
# FreshBuild.Proofs.Toml.Place — places in a tree, and what stands there.

A place is the way from a value to one of its parts: by a key into a table, by an index into an array.
`at?` looks at a place and `put` writes over it. A change at one place is how one asks whether a reader
of the tree looks there at all.
-/
import FreshBuild.Proofs.Toml.Distinct

namespace FreshBuild.Toml

/-- One step into a value. -/
inductive Branch where
  | field (key : String)
  | item (i : Nat)
deriving DecidableEq

/-- The way to a part of a value. -/
abbrev Place := List Branch

/-- The fields of a table with the values at one key changed. -/
def Fields.onKey (key : String) (f : Value → Value) (fields : Fields) : Fields :=
  fields.map fun field => (field.1, if field.1 = key then f field.2 else field.2)

namespace Value

/-- The part of a value behind one step. -/
def child? : Branch → Value → Option Value
  | .field key, .table fields => fields.lookup key
  | .item i, .array items => items[i]?
  | _, _ => none

/-- What stands at a place. -/
def at? : Place → Value → Option Value
  | [], v => some v
  | b :: rest, v => (v.child? b).bind (at? rest)

/-- The value with the part behind one step changed. -/
def onChild (f : Value → Value) : Branch → Value → Value
  | .field key, .table fields => .table (Fields.onKey key f fields)
  | .item i, .array items => .array (items.modify i f)
  | _, v => v

/-- The value with `w` written over what stands at a place. -/
def put (w : Value) : Place → Value → Value
  | [], _ => w
  | b :: rest, v => v.onChild (put w rest) b

end Value

/-! ## Changes at one key -/

variable {fields : Fields} {key key' : String} {f : Value → Value} {v : Value}

/-- A change of values changes no key. -/
theorem Fields.keys_onKey : (Fields.onKey key f fields).map Prod.fst = fields.map Prod.fst := by
  rw [onKey, List.map_map]
  rfl

theorem Fields.mem_onKey :
    (key', v) ∈ Fields.onKey key f fields ↔
      ∃ v', (key', v') ∈ fields ∧ v = if key' = key then f v' else v' := by
  unfold onKey
  rw [List.mem_map]
  constructor
  · rintro ⟨⟨k, v'⟩, hmem, heq⟩
    obtain ⟨rfl, rfl⟩ := Prod.mk.inj heq
    exact ⟨v', hmem, rfl⟩
  · rintro ⟨v', hmem, rfl⟩
    exact ⟨(key', v'), hmem, rfl⟩

/-! ## Keys stay different -/

theorem wellFormed_onKey (hf : ∀ v, v.WellFormed → (f v).WellFormed)
    (h : (Value.table fields).WellFormed) :
    (Value.table (Fields.onKey key f fields)).WellFormed := by
  refine .table (by rw [Fields.keys_onKey]; exact h.distinct) ?_
  rintro ⟨key', v⟩ hmem
  obtain ⟨v', hmem', rfl⟩ := Fields.mem_onKey.mp hmem
  have hv' : v'.WellFormed := h.field hmem'
  split
  · exact hf v' hv'
  · exact hv'

namespace Value

theorem wellFormed_onChild (hf : ∀ v, v.WellFormed → (f v).WellFormed) (hv : v.WellFormed)
    (b : Branch) : (v.onChild f b).WellFormed := by
  unfold onChild
  split
  · exact wellFormed_onKey hf hv
  · rename_i i items
    cases hv with
    | array all =>
        refine .array fun u hu => ?_
        obtain ⟨j, hj⟩ := List.getElem?_of_mem hu
        rw [List.getElem?_modify] at hj
        obtain ⟨u', hu', rfl⟩ := Option.map_eq_some_iff.mp hj
        have hwell : u'.WellFormed := all u' (List.mem_of_getElem? hu')
        split
        · exact hf u' hwell
        · exact hwell
  · exact hv

/-- What is written into a tree leaves its keys different if its own are. -/
theorem wellFormed_put {w : Value} (hw : w.WellFormed) (hv : v.WellFormed) (place : Place) :
    (put w place v).WellFormed := by
  induction place generalizing v with
  | nil => exact hw
  | cons b rest ih => exact wellFormed_onChild (fun _ hu => ih hu) hv b

end Value

end FreshBuild.Toml
