/-
# FreshBuild.Proofs.Toml.Alike — trees that mean the same.

A tree keeps the fields of a table in the order in which they were written, and a float digit by digit.
Neither is part of what a document says. `Value.Alike` is equality up to both: tables with the same keys
and alike values under each of them, and floats that are one machine float. Moments and words that
denote nothing are all taken for alike, since nobody asks which one it is; a law about alike trees only
gains by that.
-/
import FreshBuild.Decimal.Shortest
import FreshBuild.Proofs.Toml.Distinct

namespace FreshBuild.Toml

/-- The two are one machine float, or both are beyond the finite ones on the same side. -/
inductive Decimal.Alike : Decimal → Decimal → Prop where
  | nan : Alike .nan .nan
  | infinite (negative : Bool) : Alike (.infinite negative) (.infinite negative)
  | finite (negative : Bool) {digits digits' : Nat} {exponent exponent' : Int}
      (h : FreshBuild.Decimal.ofDecimal? digits exponent =
        FreshBuild.Decimal.ofDecimal? digits' exponent') :
      Alike (.finite negative digits exponent) (.finite negative digits' exponent')

theorem Decimal.Alike.refl (x : Decimal) : x.Alike x := by
  cases x with
  | nan => exact .nan
  | infinite negative => exact .infinite negative
  | finite negative digits exponent => exact .finite negative rfl

/-- Two trees mean the same. -/
inductive Value.Alike : Value → Value → Prop where
  | string (text : String) : Alike (.string text) (.string text)
  | integer (n : Int) : Alike (.integer n) (.integer n)
  | garbled (word word' : String) : Alike (.garbled word) (.garbled word')
  | float {x y : Decimal} (h : x.Alike y) : Alike (.float x) (.float y)
  | boolean (b : Bool) : Alike (.boolean b) (.boolean b)
  | moment (text text' : String) : Alike (.moment text) (.moment text')
  | array {vs ws : List Value} (length : vs.length = ws.length)
      (items : ∀ (i : Nat) (v w : Value), vs[i]? = some v → ws[i]? = some w → Alike v w) :
      Alike (.array vs) (.array ws)
  | table {fs gs : Fields} (keys : ∀ key, key ∈ fs.map Prod.fst ↔ key ∈ gs.map Prod.fst)
      (values : ∀ key v w, (key, v) ∈ fs → (key, w) ∈ gs → Alike v w) :
      Alike (.table fs) (.table gs)

variable {v w : Value} {fs gs : Fields} {key : String}

/-- Where keys do not repeat, a key has one value. -/
theorem eq_of_distinct (distinct : (fs.map Prod.fst).Nodup) (hv : (key, v) ∈ fs)
    (hw : (key, w) ∈ fs) : v = w := by
  have hsame := List.inj_on_of_nodup_map distinct hv hw rfl
  exact congrArg Prod.snd hsame

theorem Value.WellFormed.alike (h : v.WellFormed) : v.Alike v := by
  induction h with
  | string text => exact .string text
  | integer n => exact .integer n
  | garbled word => exact .garbled word word
  | float x => exact .float (.refl x)
  | boolean b => exact .boolean b
  | moment text => exact .moment text text
  | array all ih =>
      refine .array rfl fun i v w hv hw => ?_
      obtain rfl := Option.some.inj (hv.symm.trans hw)
      exact ih v (List.mem_of_getElem? hv)
  | table distinct all ih =>
      refine .table (fun _ => Iff.rfl) fun key v w hv hw => ?_
      obtain rfl := eq_of_distinct distinct hv hw
      exact ih _ hv

/-- The order of the fields is no part of what a table means. -/
theorem alike_of_perm (h : (Value.table fs).WellFormed) (hperm : fs.Perm gs) :
    (Value.table fs).Alike (.table gs) := by
  refine .table (fun key => (hperm.map Prod.fst).mem_iff) fun key v w hv hw => ?_
  obtain rfl := eq_of_distinct h.distinct hv (hperm.mem_iff.mpr hw)
  exact (h.field hv).alike

end FreshBuild.Toml
