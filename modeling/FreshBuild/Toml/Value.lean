/-
# FreshBuild.Toml.Value — the tree a TOML document denotes.

The tree forgets how it was written: whether a table came from a header, a dotted key or braces, and
which quotes a string had. Numbers keep their exact value. An integer may be of any size and a float
is the decimal that was written; whether either fits a machine number is for its reader to judge.
-/

namespace FreshBuild.Toml

/-- A float as written: not a number, an infinity, or `± digits · 10 ^ exponent`. -/
inductive Decimal where
  | nan
  | infinite (negative : Bool)
  | finite (negative : Bool) (digits : Nat) (exponent : Int)
deriving DecidableEq

/-- A TOML value. The fields of a table have pairwise different keys. A garbled value is written like
an integer and denotes none. -/
inductive Value where
  | string (text : String)
  | integer (n : Int)
  | garbled (word : String)
  | float (x : Decimal)
  | boolean (b : Bool)
  | moment (text : String)
  | array (items : List Value)
  | table (fields : List (String × Value))

/-- The fields of a table, in the order they were first written. -/
abbrev Fields := List (String × Value)

end FreshBuild.Toml
