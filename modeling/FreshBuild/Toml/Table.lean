/-
# FreshBuild.Toml.Table — tables while a document is being read.

A table can come into being in three ways, and which one it was decides what may still be added:

* a header names it, and from then on only its own section fills it;
* a longer header implies it, and a header may still name it once;
* a dotted key makes it, and only dotted keys of the same kind fill it.

Braces and square brackets make values that nothing can be added to. An array of tables grows by its
own headers, and every other path through it leads into its last table. Once the document has ended
none of this matters, and `Node.value` forgets it.
-/
import FreshBuild.Toml.Key
import FreshBuild.Toml.Value

namespace FreshBuild.Toml

/-- How a table came into being. -/
inductive Origin where
  | named
  | implied
  | dotted
deriving DecidableEq

/-- An entry of a table that is being read. -/
inductive Node where
  | value (v : Value)
  | table (origin : Origin) (entries : List (String × Node))
  | elements (done : List (List (String × Node))) (last : List (String × Node))

abbrev Entries := List (String × Node)

namespace Entries

/-- The entry with a key. -/
def find? (entries : Entries) (key : String) : Option Node :=
  entries.lookup key

/-- The entries with the one at `key` changed; the order stays. -/
def set (entries : Entries) (key : String) (node : Node) : Entries :=
  entries.map fun (k, n) => if k = key then (k, node) else (k, n)

/-- The entries with a new one at their end. -/
def add (entries : Entries) (key : String) (node : Node) : Entries :=
  entries ++ [(key, node)]

/-- Follows `path` and applies `act` to the table at its end, which sees that table's origin. A
missing table is made: by a dotted key as `dotted`, by a header as `implied`. A dotted key does not
lead into a table that a header has named. -/
def descend (byDots : Bool) (act : Origin → Entries → Option Entries) :
    List String → Origin → Entries → Option Entries
  | [], origin, entries => act origin entries
  | key :: path, _, entries =>
    match entries.find? key with
    | none =>
      let origin := if byDots then Origin.dotted else Origin.implied
      (descend byDots act path origin []).map fun inner => entries.add key (.table origin inner)
    | some (.table origin inner) =>
      if byDots && origin == .named then none
      else (descend byDots act path origin inner).map fun inner =>
        entries.set key (.table origin inner)
    | some (.elements done last) =>
      (descend byDots act path .named last).map fun last => entries.set key (.elements done last)
    | some (.value _) => none

/-- Enters `value` at a key path. The table that receives it was made by dots exactly if the path
has dots; a path through a table that a header implied must not end there. -/
def assign (path : KeyPath) (v : Value) (entries : Entries) : Option Entries :=
  descend true
    (fun origin inner =>
      if (origin == .dotted) == path.front.isEmpty then none
      else match inner.find? path.last with
        | none => some (inner.add path.last (.value v))
        | some _ => none)
    path.front .named entries

/-- Opens the table a header names. A table that was only implied is taken over. -/
def openTable (path : KeyPath) : Entries → Option Entries :=
  descend false
    (fun _ entries =>
      match entries.find? path.last with
      | none => some (entries.add path.last (.table .named []))
      | some (.table .implied inner) => some (entries.set path.last (.table .named inner))
      | some _ => none)
    path.front .named

/-- Opens the next table of the array a doubled header names. -/
def openElement (path : KeyPath) : Entries → Option Entries :=
  descend false
    (fun _ entries =>
      match entries.find? path.last with
      | none => some (entries.add path.last (.elements [] []))
      | some (.elements done last) => some (entries.set path.last (.elements (done ++ [last]) []))
      | some _ => none)
    path.front .named

end Entries

/-! ## The finished tree -/

mutual

/-- The value of an entry once nothing can be added. -/
def Node.finish : Node → Value
  | .value v => v
  | .table _ entries => .table (finishEntries entries)
  | .elements done last => .array (finishTables done ++ [.table (finishEntries last)])

def finishEntries : List (String × Node) → Fields
  | [] => []
  | (key, node) :: rest => (key, node.finish) :: finishEntries rest

def finishTables : List (List (String × Node)) → List Value
  | [] => []
  | entries :: rest => .table (finishEntries entries) :: finishTables rest

end

/-- The table that a list of assignments makes, as braces hold them. -/
def fieldsOf? (assignments : List (KeyPath × Value)) : Option Fields :=
  (assignments.foldlM (fun entries (path, v) => Entries.assign path v entries) []).map finishEntries

end FreshBuild.Toml
