/-
# FreshBuild.Toml.Document — from a text to its tree.

A document is read in two passes. The first turns the text into statements: headers and assignments,
with their values complete. The second enters the statements into a table one after the other and
refuses the document at the first one that contradicts an earlier one. A text that fails either pass
is no document. Values nest at most eighty deep.
-/
import FreshBuild.Toml.Scalar
import FreshBuild.Toml.Table

namespace FreshBuild.Toml

/-! ## Values -/

/-- The items of a bracketed list, read after the opening bracket or after a comma, up to and with
the bracket `close`. The last item may have a comma after it. -/
def items {α : Type} (item : Reader α) (close : Char) : Nat → Reader (List α)
  | 0, _ => none
  | fuel + 1, s =>
    match skipFiller false s with
    | [] => none
    | c :: rest =>
      if c = close then some ([], rest)
      else match item (c :: rest) with
        | none => none
        | some (v, after) =>
          match skipFiller false after with
          | ',' :: more => (items item close fuel more).map fun (vs, after) => (v :: vs, after)
          | d :: after => if d = close then some ([v], after) else none
          | [] => none

/-- A key, an equals sign and a value; `skip` takes away what may stand around the sign. -/
def assignment (skip : List Char → List Char) (value : Reader Value) :
    Reader (KeyPath × Value) := fun s =>
  match key s with
  | none => none
  | some (path, rest) =>
    match skip rest with
    | '=' :: after => (value (skip after)).map fun (v, rest) => ((path, v), rest)
    | _ => none

/-- A value inside which arrays and braces may nest `depth` deep. Between braces an assignment may
spread over several lines. -/
def value : Nat → Reader Value
  | 0, s =>
    match quotedText s with
    | some (text, rest) => some (.string text, rest)
    | none => scalar s
  | depth + 1, s =>
    match s with
    | '[' :: rest =>
      (items (value depth) ']' (rest.length + 1) rest).map fun (vs, after) => (.array vs, after)
    | '\x7b' :: rest =>
      match items (assignment (skipFiller false) (value depth)) '\x7d' (rest.length + 1) rest with
      | some (assignments, after) =>
        (fieldsOf? assignments).map fun fields => (.table fields, after)
      | none => none
    | _ =>
      match quotedText s with
      | some (text, rest) => some (.string text, rest)
      | none => scalar s

/-- How deep values nest. -/
def maxDepth : Nat := 80

/-! ## Statements -/

/-- A statement of a document. -/
inductive Statement where
  | table (path : KeyPath)
  | element (path : KeyPath)
  | assign (path : KeyPath) (v : Value)

/-- The key of a header, read after its opening brackets, up to the closing ones. -/
def headerKey (close : List Char) : Reader KeyPath := fun s =>
  match key (skipBlanks s) with
  | none => none
  | some (path, rest) =>
    let rest := skipBlanks rest
    if close.isPrefixOf rest then some (path, rest.drop close.length) else none

/-- One statement, without the end of its line. -/
def statement : Reader Statement
  | '[' :: '[' :: rest => (headerKey [']', ']'] rest).map fun (path, after) => (.element path, after)
  | '[' :: rest => (headerKey [']'] rest).map fun (path, after) => (.table path, after)
  | s => (assignment skipBlanks (value maxDepth) s).map fun ((path, v), after) => (.assign path v, after)

/-- The statements of a text, one to a line at most. Every line costs one unit of `fuel`. -/
def statements : Nat → List Char → Option (List Statement)
  | 0, _ => none
  | fuel + 1, s =>
    match skipFiller false s with
    | [] => some []
    | s =>
      match statement s with
      | none => none
      | some (first, rest) =>
        match lineEnd? rest with
        | none => none
        | some rest => (statements fuel rest).map (first :: ·)

/-! ## The tree -/

/-- The table of a document together with the path of the section that is open. -/
structure Draft where
  entries : Entries
  opened : List String

namespace Draft

/-- Enters one statement. -/
def enter (d : Draft) : Statement → Option Draft
  | .table path =>
    (Entries.openTable path d.entries).map fun entries => ⟨entries, path.front ++ [path.last]⟩
  | .element path =>
    (Entries.openElement path d.entries).map fun entries => ⟨entries, path.front ++ [path.last]⟩
  | .assign path v =>
    (Entries.descend false (fun _ inner => Entries.assign path v inner) d.opened .named
      d.entries).map fun entries => { d with entries }

end Draft

/-- The table of a list of statements. -/
def fieldsOfStatements? (ss : List Statement) : Option Fields :=
  (ss.foldlM Draft.enter ⟨[], []⟩).map fun d => finishEntries d.entries

/-- A byte order mark at the front of a text is no part of it. -/
def dropByteOrderMark : List Char → List Char
  | '\uFEFF' :: rest => rest
  | s => s

/-- The table a text denotes, if it is a TOML document. -/
def read? (text : List Char) : Option Fields :=
  let text := dropByteOrderMark text
  (statements (text.length + 1) text).bind fieldsOfStatements?

end FreshBuild.Toml
