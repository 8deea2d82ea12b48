/-
# FreshBuild.Toml.Key — keys.

A key is a path of one or more simple keys with dots between them. A path leads through the tables
named by its front to the entry named by its last key.
-/
import FreshBuild.Toml.Text

namespace FreshBuild.Toml

/-- A key path: the tables on the way, and the entry in the last of them. -/
structure KeyPath where
  front : List String
  last : String
deriving DecidableEq

def isBare (c : Char) : Bool := c.isAlphanum || c == '_' || c == '-'

/-- A simple key: bare, or quoted on one line. Only a quoted key can be empty. -/
def simpleKey : Reader String := fun s =>
  match s.takeWhile isBare with
  | [] => lineText s
  | name => some (String.ofList name, s.dropWhile isBare)

/-- A key path of at most `limit` dots, with blanks allowed around them. -/
def keyPath (limit : Nat) : Reader KeyPath := fun s =>
  match simpleKey s with
  | none => none
  | some (key, rest) =>
    match skipBlanks rest with
    | '.' :: after =>
      match limit with
      | 0 => none
      | limit + 1 =>
        (keyPath limit (skipBlanks after)).map fun (path, rest) =>
          ({ path with front := key :: path.front }, rest)
    | _ => some (⟨[], key⟩, rest)

/-- A key has at most eighty names. -/
def key : Reader KeyPath := keyPath 79

end FreshBuild.Toml
