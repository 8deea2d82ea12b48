/-
# FreshBuild.Json — JSON text.

The part of JSON that a report needs, with its two layouts. Strings escape the quote, the backslash
and the control characters below U+0020, and nothing else.
-/
import FreshBuild.Digits

namespace FreshBuild

/-- A JSON value without arrays, booleans and fractions. Members keep their order. -/
inductive Json where
  | null
  | number (n : Int)
  | string (text : String)
  | object (members : List (String × Json))

namespace Json

/-! ## Strings -/

/-- A hexadecimal digit, in lower case. -/
def hexDigit (n : Nat) : Char :=
  if n < 10 then Char.ofNat ('0'.toNat + n) else Char.ofNat ('a'.toNat + (n - 10))

/-- A character inside a JSON string. -/
def escapeChar (c : Char) : List Char :=
  if c = '"' then ['\\', '"']
  else if c = '\\' then ['\\', '\\']
  else if c = '\n' then ['\\', 'n']
  else if c = '\r' then ['\\', 'r']
  else if c = '\t' then ['\\', 't']
  else if c = '\x08' then ['\\', 'b']
  else if c = '\x0C' then ['\\', 'f']
  else if c.toNat < 0x20 then
    ['\\', 'u', '0', '0', hexDigit (c.toNat / 16), hexDigit (c.toNat % 16)]
  else [c]

def quote (text : String) : String :=
  "\"" ++ String.ofList (text.toList.flatMap escapeChar) ++ "\""

/-! ## Layouts -/

mutual

/-- The layout on one line. -/
def compact : Json → String
  | .null => "null"
  | .number n => Digits.signedText n
  | .string text => quote text
  | .object members => "\x7b" ++ ",".intercalate (compactMembers members) ++ "\x7d"

def compactMembers : List (String × Json) → List String
  | [] => []
  | (key, value) :: rest => (quote key ++ ":" ++ compact value) :: compactMembers rest

end

/-- A line break followed by `depth` steps of two spaces. -/
def lineBreak (depth : Nat) : String :=
  "\n" ++ String.ofList (List.replicate (2 * depth) ' ')

mutual

/-- The layout with one member a line, indented by two spaces a level; `depth` is the level of the
line the value starts on. An object without members stays on its line. -/
def pretty (depth : Nat) : Json → String
  | .null => "null"
  | .number n => Digits.signedText n
  | .string text => quote text
  | .object [] => "\x7b\x7d"
  | .object members =>
    "\x7b" ++ lineBreak (depth + 1) ++
      ("," ++ lineBreak (depth + 1)).intercalate (prettyMembers (depth + 1) members) ++
      lineBreak depth ++ "\x7d"

def prettyMembers (depth : Nat) : List (String × Json) → List String
  | [] => []
  | (key, value) :: rest => (quote key ++ ": " ++ pretty depth value) :: prettyMembers depth rest

end

end Json

end FreshBuild
