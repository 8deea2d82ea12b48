/-
# FreshBuild.Toml.Text — quoted text.

There are four kinds of quoted text: basic or literal, on one line or on several. Basic text knows
escapes; the text on several lines loses a line end right after its opening quotes, may hold up to
two quotes in a row, and may hold up to two more right before the closing ones. A line end inside it
is kept as it is written.
-/
import FreshBuild.Digits
import FreshBuild.Toml.Blanks

namespace FreshBuild.Toml

/-! ## Escapes -/

/-- The character with a given code point; surrogates and values above U+10FFFF have none. -/
def charOfCode? (n : Nat) : Option Char :=
  if h : n.isValidChar then some (Char.ofNatAux n h) else none

/-- A character written as exactly `width` hexadecimal digits. -/
def hexChar (width : Nat) : Reader Char := fun s =>
  let digits := s.take width
  if digits.length = width then
    ((Digits.value? 16 digits).bind charOfCode?).map (·, s.drop width)
  else none

/-- An escape, read after its backslash. -/
def escape : Reader Char
  | 'b' :: rest => some ('\x08', rest)
  | 't' :: rest => some ('\t', rest)
  | 'n' :: rest => some ('\n', rest)
  | 'f' :: rest => some ('\x0C', rest)
  | 'r' :: rest => some ('\r', rest)
  | 'e' :: rest => some ('\x1B', rest)
  | '"' :: rest => some ('"', rest)
  | '\\' :: rest => some ('\\', rest)
  | 'x' :: rest => hexChar 2 rest
  | 'u' :: rest => hexChar 4 rest
  | 'U' :: rest => hexChar 8 rest
  | _ => none

theorem hexChar_shorter {width : Nat} {s rest : List Char} {c : Char}
    (h : hexChar width s = some (c, rest)) : rest.length ≤ s.length := by
  simp only [hexChar] at h
  split at h
  · obtain ⟨_, _, h⟩ := Option.map_eq_some_iff.1 h
    simp only [Prod.mk.injEq] at h
    simp [← h.2]
  · simp at h

/-- An escape takes at least one character, so a reader of basic text comes to an end. -/
theorem escape_shorter {s rest : List Char} {c : Char} (h : escape s = some (c, rest)) :
    rest.length < s.length := by
  unfold escape at h
  split at h
  case h_9 | h_10 | h_11 => exact Nat.lt_succ_of_le (hexChar_shorter h)
  case h_12 => simp at h
  all_goals
    simp only [Option.some.injEq, Prod.mk.injEq] at h
    simp [← h.2]

/-! ## Text on one line -/

/-- Basic text, read after its opening quote. -/
def basicTail (s : List Char) : Option (List Char × List Char) :=
  match s with
  | [] => none
  | c :: rest =>
    if c = '"' then some ([], rest)
    else if c = '\\' then
      match _h : escape rest with
      | some (d, rest') => (basicTail rest').map fun (text, after) => (d :: text, after)
      | none => none
    else if isPlain c then (basicTail rest).map fun (text, after) => (c :: text, after)
    else none
termination_by s.length
decreasing_by
  · have := escape_shorter _h
    simp; omega
  · simp

/-- Literal text, read after its opening quote. -/
def literalTail : List Char → Option (List Char × List Char)
  | [] => none
  | c :: rest =>
    if c = '\'' then some ([], rest)
    else if isPlain c then (literalTail rest).map fun (text, after) => (c :: text, after)
    else none

/-! ## Text on several lines -/

/-- The text after one line end, if the text starts with one. -/
def dropNewline (s : List Char) : List Char := (newline? s).getD s

/-- What `seen` quotes in a row before `rest` stand for: up to two are text, three to five close the
text and leave the ones in front of the last three in it. -/
def closing (quote : Char) (seen : Nat) (rest : List Char) : Option (List Char × List Char) :=
  if 3 ≤ seen ∧ seen ≤ 5 then some (List.replicate (seen - 3) quote, rest) else none

/-- A backslash at the end of a line, read after the backslash: it swallows the line end and all
blanks and line ends that follow. -/
def continuation? (s : List Char) : Option (List Char) :=
  (newline? (skipBlanks s)).map skipBlankLines

/-- Text on several lines, read after its opening quotes; `escapes` tells basic from literal text
and `seen` counts the quotes just met. Each character costs at most one unit of `fuel`. -/
def multilineTail (quote : Char) (escapes : Bool) :
    Nat → Nat → List Char → Option (List Char × List Char)
  | 0, _, _ => none
  | _, seen, [] => closing quote seen []
  | fuel + 1, seen, c :: rest =>
    if c = quote then multilineTail quote escapes fuel (seen + 1) rest
    else if 3 ≤ seen then closing quote seen (c :: rest)
    else
      let more (front : List Char) (after : List Char) :=
        (multilineTail quote escapes fuel 0 after).map fun (text, after) =>
          (List.replicate seen quote ++ front ++ text, after)
      if c = '\\' && escapes then
        match continuation? rest with
        | some after => more [] after
        | none => match escape rest with
          | some (d, after) => more [d] after
          | none => none
      else match newline? (c :: rest) with
        | some after => more ((c :: rest).take ((c :: rest).length - after.length)) after
        | none => if isPlain c then more [c] rest else none

/-! ## All four kinds -/

/-- Quoted text on one line. -/
def lineText : Reader String
  | '"' :: rest => (basicTail rest).map fun (text, after) => (String.ofList text, after)
  | '\'' :: rest => (literalTail rest).map fun (text, after) => (String.ofList text, after)
  | _ => none

/-- Quoted text of any kind. -/
def quotedText : Reader String
  | '"' :: '"' :: '"' :: rest =>
    (multilineTail '"' true (rest.length + 1) 0 (dropNewline rest)).map
      fun (text, after) => (String.ofList text, after)
  | '\'' :: '\'' :: '\'' :: rest =>
    (multilineTail '\'' false (rest.length + 1) 0 (dropNewline rest)).map
      fun (text, after) => (String.ofList text, after)
  | s => lineText s

end FreshBuild.Toml
