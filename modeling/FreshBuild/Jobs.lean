/-
# FreshBuild.Jobs — how many parallel jobs the build tool is asked for.

A job count is a positive 64-bit number, or `auto` for one job per hardware thread. The positive
number is carried in the type, so no later stage has to ask about zero again.
-/
import FreshBuild.Digits
import FreshBuild.Text.Blank

namespace FreshBuild

/-- A job count: a positive word, or one job per hardware thread. -/
inductive Jobs where
  | fixed (count : UInt64) (ne_zero : count ≠ 0)
  | auto
deriving DecidableEq

/-- Why a text or a number is no job count. -/
inductive JobsError where
  | zero
  | invalid (text : String)
deriving DecidableEq

namespace JobsError

def message : JobsError → String
  | .zero => "jobs must be at least 1"
  | .invalid text =>
    "invalid jobs value \x60" ++ text ++ "\x60 (expected a positive integer or \x60auto\x60)"

end JobsError

namespace Jobs

/-- The job count that nothing overrides. -/
def standard : Jobs := .fixed 6 (by decide)

/-- A number as a job count. -/
def ofCount (n : UInt64) : Except JobsError Jobs :=
  if h : n = 0 then .error .zero else .ok (.fixed n h)

/-- A numeral of a job count: one plus sign at most, then decimal digits whose value is a word. -/
def count? (cs : List Char) : Option UInt64 :=
  let digits := match cs with
    | '+' :: rest => rest
    | _ => cs
  match Digits.value? 10 digits with
  | some n => if n < UInt64.size then some (UInt64.ofNat n) else none
  | none => none

/-- A text as a job count. White space around it and the letter case of `auto` do not matter; an
invalid text is quoted as it was given, with its white space. -/
def parse (text : String) : Except JobsError Jobs :=
  let trimmed := Blank.trim text.toList
  if trimmed.map Char.toLower = ['a', 'u', 't', 'o'] then .ok .auto
  else match count? trimmed with
    | some n => ofCount n
    | none => .error (.invalid text)

/-- A signed number as a job count. A negative one is refused in the words for an invalid text. -/
def ofInt (n : Int64) : Except JobsError Jobs :=
  if n < 0 then .error (.invalid (Digits.signedText n.toInt))
  else ofCount n.toUInt64

/-- The text of a job count, which `parse` reads back. -/
def text : Jobs → String
  | .fixed count _ => Digits.text count.toNat
  | .auto => "auto"

/-- The number of jobs on a machine with `threads` hardware threads. A machine that cannot tell
reports zero threads and gets one job. -/
def resolve (threads : Nat) : Jobs → Nat
  | .fixed count _ => count.toNat
  | .auto => max threads 1

end Jobs

end FreshBuild
