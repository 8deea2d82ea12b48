/-
# FreshBuild.Text.Regex — regular expressions on bytes.

An expression is matched by following all the ways in which it can match from one place at once: a
state tells how far a way has come and what its groups hold, and of the states that have come equally
far only the first is kept. The match of an expression is the longest one at the first place that has
any.

Expressions are written in two grammars. In the basic one an operator is a backslash and a sign, in
the extended one the sign alone.
-/
import FreshBuild.Text.ByteSet
import FreshBuild.Text.Numeral

namespace FreshBuild

/-- A regular expression. -/
inductive Regex where
  | empty
  | set (s : ByteSet)
  | lineStart
  | lineEnd
  | wordStart
  | wordEnd
  | wordEdge (there : Bool)
  | seq (a b : Regex)
  | alt (a b : Regex)
  | group (n : Nat) (r : Regex)
  | repeated (r : Regex) (least : Nat) (most : Option Nat)
  | again (group : Nat)
deriving DecidableEq

namespace Regex

/-! ## Matching -/

/-- How far a match has come: the byte behind it, the bytes ahead, how many it has passed, and where
its groups begin and end. -/
structure State where
  before : Option UInt8
  ahead : Bytes
  passed : Nat
  groups : List (Nat × Nat × Nat)

def State.step (s : State) : Option State :=
  match s.ahead with
  | b :: rest => some { s with before := some b, ahead := rest, passed := s.passed + 1 }
  | [] => none

def State.steps (s : State) : Nat → State
  | 0 => s
  | n + 1 => ((s.step).getD s).steps n

/-- The states without those that have come as far as one before them. -/
def firstOfEach (states : List State) : List State :=
  states.foldr (fun s kept => s :: kept.filter (·.passed != s.passed)) []

/-- Repeats a part: at least `least` times, at most so often as is allowed, and as long as it moves
ahead. More repetitions come first. -/
def repeatStep (step : State → List State) : Nat → Nat → Option Nat → State → List State
  | 0, _, _, s => [s]
  | fuel + 1, least, most, s =>
    if most = some 0 then [s]
    else
      let next := (step s).filter fun s' => s'.passed != s.passed || 0 < least
      let further := next.flatMap (repeatStep step fuel (least - 1) (most.map (· - 1)))
      firstOfEach (if least = 0 then further ++ [s] else further)

/-- The bytes of a group, as the whole text shows them. -/
def groupText (text : Bytes) (s : State) (n : Nat) : Bytes :=
  match s.groups.lookup n with
  | some (start, stop) => (text.drop start).take (stop - start)
  | none => []

/-- All ways to match an expression from a state on. -/
def run (text : Bytes) : Regex → State → List State
  | .empty, s => [s]
  | .set members, s =>
    match s.ahead.head? with
    | some b => if members.contains b then s.step.toList else []
    | none => []
  | .lineStart, s => if s.passed = 0 then [s] else []
  | .lineEnd, s => if s.ahead = [] then [s] else []
  | .wordStart, s =>
    if !s.before.any ByteSet.word.contains && s.ahead.head?.any ByteSet.word.contains then [s] else []
  | .wordEnd, s =>
    if s.before.any ByteSet.word.contains && !s.ahead.head?.any ByteSet.word.contains then [s] else []
  | .wordEdge there, s =>
    let edge := s.before.any ByteSet.word.contains != s.ahead.head?.any ByteSet.word.contains
    if edge = there then [s] else []
  | .seq a b, s => firstOfEach ((run text a s).flatMap (run text b))
  | .alt a b, s => firstOfEach (run text a s ++ run text b s)
  | .group n r, s =>
    (run text r s).map fun s' => { s' with groups := (n, s.passed, s'.passed) :: s'.groups }
  | .repeated r least most, s => repeatStep (run text r) (s.ahead.length + least + 1) least most s
  | .again n, s =>
    let wanted := groupText text s n
    if (s.groups.lookup n).isSome && wanted.isPrefixOf s.ahead then [s.steps wanted.length] else []

/-- A match: where it begins and ends, and its groups. -/
structure Match where
  start : Nat
  stop : Nat
  state : State

/-- The longest match that begins at a place. -/
def matchAt? (r : Regex) (text : Bytes) (place : Nat) : Option Match :=
  let s : State := ⟨if place = 0 then none else text[place - 1]?, text.drop place, place, []⟩
  let longest := (run text r s).foldl (fun (best : Option State) s =>
    if best.all (·.passed < s.passed) then some s else best) none
  longest.map fun s => ⟨place, s.passed, s⟩

/-- The first match from a place on. -/
def find? (r : Regex) (text : Bytes) (place : Nat) : Option Match :=
  (List.range (text.length + 1 - place)).findSome? fun n => r.matchAt? text (place + n)

/-! ## Letter case -/

/-- The expression without regard to letter case. -/
def foldCase : Regex → Regex
  | .set s =>
    let inner : ByteSet := { s with negated := false }
    let both := (List.range 256).filterMap fun n =>
      let b := UInt8.ofNat n
      if inner.contains b || inner.contains (ByteSet.otherCase b) then some (b, b) else none
    .set ⟨s.negated, both⟩
  | .seq a b => .seq (foldCase a) (foldCase b)
  | .alt a b => .alt (foldCase a) (foldCase b)
  | .group n r => .group n (foldCase r)
  | .repeated r least most => .repeated (foldCase r) least most
  | r => r

/-! ## Reading -/

/-- Why a text is no expression. -/
inductive Flaw where
  | openGroup
  | closeGroup
  | openBracket
  | openBrace
  | badBrace
  | badRepeat
  | badGroup
  | lastBackslash
deriving DecidableEq

/-- The words for a flaw. -/
def Flaw.text : Flaw → String
  | .openGroup => "Unmatched ( or \\("
  | .closeGroup => "Unmatched ) or \\)"
  | .openBracket => "Unmatched [, [^, [:, [., or [="
  | .openBrace => "Unmatched \\\x7b"
  | .badBrace => "Invalid content of \\\x7b\\\x7d"
  | .badRepeat => "Invalid preceding regular expression"
  | .badGroup => "Invalid back reference"
  | .lastBackslash => "Trailing backslash"

/-- A sign of an expression, with its backslash already accounted for. -/
inductive Sign where
  | part (r : Regex)
  | star
  | plus
  | perhaps
  | brace
  | opening
  | closing
  | bar
  | caret
  | dollar

/-- The first sign of a text; `extended` tells the grammar. -/
def sign? (extended : Bool) : Bytes → Except Flaw (Sign × Bytes)
  | [] => .ok (.part .empty, [])
  | b :: rest =>
    let operator (escaped : Bool) (b : UInt8) : Option Sign :=
      if escaped = extended then none
      else match Char.ofNat b.toNat with
        | '(' => some .opening
        | ')' => some .closing
        | '|' => some .bar
        | '\x7b' => some .brace
        | '+' => some .plus
        | '?' => some .perhaps
        | _ => none
    if b = 0x5C then
      match rest with
      | [] => .error .lastBackslash
      | c :: rest =>
        match operator true c with
        | some sign => .ok (sign, rest)
        | none =>
          let part : Regex := match Char.ofNat c.toNat with
            | 'w' => .set ByteSet.word
            | 'W' => .set ByteSet.word.complement
            | 's' => .set ByteSet.space
            | 'S' => .set ByteSet.space.complement
            | 'b' => .wordEdge true
            | 'B' => .wordEdge false
            | '<' => .wordStart
            | '>' => .wordEnd
            | '\x60' => .lineStart
            | '\'' => .lineEnd
            | 'n' => .set (.single 0x0A)
            | 't' => .set (.single 0x09)
            | d => if '1' ≤ d && d ≤ '9' then .again (d.toNat - '0'.toNat) else .set (.single c)
          .ok (.part part, rest)
    else match operator false b with
      | some sign => .ok (sign, rest)
      | none =>
        if b = 0x2A then .ok (.star, rest)
        else if b = 0x5E then .ok (.caret, rest)
        else if b = 0x24 then .ok (.dollar, rest)
        else if b = 0x2E then .ok (.part (.set ⟨true, [(0x00, 0x00)]⟩), rest)
        else if b = 0x5B then
          match ByteSet.read? [0x5E] rest with
          | some (members, rest) => .ok (.part (.set members), rest)
          | none => .error .openBracket
        else .ok (.part (.set (.single b)), rest)

/-- The bounds of a repetition, read after the opening brace. -/
def bounds? (extended : Bool) (s : Bytes) : Option (Nat × Option Nat × Bytes) :=
  let least := Numeral.digits 10 s
  let rest := s.drop least.length
  let (most, rest) : Option Nat × Bytes := match rest with
    | 0x2C :: rest =>
      let ds := Numeral.digits 10 rest
      (if ds = [] then none else some (Numeral.value 10 ds), rest.drop ds.length)
    | rest => (some (Numeral.value 10 least), rest)
  match extended, rest with
  | true, 0x7D :: rest =>
    if least = [] && most.isNone then none else some (Numeral.value 10 least, most, rest)
  | false, 0x5C :: 0x7D :: rest =>
    if least = [] && most.isNone then none else some (Numeral.value 10 least, most, rest)
  | _, _ => none

/-- An alternative being read: the parts so far, and the part that a repetition applies to. -/
structure Reading where
  front : Regex
  last : Option Regex

def Reading.all (p : Reading) : Regex :=
  match p.last with
  | some r => if p.front = .empty then r else .seq p.front r
  | none => p.front

def Reading.add (p : Reading) (r : Regex) : Reading := ⟨p.all, some r⟩

/-- Reads alternatives up to the end or up to the parenthesis that closes them. `groups` is the
number of groups that were opened so far, and `depth` of those that are open. -/
def read (extended : Bool) : Nat → Nat → Nat → Option Regex → Reading → Bytes →
    Except Flaw (Regex × Nat × Bytes)
  | 0, _, groups, _, p, rest => .ok (p.all, groups, rest)
  | fuel + 1, depth, groups, others, p, s =>
    let whole : Regex := match others with
      | some r => .alt r p.all
      | none => p.all
    let isStart := p.last.isNone
    let onward (p : Reading) (rest : Bytes) := read extended fuel depth groups others p rest
    let literal (b : UInt8) (rest : Bytes) := onward (p.add (.set (.single b))) rest
    let repetition (least : Nat) (most : Option Nat) (rest : Bytes) :=
      match p.last with
      | some r => onward ⟨p.front, some (.repeated r least most)⟩ rest
      | none => onward p rest
    match s with
    | [] => if depth = 0 then .ok (whole, groups, []) else .error .openGroup
    | b :: _ =>
      match sign? extended s with
      | .error e => .error e
      | .ok (.part (.again n), rest) =>
        if n ≤ groups then onward (p.add (.again n)) rest else .error .badGroup
      | .ok (.part r, rest) => onward (p.add r) rest
      | .ok (.star, rest) =>
        if isStart then (if extended then onward p rest else literal b rest) else repetition 0 none rest
      | .ok (.plus, rest) =>
        if isStart then (if extended then onward p rest else literal 0x2B rest)
        else repetition 1 none rest
      | .ok (.perhaps, rest) =>
        if isStart then (if extended then onward p rest else literal 0x3F rest)
        else repetition 0 (some 1) rest
      | .ok (.brace, rest) =>
        match bounds? extended rest with
        | some (least, most, rest) =>
          if isStart then (if extended then onward p rest else .error .badRepeat)
          else repetition least most rest
        | none =>
          if extended then literal b rest
          else .error (if rest.contains 0x7D then .badBrace else .openBrace)
      | .ok (.bar, rest) => read extended fuel depth groups (some whole) ⟨.empty, none⟩ rest
      | .ok (.caret, rest) =>
        if extended || isStart then onward ⟨.seq p.all .lineStart, none⟩ rest else literal b rest
      | .ok (.dollar, rest) =>
        let endsHere := match extended, rest with
          | true, _ | _, [] => true
          | false, 0x5C :: c :: _ => c == 0x29 || c == 0x7C
          | _, _ => false
        if endsHere then onward (p.add .lineEnd) rest else literal b rest
      | .ok (.opening, rest) =>
        match read extended fuel (depth + 1) (groups + 1) none ⟨.empty, none⟩ rest with
        | .error e => .error e
        | .ok (inner, more, rest) =>
          read extended fuel depth more others (p.add (.group (groups + 1) inner)) rest
      | .ok (.closing, rest) =>
        if 0 < depth then .ok (whole, groups, rest)
        else if extended then literal b rest
        else .error .closeGroup

/-- The expression a text holds. -/
def ofBytes (extended : Bool) (s : Bytes) : Except Flaw Regex :=
  (read extended (s.length + 1) 0 0 none ⟨.empty, none⟩ s).map Prod.fst

/-- The expression that matches exactly a text. -/
def literal (s : Bytes) : Regex :=
  s.foldr (fun b r => .seq (.set (.single b)) r) .empty

end Regex

end FreshBuild
