/-
# FreshBuild.Utility.Translating — bytes for bytes.

A set of bytes is written as a text of single bytes, ranges, classes and repetitions, and it has an
order: a member of the first set becomes the member at the same place of the second one. The classes of
upper and lower case are matched with each other as wholes.
-/
import FreshBuild.Text.ByteSet
import FreshBuild.Text.Numeral
import FreshBuild.Utility.Lines

namespace FreshBuild.Utility

/-! ## Sets as they are written -/

/-- A byte of a set, and whether it was escaped, so that it means nothing else. -/
abbrev Written := UInt8 × Bool

/-- The byte that a letter behind a backslash stands for. -/
def escapeLetter? (b : UInt8) : Option UInt8 :=
  [(0x61, 0x07), (0x62, 0x08), (0x66, 0x0C), (0x6E, 0x0A), (0x72, 0x0D), (0x74, 0x09),
    (0x76, 0x0B), (0x5C, 0x5C)].lookup b

/-- The bytes of a set without their backslashes. An octal number ends before it gets too large, and a
backslash at the end stands for itself. -/
def unescapedSet : Bytes → List Written
  | [] => []
  | 0x5C :: a :: rest =>
    match Numeral.digit? 8 a, rest with
    | none, rest => ((escapeLetter? a).getD a, true) :: unescapedSet rest
    | some x, [] => [(UInt8.ofNat x, true)]
    | some x, b :: rest =>
      match Numeral.digit? 8 b, rest with
      | none, rest => (UInt8.ofNat x, true) :: unescapedSet (b :: rest)
      | some y, [] => [(UInt8.ofNat (x * 8 + y), true)]
      | some y, c :: rest =>
        match Numeral.digit? 8 c with
        | some z =>
          if x < 4 then (UInt8.ofNat (x * 64 + y * 8 + z), true) :: unescapedSet rest
          else (UInt8.ofNat (x * 8 + y), true) :: unescapedSet (c :: rest)
        | none => (UInt8.ofNat (x * 8 + y), true) :: unescapedSet (c :: rest)
  | b :: rest => (b, false) :: unescapedSet rest
termination_by s => s.length

/-- The classes whose members are matched with each other. -/
inductive LetterCase where
  | upper
  | lower
deriving DecidableEq

/-- A part of a set. A repetition without a count fills the set up. -/
inductive Member where
  | bytes (of : Bytes)
  | class_ (members : Bytes) (letterCase : Option LetterCase)
  | equals (b : UInt8)
  | repeated (b : UInt8) (count : Nat)
  | filling (b : UInt8)

/-- Why sets make no sense. -/
inductive SetFault where
  | noClassName
  | noEquivalent
  | unknownClass (name : Bytes)
  | longEquivalent (text : Bytes)
  | badCount (text : Bytes)
  | backwards (low high : UInt8)
  | fillingFirst
  | fillingTwice
  | fillingAlone
  | equivalentSecond
  | classSecond
  | misaligned
  | emptySecond
  | classAtEnd
  | manyForComplement

/-- A byte as a complaint about a range shows it. -/
def rangeEnd (b : UInt8) : Bytes :=
  if isShown b then [b] else [0x5C, 0x30 + b / 64, 0x30 + b / 8 % 8, 0x30 + b % 8]

/-- The complaint about sets. -/
def SetFault.words : SetFault → List Bytes
  | .noClassName => ["missing character class name '[::]'"]
  | .noEquivalent => ["missing equivalence class character '[==]'"]
  | .unknownClass name => ["invalid character class ", cited name]
  | .longEquivalent text => [text, ": equivalence class operand must be a single character"]
  | .badCount text => ["invalid repeat count ", cited text, " in [c*n] construct"]
  | .backwards low high =>
    ["range-endpoints of '", rangeEnd low, "-", rangeEnd high,
      "' are in reverse collating sequence order"]
  | .fillingFirst => ["the [c*] repeat construct may not appear in string1"]
  | .fillingTwice => ["only one [c*] repeat construct may appear in string2"]
  | .fillingAlone => ["the [c*] construct may appear in string2 only when translating"]
  | .equivalentSecond => ["[=c=] expressions may not appear in string2 when translating"]
  | .classSecond =>
    ["when translating, the only character classes that may appear in\nstring2 are 'upper' and 'lower'"]
  | .misaligned => ["misaligned [:upper:] and/or [:lower:] construct"]
  | .emptySecond => ["when not truncating set1, string2 must be non-empty"]
  | .classAtEnd =>
    ["when translating with string1 longer than string2,\n",
      "the latter string must not end with a character class"]
  | .manyForComplement =>
    ["when translating with complemented character classes,\n",
      "string2 must map all characters in the domain to one"]

/-- All bytes in order. -/
def everyByte : Bytes := (List.range 256).map UInt8.ofNat

/-- The class of a name as a part of a set. -/
def namedClass? (name : Bytes) : Option Member :=
  (ByteSet.class? name).map fun ranges =>
    .class_ (everyByte.filter (⟨false, ranges⟩ : ByteSet).contains)
      (if name = Utf8.ofString "upper" then some .upper
        else if name = Utf8.ofString "lower" then some .lower else none)

/-- The count of a repetition and what follows its bracket; none if no bracket follows. -/
def repetition? (s : List Written) : Option (Bytes × List Written) :=
  let body := s.takeWhile fun (b, escaped) => !escaped && b != 0x5D
  match s.drop body.length with
  | (0x5D, false) :: rest => some (body.map Prod.fst, rest)
  | _ => none

/-- A repetition of a byte. A count that begins with a zero is octal. -/
def repetitionOf (b : UInt8) (count : Bytes) : Except SetFault Member :=
  let radix := if count.head? = some 0x30 then 8 else 10
  if count = [] then .ok (.filling b)
  else if Numeral.digits radix count != count then .error (.badCount count)
  else match Numeral.value radix count with
    | 0 => .ok (.filling b)
    | n => .ok (.repeated b n)

/-- The text between a bracket with a mark and its partner, and what follows. -/
def bracketed? (mark : UInt8) : List Written → Option (Bytes × List Written)
  | (a, false) :: (b, false) :: rest =>
    if a = mark && b = 0x5D then some ([], rest)
    else (bracketed? mark ((b, false) :: rest)).map fun (text, rest) => (a :: text, rest)
  | (a, _) :: rest => (bracketed? mark rest).map fun (text, rest) => (a :: text, rest)
  | [] => none

/-- The class or the equivalent at the front of a set, and what follows it. A repetition of the mark
itself is neither. -/
def classAt? (s : List Written) : Except SetFault (Option (Member × List Written)) :=
  match s with
  | (0x5B, false) :: (mark, false) :: rest =>
    if mark != 0x3A && mark != 0x3D then .ok none
    else
      let isRepetition : Bool := match rest with
        | (0x2A, false) :: rest => (repetition? rest).any fun (count, _) => count.all Numeral.isDigit
        | _ => false
      match bracketed? mark rest with
      | none => .ok none
      | some ([], _) => .error (if mark = 0x3A then .noClassName else .noEquivalent)
      | some (text, after) =>
        let member? := if mark = 0x3A then namedClass? text
          else match text with
            | [b] => some (.equals b)
            | _ => none
        match member? with
        | some member => .ok (some (member, after))
        | none =>
          if isRepetition then .ok none
          else .error (if mark = 0x3A then .unknownClass text else .longEquivalent text)
  | _ => .ok none

/-- The parts of a set. -/
def membersOf : Nat → List Written → Except SetFault (List Member)
  | 0, _ => .ok []
  | fuel + 1, s => do
    let more (member : Member) (rest : List Written) : Except SetFault (List Member) := do
      return member :: (← membersOf fuel rest)
    match ← classAt? s with
    | some (member, rest) => more member rest
    | none =>
      let repeated : Option (UInt8 × Bytes × List Written) := match s with
        | (0x5B, false) :: (b, _) :: (0x2A, false) :: rest =>
          (repetition? rest).map fun (count, rest) => (b, count, rest)
        | _ => none
      match repeated, s with
      | some (b, count, rest), _ => more (← repetitionOf b count) rest
      | none, (low, _) :: (0x2D, false) :: (high, _) :: rest =>
        if high < low then .error (.backwards low high)
        else more (.bytes (everyByte.filter fun b => low ≤ b && b ≤ high)) rest
      | none, (b, _) :: rest => more (.bytes [b]) rest
      | none, [] => return []

/-- A set as an argument writes it. -/
def setOf (arg : Bytes) : Except SetFault (List Member) :=
  let bytes := unescapedSet arg
  membersOf (bytes.length + 1) bytes

namespace Member

/-- The bytes of a part, in order. -/
def expanded : Member → Bytes
  | .bytes bs => bs
  | .class_ bs _ => bs
  | .equals b => [b]
  | .repeated b n => List.replicate n b
  | .filling _ => []

def isFilling : Member → Bool
  | .filling _ => true
  | _ => false

def isClass : Member → Bool
  | .class_ .. => true
  | _ => false

/-- The class of a case, if the part is one. -/
def letterCase? : Member → Option LetterCase
  | .class_ _ letterCase => letterCase
  | _ => none

end Member

/-- The bytes of a set, in order. -/
def expandedSet (set : List Member) : Bytes := set.flatMap Member.expanded

/-- The set with the part that fills it up to a length made long enough. -/
def filledUp (length : Nat) (set : List Member) : List Member :=
  set.map fun
    | .filling b => .repeated b (length - (expandedSet set).length)
    | member => member

/-! ## Pairs -/

/-- The bytes of a part, and its case as long as none of them is taken. -/
abbrev Slot := Bytes × Option LetterCase

/-- The parts of a set that have bytes. -/
def slotsOf (set : List Member) : List Slot :=
  (set.map fun m => (m.expanded, m.letterCase?)).filter fun (bs, _) => bs != []

/-- Pairs the bytes of two sets and returns what is left of the first one. Two classes of a case are
paired as wholes: letters with their partners in the other case, and with themselves in the same one. -/
def pairedSlots : Nat → List Slot → List Slot → Except SetFault (List (UInt8 × UInt8) × List Slot)
  | 0, first, _ => .ok ([], first)
  | fuel + 1, first, second =>
    match first, second with
    | (bs, some c) :: first, (_, some d) :: second => do
      let (pairs, left) ← pairedSlots fuel first second
      let turned := if c = d then [] else bs.map fun b => (b, ByteSet.otherCase b)
      return (turned ++ pairs, left)
    | _, (_, some _) :: _ => .error .misaligned
    | (a :: as, _) :: first, (b :: bs, none) :: second => do
      let rest (bytes : Bytes) (slots : List Slot) : List Slot :=
        if bytes = [] then slots else (bytes, none) :: slots
      let (pairs, left) ← pairedSlots fuel (rest as first) (rest bs second)
      return ((a, b) :: pairs, left)
    | first, _ => .ok ([], first)

/-- What is asked for. -/
structure Translation where
  complement : Bool
  truncates : Bool

/-- What becomes of bytes, as pairs, the ones that count last. What is left of the first set becomes the
last byte of the second one. -/
def Translation.pairs (t : Translation) (first second : List Member) :
    Except SetFault (List (UInt8 × UInt8)) :=
  let members := expandedSet first
  let domain := if t.complement then everyByte.filter (!members.contains ·) else members
  let second := filledUp domain.length second
  let image := expandedSet second
  let fill (left : Bytes) : Except SetFault (List (UInt8 × UInt8)) :=
    if left = [] || t.truncates then .ok []
    else match second.getLast?, image.getLast? with
      | some last, some b => if last.isClass then .error .classAtEnd else .ok (left.map (·, b))
      | _, _ => .error .emptySecond
  if second.any fun | .equals _ => true | _ => false then .error .equivalentSecond
  else if second.any fun m => m.isClass && m.letterCase?.isNone then .error .classSecond
  else if t.complement then do
    let pairs := domain.zip image ++ (← fill (domain.drop image.length))
    if first.any (·.isClass) &&
        (pairs.length < domain.length || image.length > domain.length ||
          pairs.any fun (_, b) => some b != image.head?) then
      .error .manyForComplement
    else return pairs
  else do
    let (pairs, left) ← pairedSlots (members.length + image.length + 1) (slotsOf first) (slotsOf second)
    return pairs ++ (← fill (left.flatMap Prod.fst))

/-! ## The program -/

/-- Leaves one of several equal neighbours from a set. -/
def squeezed (members : Bytes) : Bytes → Bytes
  | [] => []
  | b :: rest =>
    let kept := squeezed members rest
    if members.contains b && kept.head? = some b then kept else b :: kept

/-- What becomes of a text. -/
def translatedText (g : Given) (sets : List (List Member)) : Except SetFault (Bytes → Bytes) := do
  let complement := g.has 'c' || g.has 'C'
  let first := (sets[0]?).getD []
  let members := expandedSet first
  let isMember (b : UInt8) : Bool := members.contains b != complement
  if first.any Member.isFilling then .error .fillingFirst
  else match sets[1]? with
    | none =>
      if g.has 'd' then return List.filter (!isMember ·)
      else return squeezed (everyByte.filter isMember)
    | some second =>
      if (second.filter Member.isFilling).length > 1 then .error .fillingTwice
      else if g.has 'd' then
        if second.any Member.isFilling then .error .fillingAlone
        else return fun text => squeezed (expandedSet second) (text.filter (!isMember ·))
      else
        let pairs := (← Translation.pairs ⟨complement, g.has 't'⟩ first second).reverse
        let turn (text : Bytes) : Bytes := text.map fun b => (pairs.lookup b).getD b
        let length := if complement then 256 - (everyByte.filter members.contains).length
          else members.length
        return if g.has 's' then fun text => squeezed (expandedSet (filledUp length second)) (turn text)
          else turn

def tr : Task → Finish :=
  withOptions ⟨"cCdst", "", [("complement", 'c', .nothing), ("delete", 'd', .nothing),
      ("squeeze-repeats", 's', .nothing), ("truncate-set1", 't', .nothing)], true⟩ 1 fun g t =>
    let deletes := g.has 'd'
    let squeezes := g.has 's'
    let least := if deletes == squeezes then 2 else 1
    let most := if deletes && !squeezes then 1 else 2
    let explained (complaint : List Bytes) (line : String) : Finish :=
      ((suggestHelp ((t.begin.complain complaint).write .err (Utf8.ofString line))).fail 1).finish
    match g.operands, g.operands[most]? with
    | [], _ => refuse t 1 ["missing operand"]
    | operands, none =>
      if operands.length < least then
        explained ["missing operand after ", cited (operands.getLast?.getD [])]
          (if squeezes then
            "Two strings must be given when both deleting and squeezing repeats.\n"
          else "Two strings must be given when translating.\n")
      else match operands.mapM setOf |>.bind (translatedText g) with
        | .error fault => ((t.begin.complain fault.words).fail 1).finish
        | .ok change =>
          let (content, w) := t.begin.readInput
          (w.print (change content)).finish
    | operands, some extra =>
      if operands.length = 2 then
        explained ["extra operand ", cited extra]
          "Only one string may be given when deleting without squeezing repeats.\n"
      else refuse t 1 ["extra operand ", cited extra]

end FreshBuild.Utility
