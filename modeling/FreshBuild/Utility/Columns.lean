/-
# FreshBuild.Utility.Columns — parts of lines by their places.

Bytes and fields of a line are counted from one. A list of ranges tells which of them are wanted; they
appear in their order in the line, whatever the order of the list.
-/
import FreshBuild.Utility.Sorting

namespace FreshBuild.Utility

/-- What is wrong with a list of ranges. -/
inductive RangeFault where
  | zero
  | twoDashes
  | noEndpoint
  | decreasing
  | noNumber (rest : Bytes)

/-- The complaint about a list of ranges of fields or of bytes. -/
def RangeFault.words (ofFields : Bool) : RangeFault → List Bytes
  | .zero =>
    [if ofFields then "fields are numbered from 1" else "byte/character positions are numbered from 1"]
  | .twoDashes => [if ofFields then "invalid field range" else "invalid byte or character range"]
  | .noEndpoint => ["invalid range with no endpoint: -"]
  | .decreasing => ["invalid decreasing range"]
  | .noNumber rest =>
    [if ofFields then "invalid field value " else "invalid byte/character position ", cited rest]

/-- A range of places; it may have no end. -/
structure Places where
  first : Nat
  last : Option Nat
deriving DecidableEq

/-- A range that is being read: its start if there was a dash, and the number at its end. -/
structure Reach where
  start : Option (Option Nat)
  number : Option Nat

/-- The range that has been read. -/
def Reach.places (r : Reach) : Except RangeFault Places :=
  match r.start, r.number with
  | none, n => if n.getD 0 = 0 then .error .zero else .ok ⟨n.getD 0, n⟩
  | some none, none => .error .noEndpoint
  | some start, last =>
    if last.any (· < start.getD 1) then .error .decreasing else .ok ⟨start.getD 1, last⟩

/-- Reads a list of ranges from left to right. -/
def placesOf : Reach → Bytes → Except RangeFault (List Places)
  | r, [] => r.places.map ([·])
  | r, b :: rest =>
    if b = 0x2D then
      if r.start.isSome then .error .twoDashes
      else if r.number = some 0 then .error .zero
      else placesOf ⟨some r.number, none⟩ rest
    else if b = 0x2C || isBlank b then do
      let first ← r.places
      return first :: (← placesOf ⟨none, none⟩ rest)
    else match Numeral.digit? 10 b with
      | some d => placesOf { r with number := some (r.number.getD 0 * 10 + d) } rest
      | none => .error (.noNumber (b :: rest))

/-- Ranges by their starts, with those that overlap made one. -/
def united (ranges : List Places) : List Places :=
  (ranges.mergeSort fun a b => decide (a.first ≤ b.first)).foldl (fun done p =>
    match done.getLast? with
    | some before =>
      if before.last.all (p.first ≤ ·) then
        done.dropLast ++ [⟨before.first, do return max (← before.last) (← p.last)⟩]
      else done ++ [p]
    | none => [p]) []

/-- The places that are in no range. -/
def complementOf : Nat → List Places → List Places
  | start, [] => [⟨start, none⟩]
  | start, p :: rest =>
    (if start < p.first then [⟨start, some (p.first - 1)⟩] else []) ++
      (p.last.map fun last => complementOf (last + 1) rest).getD []

/-- The elements in a range. -/
def Places.of {α : Type} (p : Places) (xs : List α) : List α :=
  (p.last.elim xs xs.take).drop (p.first - 1)

/-- How lines are cut. -/
structure Cutting where
  ranges : List Places
  /-- The separator of fields, unless bytes are counted. -/
  separator : Option UInt8
  /-- What stands between the parts. -/
  between : Bytes
  onlySeparated : Bool

/-- What is left of a line, or nothing if it is left out. -/
def Cutting.apply? (c : Cutting) (line : Bytes) : Option Bytes :=
  let joined (parts : List Bytes) : Bytes := (parts.intersperse c.between).flatten
  match c.separator with
  | none => some (joined ((c.ranges.map (·.of line)).filter (· != [])))
  | some sep =>
    if !line.contains sep then (if c.onlySeparated then none else some line)
    else some (joined (c.ranges.flatMap (·.of (sortFields (some sep) line))))

/-- What the options ask for, or a complaint about them. -/
def Cutting.ofOptions (g : Given) : Except (List Bytes) Cutting := do
  let lists := g.options.filterMap fun (c, value) =>
    if c = 'b' || c = 'c' || c = 'f' then value else none
  let ofFields := g.has 'f'
  match lists with
  | [] => .error ["you must specify a list of bytes, characters, or fields"]
  | _ :: _ :: _ => .error ["only one list may be specified"]
  | [list] =>
    let delimiter := (g.value? 'd').map fun d => if d = [] then [0] else d
    if delimiter.any (·.length > 1) then
      .error ["the delimiter must be a single character"]
    else if !ofFields && delimiter.isSome then
      .error ["an input delimiter may be specified only\n when operating on fields"]
    else if !ofFields && g.has 's' then
      .error ["suppressing non-delimited lines makes sense\n\tonly when operating on fields"]
    else match placesOf ⟨none, none⟩ list with
      | .error fault => .error (fault.words ofFields)
      | .ok ranges =>
        let ranges := united ranges
        let separator := delimiter.getD [0x09]
        let between := (g.value? 'O').map fun o => if o = [] then [0] else o
        return ⟨if g.has 'C' then complementOf 1 ranges else ranges,
          if ofFields then separator.head? else none,
          between.getD (if ofFields then separator else []), g.has 's'⟩

def cut : Task → Finish :=
  withOptions ⟨"nsz", "bcdfO", [("bytes", 'b', .value), ("characters", 'c', .value),
      ("complement", 'C', .nothing), ("delimiter", 'd', .value), ("fields", 'f', .value),
      ("only-delimited", 's', .nothing), ("output-delimiter", 'O', .value),
      ("zero-terminated", 'z', .nothing)], false⟩ 1 fun g t =>
    let lineEnd : UInt8 := if g.has 'z' then 0 else 0x0A
    match Cutting.ofOptions g with
    | .error complaint => refuse t 1 complaint
    | .ok c =>
      (eachFile t.begin g.operands (fun w _ content =>
        w.print (((contentsUpTo lineEnd content).filterMap c.apply?).flatMap (· ++ [lineEnd])))
        unreadable).finishAtOnce

end FreshBuild.Utility
