/-
# FreshBuild.Utility.Format — escapes and formats.

An escape is a backslash and what it makes of the characters behind it. A format is a text with
escapes and directives; each directive shows one argument, and a format is used again as long as
arguments remain, provided that one use takes an argument at all.

The shell and the program `printf` read formats alike. They differ in the escapes they know and in
how they complain.
-/
import FreshBuild.Decimal.Places
import FreshBuild.Text.Numeral
import FreshBuild.Utility.Naming

namespace FreshBuild.Utility

/-! ## Escapes -/

/-- The escapes that are known beyond the letters that all know. -/
structure Escapes where
  /-- A zero may stand before the three octal digits. -/
  zeroFirst : Bool
  /-- A double quote may be escaped. -/
  quote : Bool
  /-- An `x` and one or two hexadecimal digits. -/
  hexadecimal : Bool
  /-- A `c` ends all output. -/
  stops : Bool
  /-- A `u` or `U` and four or eight hexadecimal digits, and digits that are missing are an error. -/
  universal : Bool

/-- What an escape stands for, and how many bytes behind the backslash belong to it. -/
inductive Escaped where
  | bytes (content : Bytes) (taken : Nat)
  | stop
  /-- The escape makes no sense. -/
  | broken (complaint : Bytes)

/-- The byte a letter stands for after a backslash. -/
def letter? (b : UInt8) : Option UInt8 :=
  [(0x61, 0x07), (0x62, 0x08), (0x65, 0x1B), (0x66, 0x0C), (0x6E, 0x0A), (0x72, 0x0D), (0x74, 0x09),
    (0x76, 0x0B), (0x5C, 0x5C)].lookup b

/-- The digits of a number, in capitals and of a fixed length. -/
def capitalDigits (length n : Nat) : Bytes :=
  let ds := Utf8.encode ((Nat.toDigits 16 n).map Char.toUpper)
  List.replicate (length - ds.length) 0x30 ++ ds

/-- A character by its number, which has four digits behind a small letter and eight behind a capital
one. Those that are no single byte stay an escape. -/
def universalCharacter (letter : UInt8) (s : Bytes) : Escaped :=
  let length := if letter = 0x75 then 4 else 8
  let ds := s.take length
  if ds.length < length || Numeral.digits 16 ds != ds then
    .broken (Utf8.ofString "missing hexadecimal number in escape")
  else
    let n := Numeral.value 16 ds
    if 0xD800 ≤ n && n ≤ 0xDFFF then
      .broken (Utf8.ofString "invalid universal character name \\" ++ letter :: ds)
    else if n < 0x80 then .bytes [UInt8.ofNat n] (1 + length)
    else
      .bytes (0x5C :: (if n < 0x10000 then 0x75 :: capitalDigits 4 n else 0x55 :: capitalDigits 8 n))
        (1 + length)

/-- An escape, read after the backslash. A backslash in front of anything else stands for itself. -/
def Escapes.read (e : Escapes) (s : Bytes) : Escaped :=
  let octal (skipped : Nat) : Bytes := Numeral.digits 8 ((s.drop skipped).take 3)
  let byteOf (radix : Nat) (ds : Bytes) : Bytes := [UInt8.ofNat (Numeral.value radix ds)]
  match s with
  | [] => .bytes [0x5C] 0
  | b :: rest =>
    match letter? b with
    | some byte => .bytes [byte] 1
    | none =>
      if b = 0x63 && e.stops then .stop
      else if b = 0x22 && e.quote then .bytes [b] 1
      else if b = 0x78 && e.hexadecimal then
        match Numeral.digits 16 (rest.take 2) with
        | [] => .broken (Utf8.ofString "missing hexadecimal number in escape")
        | ds => .bytes (byteOf 16 ds) (1 + ds.length)
      else if (b = 0x75 || b = 0x55) && e.universal then universalCharacter b rest
      else if b = 0x30 && e.zeroFirst then
        .bytes (byteOf 8 (octal 1)) (1 + (octal 1).length)
      else match octal 0 with
        | [] => .bytes [0x5C] 0
        | ds => .bytes (byteOf 8 ds) ds.length

/-- How the use of a format or of a text with escapes ends. -/
inductive Stop where
  | done
  /-- An escape ended all output. -/
  | ended
  /-- The format makes no sense; so says the complaint. -/
  | senseless (complaint : Bytes)
deriving DecidableEq

/-- A text with its escapes replaced, and how it ended. -/
def Escapes.apply (e : Escapes) (s : Bytes) : Bytes × Stop :=
  match s with
  | [] => ([], .done)
  | b :: rest =>
    let onward (front : Bytes) (taken : Nat) : Bytes × Stop :=
      let (more, stop) := e.apply (rest.drop taken)
      (front ++ more, stop)
    if b = 0x5C then
      match e.read rest with
      | .bytes content taken => onward content taken
      | .stop => ([], .ended)
      | .broken complaint => if e.universal then ([], .senseless complaint) else onward [b] 0
    else onward [b] 0
termination_by s.length
decreasing_by all_goals simp only [List.length_drop, List.length_cons]; omega

/-! ## Directives -/

/-- A width or a precision: a number, or the value of an argument. -/
inductive Extent where
  | number (n : Nat)
  | argument

/-- A directive of a format. -/
structure Directive where
  flags : Bytes
  width : Extent
  precision : Option Extent
  conversion : UInt8

/-- A directive with its extents known. -/
structure Field where
  left : Bool
  zeros : Bool
  plus : Bool
  blank : Bool
  alternate : Bool
  width : Nat
  precision : Option Nat

/-- An extent at the front of a text, and how many bytes it takes. -/
def extent (s : Bytes) : Extent × Nat :=
  if s.head? = some 0x2A then (.argument, 1)
  else
    let ds := Numeral.digits 10 s
    (.number (Numeral.value 10 ds), ds.length)

/-- A directive, read after its percent sign, and how many bytes it takes. The modifiers that tell
the size of an integer are passed over where they are allowed. None stands for a format that ends
too early. -/
def directive? (modifiers : Bool) (s : Bytes) : Option Directive × Nat :=
  let flags := s.takeWhile (Utf8.ofString "#-+ 0").contains
  let (width, taken) := extent (s.drop flags.length)
  let before := flags.length + taken
  let (precision, taken) : Option Extent × Nat := match s.drop before with
    | 0x2E :: rest =>
      let (p, taken) := extent rest
      (some p, taken + 1)
    | _ => (none, 0)
  let before := before + taken
  let sizes := if modifiers then (s.drop before).takeWhile (Utf8.ofString "hlLjzt").contains else []
  match s.drop (before + sizes.length) with
  | [] => (none, s.length)
  | c :: _ => (some ⟨flags, width, precision, c⟩, before + sizes.length + 1)

/-- A text in a field, without regard to its precision. -/
def Field.pad (f : Field) (front body : Bytes) (zeros : Bool) : Bytes :=
  let missing := f.width - (front.length + body.length)
  if f.left then front ++ body ++ List.replicate missing 0x20
  else if zeros then front ++ List.replicate missing 0x30 ++ body
  else List.replicate missing 0x20 ++ front ++ body

/-- A text, cut to the precision. -/
def Field.text (f : Field) (s : Bytes) : Bytes :=
  f.pad [] (match f.precision with
    | some n => s.take n
    | none => s) false

/-- The sign of a number. -/
def Field.signOf (f : Field) (negative : Bool) : Bytes :=
  if negative then [0x2D] else if f.plus then [0x2B] else if f.blank then [0x20] else []

/-- An integer behind its sign or the mark of its radix. -/
def Field.integer (f : Field) (front : Bytes) (digits : Bytes) : Bytes :=
  let digits := if f.precision = some 0 && digits = [0x30] then [] else digits
  let wanted := f.precision.getD 1
  f.pad front (List.replicate (wanted - digits.length) 0x30 ++ digits)
    (f.zeros && f.precision.isNone)

/-- The digits of a number in a radix. -/
def radixDigits (radix : Nat) (n : Nat) : Bytes := Utf8.encode (Nat.toDigits radix n)

/-- Capital letters. -/
def capitals (s : Bytes) : Bytes :=
  s.map fun b => if 0x61 ≤ b && b ≤ 0x7A then b - 0x20 else b

/-- A natural number of 64 bits in the radix of a conversion. -/
def Field.natural (f : Field) (conversion : Char) (n : Nat) : Bytes :=
  match conversion with
  | 'o' =>
    let ds := radixDigits 8 n
    let short := f.precision.getD 1 ≤ ds.length && n != 0
    f.integer [] (if f.alternate && short then 0x30 :: ds else ds)
  | 'x' => f.integer (if f.alternate && n != 0 then [0x30, 0x78] else []) (radixDigits 16 n)
  | 'X' =>
    f.integer (if f.alternate && n != 0 then [0x30, 0x58] else []) (capitals (radixDigits 16 n))
  | _ => f.integer [] (radixDigits 10 n)

/-- A real number in the form of a conversion, of the nearest float of a width. -/
def Field.real (f : Field) (width : Decimal.Width) (conversion : Char) (x : Numeral.Real) : Bytes :=
  let places := f.precision.getD 6
  let form (b : Decimal.Binary) : List Char :=
    match conversion.toLower with
    | 'a' => '0' :: 'x' :: Decimal.hexadecimalText b f.precision f.alternate
    | 'e' => Decimal.scientificText b.ratio places f.alternate
    | 'g' => Decimal.generalText b.ratio places f.alternate
    | _ => Decimal.fixedText b.ratio places f.alternate
  let cased (s : Bytes) : Bytes := if conversion.isUpper then capitals s else s
  match x with
  | .finite negative r =>
    match width.nearest? r with
    | some b => f.pad (f.signOf negative) (cased (Utf8.encode (form b))) f.zeros
    | none => f.pad (f.signOf negative) (cased (Utf8.ofString "inf")) false
  | .infinite negative => f.pad (f.signOf negative) (cased (Utf8.ofString "inf")) false
  | .nan negative => f.pad (f.signOf negative) (cased (Utf8.ofString "nan")) false

/-! ## Arguments -/

/-- Who reads a format. -/
inductive Reader where
  | shell
  | program
deriving DecidableEq

/-- A complaint about an argument. -/
inductive Misfit where
  | noNumber
  | remainder
  | outOfRange
  | afterCharacter (rest : Bytes)
deriving DecidableEq

/-- The words for a misfit, and whether it counts as a failure. -/
def Reader.complaint (r : Reader) (arg : Bytes) : Misfit → Bytes × Bool
  | .noNumber =>
    (match r with
      | .shell => arg ++ Utf8.ofString ": expected numeric value"
      | .program => cited arg ++ Utf8.ofString ": expected a numeric value", true)
  | .remainder =>
    (match r with
      | .shell => arg ++ Utf8.ofString ": not completely converted"
      | .program => cited arg ++ Utf8.ofString ": value not completely converted", true)
  | .outOfRange =>
    ((match r with
      | .shell => arg
      | .program => cited arg) ++ Utf8.ofString ": Numerical result out of range", true)
  | .afterCharacter rest =>
    (Utf8.ofString "warning: " ++ rest ++
      Utf8.ofString ": character(s) following character constant have been ignored", false)

/-- The value of an argument by a way to read numbers at its front. An argument that starts with a
quote is worth the byte behind it, and an empty one nothing. -/
def argumentValue {α : Type} (r : Reader) (arg : Bytes) (read? : Bytes → Option (α × Bytes))
    (ofByte : Nat → α) : α × List Misfit :=
  match arg with
  | [] => (ofByte 0, [])
  | 0x22 :: rest | 0x27 :: rest =>
    (ofByte ((rest.head?.getD 0).toNat),
      if r = .program && rest.length > 1 then [.afterCharacter rest.tail] else [])
  | _ =>
    match read? arg with
    | none => (ofByte 0, [.noNumber])
    | some (n, []) => (n, [])
    | some (n, _) => (n, [.remainder])

/-- An integer argument that has to fit 64 bits. Beyond them the nearest bound counts. -/
def boundedValue (r : Reader) (arg : Bytes) (low high : Int) : Int × List Misfit :=
  let (n, misfits) := argumentValue r arg Numeral.integer? Int.ofNat
  if n < low then (low, if misfits = [] then [.outOfRange] else misfits)
  else if high < n then (high, if misfits = [] then [.outOfRange] else misfits)
  else (n, misfits)

/-- A signed argument. -/
def signedValue (r : Reader) (arg : Bytes) : Int × List Misfit :=
  boundedValue r arg (-Int.ofNat (Word.size 63)) (Int.ofNat (Word.size 63) - 1)

/-- An argument as a number of 64 bits, a negative one as its complement. -/
def unsignedValue (r : Reader) (arg : Bytes) : Nat × List Misfit :=
  let (n, misfits) :=
    boundedValue r arg (1 - Int.ofNat (Word.size 64)) (Int.ofNat (Word.size 64) - 1)
  ((n % Int.ofNat (Word.size 64)).toNat, misfits)

/-- The floats that a reader computes with. -/
def Reader.width : Reader → Decimal.Width
  | .shell => .double
  | .program => .extended

/-- A real argument. -/
def realValue (r : Reader) (arg : Bytes) : Numeral.Real × List Misfit :=
  let (x, misfits) := argumentValue r arg Numeral.real? fun n => .finite false ⟨n, 1⟩
  match x with
  | .finite _ ratio =>
    if misfits = [] && (r.width.nearest? ratio).isNone then (x, [.outOfRange]) else (x, misfits)
  | _ => (x, misfits)

/-! ## Using a format -/

/-- A format being used: the output, the arguments that are left, the complaints, and whether an
argument has failed. -/
structure Printing where
  out : Bytes
  args : List Bytes
  complaints : List Bytes
  failed : Bool

namespace Printing

def add (p : Printing) (bytes : Bytes) : Printing := { p with out := p.out ++ bytes }

/-- Takes an argument; a missing one is empty. -/
def take (p : Printing) : Bytes × Printing := (p.args.head?.getD [], { p with args := p.args.tail })

/-- Notes what was wrong with an argument. -/
def note (r : Reader) (arg : Bytes) (p : Printing) (misfits : List Misfit) : Printing :=
  misfits.foldl (fun p m =>
    let (words, isFailure) := r.complaint arg m
    { p with complaints := p.complaints ++ [words], failed := p.failed || isFailure }) p

/-- The widest field that can be asked for. -/
def maxExtent : Int := Int.ofNat (Word.size 31) - 1

/-- The widest field that is shown. -/
def maxShown : Nat := 1000000

/-- The value of an extent. A program takes no value beyond the widest field; a shell keeps the last
bits of it. -/
def extentValue (r : Reader) (called : String) (p : Printing) : Extent → Except Bytes (Int × Printing)
  | .number n => .ok (n, p)
  | .argument =>
    let (arg, p) := p.take
    let (n, misfits) := signedValue r arg
    let p := p.note r arg misfits
    match r with
    | .shell => .ok (n.bmod (Word.size 32), p)
    | .program =>
      if maxExtent < n || n < -maxExtent - 1 && called = "field width" then
        .error (Utf8.ofString ("invalid " ++ called ++ ": ") ++ cited arg)
      else .ok (n, p)

/-- The field of a directive. A negative width puts the text to the left, and a negative precision is
none. -/
def fieldOf (r : Reader) (p : Printing) (d : Directive) : Except Bytes (Field × Printing) := do
  let has (c : Char) : Bool := d.flags.contains c.toUInt8
  let (width, p) ← p.extentValue r "field width" d.width
  let (precision, p) : Option Nat × Printing ← match d.precision with
    | none => pure (none, p)
    | some e =>
      let (n, p) ← p.extentValue r "precision" e
      pure (if n < 0 then none else some (min n.toNat maxShown), p)
  return (⟨has '-' || width < 0, has '0', has '+', has ' ', has '#', min width.natAbs maxShown,
    precision⟩, p)

end Printing

/-- The escapes in the formats of a reader. -/
def Reader.escapes : Reader → Escapes
  | .shell => ⟨false, false, false, false, false⟩
  | .program => ⟨false, true, true, true, true⟩

/-- The escapes in the arguments of a reader. -/
def Reader.argumentEscapes : Reader → Escapes
  | .shell => ⟨true, false, false, true, false⟩
  | .program => ⟨true, true, true, true, true⟩

/-- The directive is nothing but its letter. -/
def Directive.isBare (d : Directive) : Bool :=
  d.flags = [] && d.precision.isNone && (match d.width with
    | .number n => n = 0
    | .argument => false)

/-- Shows an argument in a field; none if there is no such conversion. -/
def showIn? (r : Reader) (d : Directive) (f : Field) (p : Printing) : Option (Printing × Stop) :=
  let hasArgument := p.args != []
  let (arg, p) := p.take
  let c := Char.ofNat d.conversion.toNat
  match c with
  | 's' => some (p.add (f.text arg), .done)
  | 'c' => some (p.add (f.pad [] [arg.head?.getD 0] false), .done)
  | 'b' =>
    if r = .program && !d.isBare then none
    else
      let (content, stop) := r.argumentEscapes.apply arg
      some (p.add (f.text content), stop)
  | 'q' =>
    if r = .program && d.isBare then some (if hasArgument then p.add (named arg) else p, .done)
    else none
  | 'd' | 'i' =>
    let (n, misfits) := signedValue r arg
    some ((p.note r arg misfits).add
      (f.integer (f.signOf (n < 0)) (radixDigits 10 n.natAbs)), .done)
  | 'o' | 'u' | 'x' | 'X' =>
    let (n, misfits) := unsignedValue r arg
    some ((p.note r arg misfits).add (f.natural c n), .done)
  | 'e' | 'E' | 'f' | 'F' | 'g' | 'G' | 'a' | 'A' =>
    if r = .shell && c.toLower = 'a' then none
    else
      let (x, misfits) := realValue r arg
      some ((p.note r arg misfits).add (f.real r.width c x), .done)
  | _ => none

/-- Shows an argument by a directive; none if there is no such conversion. -/
def show? (r : Reader) (d : Directive) (p : Printing) : Option (Printing × Stop) :=
  match p.fieldOf r d with
  | .ok (f, p) => showIn? r d f p
  | .error complaint => some (p, .senseless complaint)

/-- The complaint about a directive. -/
def Reader.senseless (r : Reader) (spelling : Bytes) : Bytes :=
  0x25 :: spelling ++ Utf8.ofString (match r with
    | .shell => ": invalid directive"
    | .program => ": invalid conversion specification")

/-- One use of a format. -/
def useFormat (r : Reader) (format : Bytes) (p : Printing) : Printing × Stop :=
  match format with
  | [] => (p, .done)
  | b :: rest =>
    if b = 0x5C then
      match r.escapes.read rest with
      | .bytes content taken => useFormat r (rest.drop taken) (p.add content)
      | .stop => (p, .ended)
      | .broken complaint => (p, .senseless complaint)
    else if b = 0x25 then
      if rest.head? = some 0x25 then useFormat r (rest.drop 1) (p.add [b])
      else match directive? (r = .program) rest with
        | (none, _) =>
          (p, .senseless (match r with
            | .shell => Utf8.ofString "missing format character"
            | .program => r.senseless rest))
        | (some d, taken) =>
          match show? r d p with
          | some (p, .done) => useFormat r (rest.drop taken) p
          | some (p, stop) => (p, stop)
          | none => (p, .senseless (r.senseless (rest.take taken)))
    else useFormat r rest (p.add [b])
termination_by format.length
decreasing_by all_goals simp only [List.length_drop, List.length_cons]; omega

/-- A format with all its arguments, with at most `uses` uses. -/
def useRepeatedly (r : Reader) (format : Bytes) : Nat → Printing → Printing × Stop
  | 0, p => (p, .done)
  | uses + 1, p =>
    match useFormat r format p with
    | (after, .done) =>
      if after.args = [] || after.args.length = p.args.length then (after, .done)
      else useRepeatedly r format uses after
    | stopped => stopped

/-- A format with all its arguments. -/
def printFormat (r : Reader) (format : Bytes) (args : List Bytes) : Printing × Stop :=
  useRepeatedly r format (args.length + 1) ⟨[], args, [], false⟩

end FreshBuild.Utility
