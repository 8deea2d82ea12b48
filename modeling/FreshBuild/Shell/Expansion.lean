/-
# FreshBuild.Shell.Expansion — the values of words.

A word is expanded into atoms: characters, of which some may be cut at and some have no meaning, and
borders between fields. The atoms are then put together to fields, and fields with signs in them stand
for file names. Where a word has one value only, the atoms are just spelled out.

What the output of commands is, is for somebody else to say.
-/
import FreshBuild.Shell.Arithmetic
import FreshBuild.Shell.Pattern
import FreshBuild.Shell.State

namespace FreshBuild.Shell

open FreshBuild.Utility

/-- What a word expands to, piece by piece. -/
inductive Atom where
  /-- A character; one that may be cut at comes from the value of something without quotes. -/
  | char (g : Glyph) (mayCut : Bool)
  | border
  /-- Nothing, but in quotes: there is a field. -/
  | mark
deriving DecidableEq

/-- Which tildes stand for directories. -/
inductive Tildes where
  | none
  | first
  /-- Those behind colons too. -/
  | everywhere
deriving DecidableEq

/-- How a word is expanded. -/
structure Manner where
  /-- Into any number of fields. -/
  intoFields : Bool
  /-- Text is cut like values. -/
  cutsText : Bool
  tildes : Tildes

/-- What the output of commands is. -/
abbrev Output := Option Node → Run Bytes

def glyphsOf (quoted : Bool) (s : Bytes) : List Glyph :=
  s.map fun b => ⟨Char.ofNat b.toNat, quoted⟩

/-- The atoms of a value. -/
def valueAtoms (quoted : Bool) (s : Bytes) : List Atom :=
  (glyphsOf quoted s).map (Atom.char · (!quoted)) ++ if quoted then [.mark] else []

/-- The bytes that atoms spell. -/
def spelled (atoms : List Atom) : Bytes :=
  atoms.filterMap fun
    | .char g _ => some g.char.toUInt8
    | _ => none

/-- The glyphs that atoms spell. -/
def glyphsIn (atoms : List Atom) : List Glyph :=
  atoms.filterMap fun
    | .char g _ => some g
    | _ => none

/-! ## Tildes -/

/-- The directory that a name behind a tilde stands for. -/
def homeOf? (s : State) (name : Text) : Option Bytes :=
  if name = [] then s.lookup? "HOME"
  else if String.ofList name = "root" then some "/root"
  else none

/-- A text without quotes, with its tildes replaced. `isFirst` tells that a tilde may stand here, and
`isLast` that nothing follows the text. -/
def withHomes (s : State) (tildes : Tildes) (isLast mayCut : Bool) : Nat → Bool → Text → List Atom
  | 0, _, _ | _, _, [] => []
  | fuel + 1, isFirst, c :: rest =>
    let name := rest.takeWhile fun d => d != '/' && !(d == ':' && tildes == .everywhere)
    let after := rest.drop name.length
    match (if c = '~' && isFirst && (after != [] || isLast) then homeOf? s name else none) with
    | some home => valueAtoms true home ++ withHomes s tildes isLast mayCut fuel false after
    | none =>
      .char ⟨c, false⟩ mayCut ::
        withHomes s tildes isLast mayCut fuel (c == ':' && tildes == .everywhere) rest

/-! ## Parameters -/

/-- The value of a parameter; none if it is not set. Only the two for all arguments have more than
one. -/
def parameterValues (s : State) (name : Text) : Option (List Bytes) :=
  match name with
  | ['@'] | ['*'] => some s.args
  | ['#'] => some [numeral s.args.length]
  | ['?'] => some [numeral s.status]
  | ['$'] => some [numeral s.process]
  | ['!'] => s.lastJob.map fun n => [numeral n]
  | ['-'] => some [Text.bytes s.options]
  | ['0'] => some [s.zero]
  | _ =>
    match Digits.value? 10 name with
    | some n => (s.args[n - 1]?).map ([·])
    | none => (s.lookup? (String.ofList name)).map ([·])

/-- All arguments in one, with the first separator between them. -/
def joinedArguments (s : State) (args : List Bytes) : Bytes :=
  (args.intersperse (s.separators.take 1)).flatten

def isAllArguments (name : Text) : Bool := name = ['@'] || name = ['*']

/-- The atoms of a parameter that is set. -/
def parameterAtoms (s : State) (m : Manner) (quoted : Bool) (name : Text) (values : List Bytes) :
    List Atom :=
  if !isAllArguments name then valueAtoms quoted (values.head?.getD [])
  else if m.intoFields && (!quoted || name = ['@']) then
    ((values.map (valueAtoms quoted)).intersperse [.border]).flatten
  else valueAtoms quoted (joinedArguments s values)

/-- Complains about a parameter that has no value. -/
def missing {α : Type} (name : Text) (words : Bytes) : Run α :=
  Run.fail [Text.bytes name, ": ", words]

/-! ## Arithmetic -/

/-- The number that the value of a variable spells. -/
def numberOf (s : State) (name : String) : Run Int := do
  let value := (s.lookup? name).getD []
  match Numeral.integer? value with
  | some (n, rest) =>
    if rest.all Numeral.isSpace && Word.holdsSigned 64 n then return n
    else Run.fail ["Illegal number: ", value]
  | none => if value.all Numeral.isSpace then return 0 else Run.fail ["Illegal number: ", value]

/-- The value of an arithmetic expression. -/
def arithmeticValue (text : Bytes) : Run Int :=
  (Arithmetic.ofText (Text.ofBytes text)).eval {
    lookup := fun name => do numberOf (← get) name
    assign := fun name n => Run.assign name (Utf8.ofString (Digits.signedText n))
    fail := fun words => Run.fail ["arithmetic expression: ", words, ": \"", text, "\""] }

/-! ## Words -/

/-- The atoms of a word. Every level of nesting costs one unit of `fuel`. -/
def expand (output : Output) : Nat → Manner → Word → Run (List Atom)
  | 0, _, _ => return []
  | fuel + 1, m, w => do
    let atoms ← w.zipIdx.mapM fun (piece, n) => do
      match piece with
      | .text true chars =>
        return if chars = [] then [.mark] else chars.map fun c => .char ⟨c, true⟩ false
      | .text false chars =>
        if m.tildes = .none then return chars.map fun c => .char ⟨c, false⟩ m.cutsText
        else
          let s ← get
          return withHomes s m.tildes (n + 1 = w.length) m.cutsText (chars.length + 1) (n = 0) chars
      | .output quoted body =>
        let bytes ← output body
        let kept := (bytes.reverse.dropWhile (· == 0x0A)).reverse.filter (· != 0)
        return valueAtoms quoted kept
      | .arithmetic quoted body =>
        let text := spelled (← expand output fuel ⟨false, false, .none⟩ body)
        let n ← arithmeticValue text
        return valueAtoms quoted (Utf8.ofString (Digits.signedText n))
      | .parameter quoted name use =>
        let s ← get
        let values := parameterValues s name
        let wordAtoms (word : Word) : Run (List Atom) := do
          let atoms ← expand output fuel ⟨m.intoFields, !quoted, .first⟩ word
          return if quoted then atoms ++ [.mark] else atoms
        let wordValue (word : Word) : Run Bytes :=
          return spelled (← expand output fuel ⟨false, false, .first⟩ word)
        let required : Run (List Bytes) := do
          match values with
          | some values => return values
          | none => if s.hasOption 'u' then missing name "parameter not set" else return [[]]
        match use with
        | .value => return parameterAtoms s m quoted name (← required)
        | .length =>
          let values ← required
          return valueAtoms quoted (numeral (joinedArguments s values).length)
        | .senseless => Run.fail ["Bad substitution"]
        | .trim atEnd longest pattern =>
          let value := joinedArguments s (← required)
          let glyphs := glyphsIn (← expand output fuel ⟨false, false, .first⟩ pattern)
          return valueAtoms quoted (trimmed atEnd longest glyphs value)
        | .default kind orEmpty word =>
          let isMissing := match values with
            | none => true
            | some values => orEmpty && (joinedArguments s values).isEmpty
          match kind, isMissing with
          | .instead, true => wordAtoms word
          | .alternative, true => return if quoted then [.mark] else []
          | .alternative, false => wordAtoms word
          | .assign, true =>
            let value ← wordValue word
            if !isName name then Run.fail [Text.bytes name, ": bad variable name"]
            else
              Run.assign (String.ofList name) value
              return valueAtoms quoted value
          | .complain, true =>
            let words ← wordValue word
            missing name (if word.isEmpty then
                Utf8.ofString (if orEmpty then "parameter not set or null" else "parameter not set")
              else words)
          | _, false => return parameterAtoms s m quoted name (values.getD [])
    return atoms.flatten

/-- How deep the words of parameters can be nested. -/
def maxNesting : Nat := 60

/-! ## Fields -/

/-- What stood last between two fields. -/
inductive Between where
  | nothing
  | blank
  | separator
deriving DecidableEq

/-- Fields being put together: those that are complete, the latest first, and the one that is not. -/
structure Fields where
  complete : List (List Glyph)
  current : Option (List Glyph)
  between : Between

namespace Fields

def close (f : Fields) (between : Between) : Fields :=
  match f.current with
  | some glyphs => ⟨glyphs.reverse :: f.complete, none, between⟩
  | none => { f with between }

/-- Adds an atom. A blank among the separators ends a field; any other separator ends even an empty
one, unless only blanks have come since the field before. -/
def add (separators : Bytes) (f : Fields) : Atom → Fields
  | .border => f.close .nothing
  | .mark => ⟨f.complete, some (f.current.getD []), .nothing⟩
  | .char g mayCut =>
    let b := g.char.toUInt8
    if mayCut && separators.contains b then
      if b = 0x20 || b = 0x09 || b = 0x0A then
        if f.current.isSome then f.close .blank else f
      else if f.current.isSome then f.close .separator
      else if f.between = .blank then { f with between := .separator }
      else ⟨[] :: f.complete, none, .separator⟩
    else ⟨f.complete, some (g :: f.current.getD []), .nothing⟩

end Fields

/-- The fields that atoms make. -/
def fieldsOf (separators : Bytes) (atoms : List Atom) : List (List Glyph) :=
  ((atoms.foldl (Fields.add separators) ⟨[], none, .nothing⟩).close .nothing).complete.reverse

/-- The fields of a word, with file names for those that have signs. -/
def wordFields (output : Output) (w : Word) : Run (List Bytes) := do
  let atoms ← expand output maxNesting ⟨true, false, .first⟩ w
  let s ← get
  let fields := fieldsOf s.separators atoms
  return if s.hasOption 'f' then fields.map glyphBytes
    else fields.flatMap (fileNames s.world.disk s.here)

/-- The one value of a word. -/
def wordValue (output : Output) (tildes : Tildes) (w : Word) : Run Bytes :=
  return spelled (← expand output maxNesting ⟨false, false, tildes⟩ w)

/-- A word as a pattern. -/
def wordPattern (output : Output) (w : Word) : Run (List Glyph) :=
  return glyphsIn (← expand output maxNesting ⟨false, false, .first⟩ w)

end FreshBuild.Shell
