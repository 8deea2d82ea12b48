/-
# FreshBuild.Shell.Builtin.Variables — commands for variables and arguments.

Every one of them changes the shell itself, which is why no program could do its work.
-/
import FreshBuild.Shell.Builtin.Arguments
import FreshBuild.Shell.Expansion

namespace FreshBuild.Shell.Builtin

open FreshBuild.Utility

/-! ## Marks of variables -/

/-- The name that an argument sets, and the value. -/
def nameAndValue (arg : Bytes) : Bytes × Option Bytes :=
  match arg.dropWhile (· != 0x3D) with
  | [] => (arg, none)
  | _ :: value => (arg.takeWhile (· != 0x3D), some value)

/-- The name, if a variable can have it. -/
def checkedName (name : Bytes) : Run String := do
  if isName (Text.ofBytes name) then return Utf8.lossy name
  else Run.fail [name, ": bad variable name"]

/-- The variables that pass a test, in order, each with the words in front of it. -/
def printVariables (front : Bytes) (test : Variable → Bool) : Run Unit := do
  let chosen := (← get).variables_.filter fun (_, v) => test v
  for (name, v) in chosen.mergeSort fun a b => !decide (b.1 < a.1) do
    let value : Bytes := match v.value with
      | some value => 0x3D :: singleQuoted value
      | none => []
    Run.print (front ++ Utf8.ofString name ++ value ++ [0x0A])

/-- Marks variables, and sets those that come with a value. -/
def mark (command : String) (isMarked : Variable → Bool) (change : Variable → Variable)
    (args : List Bytes) : Run Nat := do
  let (options, operands) ← Letters.read ⟨"p", ""⟩ args
  if options != [] || operands = [] then printVariables (command ++ " ") isMarked
  else
    for arg in operands do
      let (name, value) := nameAndValue arg
      let name ← checkedName name
      match value with
      | some value => Run.assign name value
      | none => pure ()
      modify (·.modifyVariable name change)
  return 0

def export_ (args : List Bytes) : Run Nat :=
  mark "export" Variable.exported (fun v => { v with exported := true }) args

def readonly_ (args : List Bytes) : Run Nat :=
  mark "readonly" Variable.readOnly (fun v => { v with readOnly := true }) args

/-- Forgets a variable. -/
def forget (name : String) : Run Unit := do
  if ((← get).variables_.lookup name).any Variable.readOnly then
    Run.fail [Utf8.ofString name, ": is read only"]
  else modify fun s => { s with variables_ := s.variables_.filter (·.1 != name) }

def unset (args : List Bytes) : Run Nat := do
  let (options, operands) ← Letters.read ⟨"vf", ""⟩ args
  for arg in operands do
    if (options.getLast?.map Prod.fst) = some 'f' then
      modify fun s => { s with functions := s.functions.filter (·.1 != Utf8.lossy arg) }
    else forget (← checkedName arg)
  return 0

/-- Makes variables a function's own. A variable keeps its value until it is set. -/
def local_ (args : List Bytes) : Run Nat := do
  if (← get).locals.isEmpty then Run.fail ["not in a function"]
  else
    for arg in (← operandsOf args) do
      let (name, value) := nameAndValue arg
      let name ← checkedName name
      modify fun s => { s with
        locals := match s.locals with
          | frame :: frames =>
            (if (frame.lookup name).isSome then frame
              else (name, s.variables_.lookup name) :: frame) :: frames
          | [] => [] }
      match value with
      | some value => Run.assign name value
      | none => modify (·.modifyVariable name id)
    return 0

/-! ## Options of the shell -/

/-- The options, by name and letter, in the order in which they are listed. -/
def shellOptions : List (String × Char) :=
  [("errexit", 'e'), ("noglob", 'f'), ("ignoreeof", 'I'), ("interactive", 'i'), ("monitor", 'm'),
    ("noexec", 'n'), ("stdin", 's'), ("xtrace", 'x'), ("verbose", 'v'), ("vi", 'V'), ("emacs", 'E'),
    ("noclobber", 'C'), ("allexport", 'a'), ("notify", 'b'), ("nounset", 'u'), ("privileged", 'p'),
    ("nolog", '\x00'), ("debug", '\x01')]

/-- Switches an option by its letter. The letters that are set stand in the reverse order of the
list. -/
def switch (on : Bool) (letter : Char) : Run Unit := do
  if letter.toNat < 0x20 || !(shellOptions.any (·.2 == letter)) then
    Run.fail ["Illegal option -", [letter.toUInt8]]
  else
    modify fun s => { s with
      options := (shellOptions.reverse.map Prod.snd).filter fun c =>
        if c = letter then on else s.options.contains c }

/-- Switches an option by its name. Without a name the options are listed. -/
def switchNamed (on : Bool) : Option Bytes → Run Unit
  | some name =>
    match shellOptions.find? fun (n, _) => Utf8.ofString n = name with
    | some (_, letter) => if letter.toNat < 0x20 then return else switch on letter
    | none => Run.fail ["Illegal option -o ", name]
  | none => do
    Run.print "Current option settings\n"
    let s ← get
    for (name, letter) in shellOptions do
      let blanks := List.replicate (16 - name.length) 0x20
      Run.print (Utf8.ofString name ++ blanks ++
        Utf8.ofString (if s.hasOption letter then "on\n" else "off\n"))

/-- Switches the options in an argument. Tells whether one of them wants a name. -/
def switchAll (on : Bool) : Bytes → Run Nat
  | [] => return 0
  | b :: rest => do
    if b = 0x6F then return (← switchAll on rest) + 1
    else
      switch on (Char.ofNat b.toNat)
      switchAll on rest

/-- Switches options; the rest of the arguments is none if nothing but options was there. -/
def switchArguments : Nat → List Bytes → Run (Option (List Bytes))
  | 0, args => return some args
  | _, [] => return none
  | fuel + 1, arg :: rest => do
    if arg = [0x2D, 0x2D] then return some rest
    else if arg = [0x2D] then
      switch false 'x'
      switch false 'v'
      return if rest = [] then none else some rest
    else
      match arg with
      | sign :: letters =>
        if sign = 0x2D || sign = 0x2B then
          let names ← switchAll (sign = 0x2D) letters
          for n in List.range names do
            switchNamed (sign = 0x2D) rest[n]?
          switchArguments fuel (rest.drop names)
        else return some (arg :: rest)
      | [] => return some (arg :: rest)

def set_ (args : List Bytes) : Run Nat := do
  if args = [] then printVariables [] fun v => v.value.isSome
  else match ← switchArguments (args.length + 1) args with
    | some args => modify fun s => { s with
        args
        optionIndex := 1
        optionOffset := none }
    | none => return 0
  return 0

def shift (args : List Bytes) : Run Nat := do
  let n ← firstNumber args 1
  let s ← get
  if s.args.length < n then Run.fail ["can't shift that many"]
  else
    set { s with
      args := s.args.drop n
      optionIndex := 1
      optionOffset := none }
    return 0

/-! ## Options of a script -/

/-- Where `getopts` goes on: the letters left of the argument before the next one, if any. -/
structure Place where
  index : Nat
  left : Option Bytes

/-- Sets what `getopts` has found, and where it goes on. -/
def settle (name : String) (found : Bytes) (place : Place) (args : List Bytes) : Run Unit := do
  modify (·.assign "OPTIND" (numeral place.index))
  Run.assign name found
  modify fun s => { s with
    optionIndex := place.index
    optionOffset := place.left.map fun left =>
      ((args[place.index - 2]?).getD []).length - left.length }

/-- Reads the option at a place; the answer is the status. -/
def readOption (letters : Bytes) (name : String) (args : List Bytes) (place : Place) : Run Nat := do
  let isSilent := letters.head? == some 0x3A
  match place.left with
  | some (c :: rest) =>
    let declared : List (UInt8 × UInt8) := letters.zip (letters.drop 1 ++ ([0] : Bytes))
    match declared.find? fun (d, _) => d = c && c != 0x3A with
    | none =>
      if isSilent then Run.assign "OPTARG" [c]
      else
        Run.write 2 (Utf8.ofString "Illegal option -" ++ [c, 0x0A])
        forget "OPTARG"
      settle name [0x3F] ⟨place.index, some rest⟩ args
      return 0
    | some (_, 0x3A) =>
      match rest, args[place.index - 1]? with
      | [], none =>
        if isSilent then Run.assign "OPTARG" [c]
        else
          Run.write 2 (Utf8.ofString "No arg for -" ++ c :: Utf8.ofString " option\n")
          forget "OPTARG"
        settle name [if isSilent then 0x3A else 0x3F] ⟨place.index, some rest⟩ args
        return 0
      | [], some value =>
        Run.assign "OPTARG" value
        settle name [c] ⟨place.index + 1, none⟩ args
        return 0
      | value, _ =>
        Run.assign "OPTARG" value
        settle name [c] ⟨place.index, none⟩ args
        return 0
    | some _ =>
      Run.assign "OPTARG" []
      settle name [c] ⟨place.index, some rest⟩ args
      return 0
  | _ =>
    settle name [0x3F] ⟨place.index, none⟩ args
    return 1

def getopts (args : List Bytes) : Run Nat := do
  match ← operandsOf args with
  | letters :: name :: rest =>
    let s ← get
    let given := if rest = [] then s.args else rest
    let index := if given.length + 1 < s.optionIndex then 1 else s.optionIndex
    let offset := if given.length + 1 < s.optionIndex then none else s.optionOffset
    let inside : Option Bytes := match offset with
      | some n => if index ≤ 1 then none else (given[index - 2]?).map (·.drop n)
      | none => none
    let place : Place := match inside, given[index - 1]? with
      | some (c :: left), _ => ⟨index, some (c :: left)⟩
      | _, some [0x2D, 0x2D] => ⟨index + 1, none⟩
      | _, some (0x2D :: c :: left) => ⟨index + 1, some (c :: left)⟩
      | _, _ => ⟨index, none⟩
    readOption letters (← checkedName name) given place
  | _ => Run.fail ["Usage: getopts optstring var [arg]"]

/-! ## Reading a line -/

/-- A byte of a line, and whether it may be cut at. -/
abbrev LineByte := UInt8 × Bool

/-- A line at the front of an input: its bytes, what is left behind it, and whether it was complete.
Backslashes protect bytes and join lines unless `raw`. -/
def lineOf (raw : Bool) : Bytes → List LineByte × Bytes × Bool
  | [] => ([], [], false)
  | b :: rest =>
    let onward (front : List LineByte) (rest : List LineByte × Bytes × Bool) :=
      (front ++ rest.1, rest.2)
    if b = 0 then lineOf raw rest
    else if b = 0x0A then ([], rest, true)
    else if b = 0x5C && !raw then
      match rest with
      | [] => ([], [], false)
      | c :: rest =>
        if c = 0x0A || c = 0 then lineOf raw rest else onward [(c, false)] (lineOf raw rest)
    else onward [(b, true)] (lineOf raw rest)

/-- The values that a line has for so many variables. -/
def valuesOf (separators : Bytes) : Nat → List LineByte → List Bytes
  | 0, _ => []
  | count + 1, line =>
    let isBlank (c : LineByte) : Bool :=
      c.2 && separators.contains c.1 && [0x20, 0x09, 0x0A].contains c.1
    let isCut (c : LineByte) : Bool := c.2 && separators.contains c.1
    let line := line.dropWhile isBlank
    let field := line.takeWhile (!isCut ·)
    -- a separator belongs to the field in front of it, together with the blanks around it
    let behind := (line.drop field.length).dropWhile isBlank
    let behind := if (behind.head?.map isCut) = some true then behind.tail.dropWhile isBlank else behind
    if count = 0 then
      if behind = [] then [field.map Prod.fst]
      else [((line.reverse.dropWhile isBlank).reverse).map Prod.fst]
    else field.map Prod.fst :: valuesOf separators count behind

def read (args : List Bytes) : Run Nat := do
  let (options, names) ← Letters.read ⟨"r", "p"⟩ args
  if names = [] then Run.fail ["arg count"]
  else
    let s ← get
    let (line, rest, complete) := lineOf (options.any (·.1 == 'r')) (s.input 0).1
    set (s.consume 0 rest.length)
    for (name, value) in names.zip (valuesOf s.separators names.length line) do
      Run.assign (← checkedName name) value
    return if complete then 0 else 1

end FreshBuild.Shell.Builtin
