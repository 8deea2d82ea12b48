/-
# FreshBuild.Text.Terminal — text with control sequences, and what a terminal shows of it.

A terminal reads bytes in modes. In the mode `text` a byte is shown; an escape byte leaves that mode
and opens a control sequence, which is not shown, and each kind of sequence has its own way to end.
`visible` keeps the bytes that are shown. It is a finite automaton (`step`), so it is one structural
pass, and a sequence that never ends hides all that follows it.

A text with looks is a list of stretches. `render` writes it with the control sequences that turn a
look on and off, and `visible` takes them out again, along with all that the text itself held.
-/
import FreshBuild.Environment

namespace FreshBuild.Terminal

/-! ## Control sequences -/

/-- What a terminal is reading. -/
inductive Mode where
  /-- Bytes to be shown. -/
  | text
  /-- The byte after an escape byte, which tells the kind of sequence. -/
  | escape
  /-- A short sequence with intermediate bytes. -/
  | short
  /-- The parameters of a control function. -/
  | control
  /-- The parameters of a device string. -/
  | device
  /-- A string for the device or for a program. -/
  | string
  /-- A command for the operating system. -/
  | command
deriving DecidableEq

/-- A blank or a line break. Unlike the other control characters it is shown. -/
def isBlank (b : UInt8) : Bool :=
  b == 0x20 || b == 0x09 || b == 0x0A || b == 0x0C || b == 0x0D

/-- The byte that closes a sequence: a letter or one of the signs among the letters. -/
def isFinal (b : UInt8) : Bool := 0x40 ≤ b && b < 0x7F

/-- The mode after a byte that may be a control character inside of a sequence. A line break is
shown there too, and gives the sequence up. -/
def inside (mode : Mode) (b : UInt8) (next : Mode) : Mode × Bool :=
  if b < 0x20 then (if isBlank b then (.text, true) else (mode, false)) else (next, false)

/-- The mode that the byte after an escape byte opens. -/
def opened (b : UInt8) : Mode :=
  if b < 0x30 then .short
  else if b = 0x5B then .control
  else if b = 0x5D then .command
  else if b = 0x50 then .device
  else if b = 0x58 || b = 0x5E || b = 0x5F then .string
  else if b < 0x7F then .text
  else .escape

/-- Reads one byte: the mode after it, and whether it is shown. An escape byte opens a sequence in
any mode, and two control characters break off any sequence. -/
def step (mode : Mode) (b : UInt8) : Mode × Bool :=
  if b = 0x1B then (.escape, false)
  else if b = 0x18 || b = 0x1A then (.text, false)
  else match mode with
    | .text => (.text, isBlank b || 0x20 < b && b != 0x7F)
    | .escape => inside .escape b (opened b)
    | .short => inside .short b (if 0x30 ≤ b && b < 0x7F then .text else .short)
    | .control => inside .control b (if isFinal b then .text else .control)
    | .device => (if isFinal b then .string else .device, false)
    | .string => (if b = 0x9C then .text else .string, false)
    | .command => (if b = 0x07 then .text else .command, false)

/-- The bytes that are shown of those read in a mode. -/
def shown : Mode → Bytes → Bytes
  | _, [] => []
  | mode, b :: rest =>
    if (step mode b).2 then b :: shown (step mode b).1 rest else shown (step mode b).1 rest

/-- The bytes that a terminal shows. -/
def visible (bytes : Bytes) : Bytes := shown .text bytes

/-! ## Text with looks -/

/-- How a stretch of text looks. -/
inductive Look where
  | plain
  | strong
  | heading
  | alarm
  | doubtful
deriving DecidableEq

/-- The control sequences that turn a look on. -/
def Look.codes : Look → String
  | .plain => ""
  | .strong => "\x1b[1m"
  | .heading => "\x1b[1m\x1b[4m"
  | .alarm => "\x1b[1m\x1b[31m"
  | .doubtful => "\x1b[33m"

/-- A text in stretches, each with its look. -/
abbrev Styled := List (Look × String)

/-- The text with control sequences. Every look but the plain one is turned off at its end. -/
def render (t : Styled) : String :=
  String.join (t.map fun (look, text) =>
    look.codes ++ text ++ if look = .plain then "" else "\x1b[0m")

/-- Whether looks are asked for where no terminal is looking. -/
def wantsLooks (env : Environment) : Bool :=
  let filled (name : String) : Bool := !((env.value? name).getD []).isEmpty
  filled "CLICOLOR_FORCE" && !filled "NO_COLOR"

/-- The bytes of a text as they are printed where no terminal is looking: with control sequences
only if looks are asked for. -/
def print (env : Environment) (t : Styled) : Bytes :=
  let bytes := Utf8.ofString (render t)
  if wantsLooks env then bytes else visible bytes

end FreshBuild.Terminal
