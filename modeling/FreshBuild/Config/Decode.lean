/-
# FreshBuild.Config.Decode — a configuration from a TOML table.

The keys of a table are looked at in the order of their bytes and the first problem is reported. A
key that is absent keeps its standard value. A tool is a table with the one key `command`; it may
also be an array, whose first item is then the command and whose further items are not looked at.
-/
import FreshBuild.Config
import FreshBuild.Decimal.Shortest
import FreshBuild.Text.Quoted
import FreshBuild.Toml.Value
import FreshBuild.Word

namespace FreshBuild.Config

/-! ## Problems -/

/-- A value as a setting sees it. Tables and moments look alike, and so do all arrays. -/
inductive Found where
  | text (s : String)
  | integer (n : Int)
  | garbled
  | float (x : Toml.Decimal)
  | boolean (b : Bool)
  | nothing
  | sequence
  | map
deriving DecidableEq

/-- What a setting wants. -/
inductive Wanted where
  | text
  | boolean
  | seconds
  | sequence
  | tool
  | jobs
deriving DecidableEq

/-- Why a table is no configuration. -/
inductive Problem where
  | unknownKey (key : String)
  | unknownToolKey (key : String)
  | missingCommand
  | emptyTool
  | wrongType (found : Found) (wanted : Wanted)
  | negativeSeconds (n : Int)
  | integerOverflow
  | floatOverflow
  | jobs (e : JobsError)
deriving DecidableEq

def Found.ofValue : Toml.Value → Found
  | .string s => .text s
  | .integer n => .integer n
  | .garbled _ => .garbled
  | .float x => .float x
  | .boolean b => .boolean b
  | .moment _ => .map
  | .array _ => .sequence
  | .table _ => .map

/-- A float as a message shows it, rounded to the nearest machine float. -/
def floatText : Toml.Decimal → String
  | .nan => "NaN"
  | .infinite negative => if negative then "-inf" else "inf"
  | .finite negative digits exponent =>
    (if negative then "-" else "") ++
      ((Decimal.ofDecimal? digits exponent).map Decimal.Binary.text).getD "inf"

/-- An integer as a message shows it. One that no 64-bit integer holds names the type that does. -/
def integerText (n : Int) : String :=
  Fault.quoted (Digits.signedText n) ++
    if Word.holds 64 n || Word.holdsSigned 64 n then ""
    else if Word.holdsSigned 128 n then " as i128"
    else " as u128"

def Found.describe : Found → String
  | .text s => "string " ++ Quoted.quote s
  | .integer n => "integer " ++ integerText n
  | .garbled => "integer"
  | .float x => "floating point " ++ Fault.quoted (floatText x)
  | .boolean b => "boolean " ++ Fault.quoted (if b then "true" else "false")
  | .nothing => "unit value"
  | .sequence => "sequence"
  | .map => "map"

def Wanted.describe : Wanted → String
  | .text => "a string"
  | .boolean => "a boolean"
  | .seconds => "u64"
  | .sequence => "a sequence"
  | .tool => "struct ToolConfig"
  | .jobs => "a positive integer or \"auto\""

/-- The keys of a configuration, in the order a message lists them. -/
def keys : List String :=
  ["build_dir", "jobs", "keep_going", "check_status", "timeout_secs", "configure", "build"]

def Problem.message : Problem → String
  | .unknownKey key =>
    "unknown field " ++ Fault.quoted key ++ ", expected one of " ++
      ", ".intercalate (keys.map Fault.quoted)
  | .unknownToolKey key =>
    "unknown field " ++ Fault.quoted key ++ ", expected " ++ Fault.quoted "command"
  | .missingCommand => "missing field " ++ Fault.quoted "command"
  | .emptyTool => "invalid length 0, expected struct ToolConfig with 1 element"
  | .wrongType found wanted =>
    "invalid type: " ++ found.describe ++ ", expected " ++ wanted.describe
  | .negativeSeconds n =>
    "invalid value: integer " ++ Fault.quoted (Digits.signedText n) ++ ", expected u64"
  | .integerOverflow => "integer number overflowed"
  | .floatOverflow => "floating-point number overflowed"
  | .jobs e => e.message

/-! ## Single settings -/

/-- A value that is not what is wanted. A number that no machine number holds is a problem of its
own, whatever was wanted, and so is a garbled one. -/
def mismatch (found : Found) (wanted : Wanted) : Problem :=
  match found with
  | .integer n =>
    if Word.holds 128 n || Word.holdsSigned 128 n then .wrongType found wanted
    else .integerOverflow
  | .garbled => .integerOverflow
  | .float (.finite _ digits exponent) =>
    if (Decimal.ofDecimal? digits exponent).isNone then .floatOverflow
    else .wrongType found wanted
  | _ => .wrongType found wanted

def decodeText (v : Toml.Value) : Except Problem String :=
  match v with
  | .string s => .ok s
  | _ => .error (mismatch (.ofValue v) .text)

def decodeBoolean (v : Toml.Value) : Except Problem Bool :=
  match v with
  | .boolean b => .ok b
  | _ => .error (mismatch (.ofValue v) .boolean)

/-- A number of seconds: any 64-bit word. -/
def decodeSeconds (v : Toml.Value) : Except Problem UInt64 :=
  match v with
  | .integer n =>
    if Word.holds 64 n then .ok (UInt64.ofNat n.toNat)
    else if Word.holdsSigned 64 n then .error (.negativeSeconds n)
    else .error (mismatch (.integer n) .seconds)
  | _ => .error (mismatch (.ofValue v) .seconds)

/-- A job count: a text for `Jobs.parse`, or an integer that a signed or an unsigned word holds. -/
def decodeJobs (found : Found) : Except Problem Jobs :=
  match found with
  | .text s => (Jobs.parse s).mapError .jobs
  | .integer n =>
    if Word.holdsSigned 64 n then (Jobs.ofInt (Int64.ofInt n)).mapError .jobs
    else if Word.holds 64 n then (Jobs.ofCount (UInt64.ofNat n.toNat)).mapError .jobs
    else .error (mismatch found .jobs)
  | _ => .error (mismatch found .jobs)

/-! ## Tools -/

def decodeCommand (v : Toml.Value) : Except Problem Tool :=
  match v with
  | .array items => (items.mapM decodeText).map Tool.mk
  | _ => .error (mismatch (.ofValue v) .sequence)

/-- The fields of a table in the order of their keys' bytes. -/
def sorted (fields : Toml.Fields) : Toml.Fields :=
  fields.mergeSort fun a b => !decide (b.1 < a.1)

/-- The key under which a moment in time shows itself where a table is wanted. -/
def momentKey : String := "$__toml_private_datetime"

/-- One field of a tool table. -/
def decodeToolField (_ : Option Tool) (field : String × Toml.Value) :
    Except Problem (Option Tool) :=
  if field.1 = "command" then (decodeCommand field.2).map some
  else .error (.unknownToolKey field.1)

def decodeTool (v : Toml.Value) : Except Problem Tool :=
  match v with
  | .table fields => do
    match ← (sorted fields).foldlM decodeToolField none with
    | some tool => return tool
    | none => throw .missingCommand
  | .array [] => .error .emptyTool
  | .array (first :: _) => decodeCommand first
  | .moment _ => .error (.unknownToolKey momentKey)
  | _ => .error (mismatch (.ofValue v) .tool)

/-! ## The whole table -/

/-- One field of a configuration table. -/
def decodeField (c : Config) (field : String × Toml.Value) : Except Problem Config :=
  match field with
  | ("build_dir", v) => (decodeText v).map fun buildDir => { c with buildDir }
  | ("jobs", v) => (decodeJobs (.ofValue v)).map fun jobs => { c with jobs }
  | ("keep_going", v) => (decodeBoolean v).map fun keepGoing => { c with keepGoing }
  | ("check_status", v) => (decodeBoolean v).map fun checkStatus => { c with checkStatus }
  | ("timeout_secs", v) => (decodeSeconds v).map fun n => { c with timeoutSecs := some n }
  | ("configure", v) => (decodeTool v).map fun configure => { c with configure }
  | ("build", v) => (decodeTool v).map fun build => { c with build }
  | (key, _) => .error (.unknownKey key)

/-- The configuration a table holds. -/
def decode (fields : Toml.Fields) : Except Problem Config :=
  (sorted fields).foldlM decodeField standard

end FreshBuild.Config
