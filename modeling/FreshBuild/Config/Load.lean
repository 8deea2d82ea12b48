/-
# FreshBuild.Config.Load — a configuration from a file.

Reading goes through strict phases: the file must be readable as text, the text must be a TOML
document as a whole, the document must have the settings' keys and types, and the settings must be
runnable. A fault of an earlier phase hides every fault of a later one. A file that does not exist is
a fault only for a caller who named it.
-/
import FreshBuild.Config.Decode
import FreshBuild.Disk.Operations
import FreshBuild.Toml.Document

namespace FreshBuild

/-- Why a text is no configuration that can be run. -/
inductive Config.Refusal where
  | malformed
  | data (p : Config.Problem)
  | defect (d : Config.Defect)
deriving DecidableEq

/-- Why a configuration file could not be loaded. -/
inductive LoadError where
  | unreadable (path : Path) (cause : Cause)
  | refused (path : Path) (refusal : Config.Refusal)
deriving DecidableEq

namespace LoadError

/-- The phase that failed, with the path as it was given. -/
def head : LoadError → String
  | .unreadable path _ => "read " ++ path.display
  | .refused path .malformed => "parse " ++ path.display
  | .refused path (.data _) => "parse " ++ path.display
  | .refused path (.defect _) => "validate " ++ path.display

/-- What was wrong. -/
def detail : LoadError → String
  | .unreadable _ cause => cause.message
  | .refused _ .malformed => "not a TOML document"
  | .refused _ (.data problem) => problem.message
  | .refused _ (.defect defect) => defect.message

def message (e : LoadError) : String := e.head ++ ": " ++ e.detail

end LoadError

namespace Config

/-- The configuration a table holds, if it can be run. -/
def ofTable (fields : Toml.Fields) : Except Refusal Config :=
  match decode fields with
  | .error problem => .error (.data problem)
  | .ok c =>
    match c.validate with
    | .error defect => .error (.defect defect)
    | .ok () => .ok c

/-- The configuration a text holds. -/
def parse (text : List Char) : Except Refusal Config :=
  match Toml.read? text with
  | none => .error .malformed
  | some fields => ofTable fields

/-- The configuration a file's content holds; `path` is for the messages. -/
def ofBytes (path : Path) (content : Bytes) : Except LoadError Config :=
  match Utf8.decode? content with
  | none => .error (.unreadable path .notUtf8)
  | some text => (parse text).mapError (.refused path)

/-- The configuration in a file that somebody named. -/
def loadRequired (d : Disk) (at_ : Location) (path : Path) : Except LoadError Config :=
  match d.readFile at_ path with
  | .error cause => .error (.unreadable path cause)
  | .ok content => ofBytes path content

/-- The configuration in a file that need not exist. -/
def load (d : Disk) (at_ : Location) (path : Path) : Except LoadError Config :=
  match d.readFile at_ path with
  | .error cause => if cause.isAbsence then .ok standard else .error (.unreadable path cause)
  | .ok content => ofBytes path content

end Config

end FreshBuild
