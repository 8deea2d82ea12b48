/-
# FreshBuild.Path — path names as byte strings.

A path is an arbitrary byte string; nothing is normalised until somebody asks. Three views of it are
kept apart on purpose, because they answer different questions:

* `names` — the non-empty stretches between slashes, `.` and `..` included. A file system walks these.
* `components` — the view in which repeated slashes, trailing slashes and every `.` that is not the
  first name disappear. A configured directory name is judged by these.
* `bytes` — the spelling. `join` and the messages keep it, trailing slash and all.

The gap between the second view and the first is where a spelling such as `a/.` is one component for
the validator and two names for the file system.
-/
import FreshBuild.Text.Utf8

namespace FreshBuild

/-- A path name. -/
structure Path where
  bytes : Bytes
deriving DecidableEq

namespace Path

/-! ## Bytes with a meaning -/

def slash : UInt8 := 0x2F
def dot : UInt8 := 0x2E

/-- The name of the directory itself. -/
def here : Bytes := [dot]

/-- The name of the parent directory. -/
def up : Bytes := [dot, dot]

/-- The path spelled by a string. -/
def ofString (text : String) : Path := ⟨Utf8.ofString text⟩

/-- The path as it is shown in messages. -/
def display (p : Path) : String := Utf8.lossy p.bytes

/-! ## Spelling -/

def isAbsolute (p : Path) : Bool := p.bytes.head? == some slash

def endsInSlash (p : Path) : Bool := p.bytes.getLast? == some slash

/-- The stretches between slashes, empty ones included; there is always at least one. -/
def stretches : Bytes → List Bytes
  | [] => [[]]
  | b :: rest =>
    if b = slash then [] :: stretches rest
    else match stretches rest with
      | [] => [[b]]
      | s :: more => (b :: s) :: more

/-- The names a walk along the path meets. -/
def names (p : Path) : List Bytes :=
  (stretches p.bytes).filter (· ≠ [])

/-! ## Components -/

/-- A component of a path. -/
inductive Component where
  | root
  | here
  | up
  | normal (name : Bytes)
deriving DecidableEq

/-- The component of a name that is not a dropped `.`. -/
def Component.ofName (name : Bytes) : Component :=
  if name = Path.up then .up else .normal name

/-- The components of a path. A `.` survives only as the first name of a relative path. -/
def components (p : Path) : List Component :=
  let kept (names : List Bytes) := (names.filter (· ≠ here)).map Component.ofName
  if p.isAbsolute then .root :: kept p.names
  else match p.names with
    | [] => []
    | first :: rest => if first = here then .here :: kept rest else kept (first :: rest)

/-! ## Joining and making absolute -/

/-- The path `q` taken from `p`. An absolute `q` replaces `p`; otherwise one slash is put between
them unless `p` is empty or ends in one. Nothing else is touched, so an empty `q` leaves `p` with a
slash at its end. -/
def join (p q : Path) : Path :=
  if q.isAbsolute then q
  else if p.bytes = [] || p.endsInSlash then ⟨p.bytes ++ q.bytes⟩
  else ⟨p.bytes ++ slash :: q.bytes⟩

/-- Exactly two slashes at the front are kept as two; three or more count as one. -/
def startsInDoubleSlash (p : Path) : Bool :=
  match p.bytes with
  | a :: b :: rest => a == slash && b == slash && rest.head? != some slash
  | _ => false

/-- The path made absolute against the current directory `cwd`, by spelling alone: no name is looked
up and `..` stays. Repeated slashes and `.` go, a trailing slash stays as one. Only the empty path
has no absolute form. -/
def absolute? (p cwd : Path) : Option Path :=
  if p.bytes = [] then none
  else
    let start : Path :=
      if p.startsInDoubleSlash then ⟨[slash, slash]⟩
      else if p.isAbsolute then ⟨[slash]⟩
      else cwd
    let body := (p.names.filter (· ≠ here)).foldl (fun q name => q.join ⟨name⟩) start
    some (if p.endsInSlash then body.join ⟨[]⟩ else body)

end Path

end FreshBuild
