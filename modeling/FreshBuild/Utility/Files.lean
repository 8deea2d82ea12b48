/-
# FreshBuild.Utility.Files — making, removing and linking files.

A utility that works through operands goes on after a failure and exits with 1 at the end.
-/
import FreshBuild.Utility.Options

namespace FreshBuild.Utility

/-- Works through operands. -/
def each (w : Work) (operands : List Bytes) (act : Work → Bytes → Work) : Work :=
  operands.foldl act w

/-- A complaint about an operand that an operation failed on. -/
def failedOn (w : Work) (action : String) (operand : Bytes) (cause : Cause) : Work :=
  (w.complain [action, " ", quoted operand, ": ", reason cause]).fail 1

/-- The disk after an operation, or a complaint about its operand. -/
def orComplain (w : Work) (action : String) (operand : Bytes) : Except Cause Disk → Work
  | .ok d => w.withDisk d
  | .error cause => failedOn w action operand cause

/-- A line of a report on what was done, if reports are asked for. -/
def reportIf (verbose : Bool) (parts : List Bytes) (w : Work) : Work :=
  if verbose then w.print (parts.flatten ++ [0x0A]) else w

/-- An operand is needed. -/
def needOperand (what : String) (t : Task) : Finish := refuse t 1 ["missing ", what]

/-! ## Directories -/

/-- Makes a directory and all it lacks, one path after the other. -/
def makeFront (verbose : Bool) (operand : Bytes) : List Path → Work → Work
  | [], w => w
  | p :: rest, w =>
    match w.task.disk.makeDir w.task.at_ p with
    | .ok d =>
      makeFront verbose operand rest
        (reportIf verbose [w.task.zero, ": created directory ", quoted p.bytes] (w.withDisk d))
    | .error cause =>
      match w.task.disk.enter w.task.at_ p with
      | .ok _ => makeFront verbose operand rest w
      | .error _ =>
        let isFile := cause == .system .alreadyExists && rest != [] &&
          (w.task.disk.inspect true w.task.at_ p).toOption.isSome
        failedOn w "cannot create directory" p.bytes
          (if isFile then .system .notDirectory else cause)

def mkdir : Task → Finish :=
  withOptions ⟨"pvZ", "m", [("mode", 'm', .value), ("parents", 'p', .nothing),
      ("verbose", 'v', .nothing), ("context", 'Z', .perhaps)], false⟩ 1 fun g t =>
    if g.operands = [] then needOperand "operand" t
    else (each t.begin g.operands fun w operand =>
      if g.has 'p' && operand != [] then
        makeFront (g.has 'v') operand (Disk.frontPaths ⟨operand⟩) w
      else match w.task.disk.makeDir w.task.at_ ⟨operand⟩ with
        | .ok d =>
          reportIf (g.has 'v') [w.task.zero, ": created directory ", quoted operand] (w.withDisk d)
        | .error cause => failedOn w "cannot create directory" operand cause).finishAtOnce

/-- The directories above a path, from the nearest one on. -/
def parentPaths (p : Path) : List Path :=
  (Disk.frontPaths p).reverse.tail

/-- Removes empty directories, and the ones above them as long as none fails. -/
def removeUpwards (quietIfFull verbose : Bool) : List Path → Work → Work
  | [], w => w
  | p :: rest, w =>
    let w := reportIf verbose [w.task.zero, ": removing directory, ", quoted p.bytes] w
    match w.task.disk.removeDir w.task.at_ p with
    | .ok d => removeUpwards quietIfFull verbose rest (w.withDisk d)
    | .error cause =>
      if quietIfFull && cause == .system .notEmpty then w else failedOn w "failed to remove" p.bytes cause

def rmdir : Task → Finish :=
  withOptions (.ofFlags "pv" [("ignore-fail-on-non-empty", 'i'), ("parents", 'p'), ("verbose", 'v')])
    1 fun g t =>
    if g.operands = [] then needOperand "operand" t
    else (each t.begin g.operands fun w operand =>
      removeUpwards (g.has 'i') (g.has 'v')
        (⟨operand⟩ :: if g.has 'p' then parentPaths ⟨operand⟩ else []) w).finishAtOnce

/-! ## Removing -/

/-- How `rm` removes. -/
structure Removal where
  recursive : Bool
  force : Bool
  emptyDirectories : Bool
  verbose : Bool

/-- The lines that report the removal of everything below a directory, the deepest first. -/
def removalLines (d : Disk) (operand : Bytes) (l : Location) : List Bytes :=
  (d.listing l).reverse.map fun (below, e) =>
    let path := (below.foldl (fun (p : Path) name => p.join ⟨name⟩) ⟨operand⟩).bytes
    (if e.isDirectory then Utf8.ofString "removed directory " else Utf8.ofString "removed ") ++
      quoted path ++ [0x0A]

/-- Removes one operand. -/
def removeOne (r : Removal) (w : Work) (operand : Bytes) : Work :=
  let d := w.task.disk
  let failed (w : Work) (cause : Cause) : Work := failedOn w "cannot remove" operand cause
  match d.inspect false w.task.at_ ⟨operand⟩ with
  | .error cause =>
    if r.force && (cause.isAbsence || cause == .system .notDirectory) then w else failed w cause
  | .ok (l, .directory) =>
    if !r.recursive && !r.emptyDirectories then failed w (.system .isDirectory)
    else if r.recursive && l = [] then
      ((w.complain ["it is dangerous to operate recursively on '/'"]).complain
        ["use --no-preserve-root to override this failsafe"]).fail 1
    else if r.recursive &&
        (Path.names ⟨operand⟩).getLast?.any (fun n => n = Path.here || n = Path.up) then
      (w.complain ["refusing to remove '.' or '..' directory: skipping ", quoted operand]).fail 1
    else if r.recursive then
      let reported := if r.verbose then w.print (removalLines d operand l).flatten else w
      match d.removeTree w.task.at_ ⟨operand⟩ with
      | (d', .ok ()) =>
        reportIf r.verbose ["removed directory ", quoted operand] (reported.withDisk d')
      | (d', .error cause) => failed (w.withDisk d') cause
    else match d.removeDir w.task.at_ ⟨operand⟩ with
      | .ok d' => reportIf r.verbose ["removed directory ", quoted operand] (w.withDisk d')
      | .error cause => failed w cause
  | .ok _ =>
    match d.unlink w.task.at_ ⟨operand⟩ with
    | .ok d' => reportIf r.verbose ["removed ", quoted operand] (w.withDisk d')
    | .error cause => failed w cause

def rm : Task → Finish :=
  withOptions ⟨"dfirRvI", "", [("dir", 'd', .nothing), ("force", 'f', .nothing),
      ("interactive", 'i', .perhaps), ("recursive", 'r', .nothing), ("verbose", 'v', .nothing),
      ("one-file-system", '1', .nothing), ("preserve-root", '2', .perhaps),
      ("no-preserve-root", '3', .nothing)], false⟩ 1 fun g t =>
    if g.operands = [] then (if g.has 'f' then t.exit [] [] 0 else needOperand "operand" t)
    else
      let r : Removal := ⟨g.has 'r' || g.has 'R', g.last? ['f', 'i'] == some 'f', g.has 'd', g.has 'v'⟩
      (each t.begin g.operands (removeOne r)).finishAtOnce

/-! ## Touching and permissions -/

/-- Makes missing files; there are no times to change. -/
def touch : Task → Finish :=
  withOptions ⟨"acfhm", "drt", [("no-create", 'c', .nothing), ("date", 'd', .value),
      ("reference", 'r', .value), ("time", 'T', .value), ("no-dereference", 'h', .nothing)], false⟩
    1 fun g t =>
    if g.operands = [] then needOperand "file operand" t
    else (each t.begin g.operands fun w operand =>
      match w.task.disk.inspect true w.task.at_ ⟨operand⟩ with
      | .ok _ => w
      | .error (.system .notDirectory) => failedOn w "setting times of" operand (.system .notDirectory)
      | .error cause =>
        if operand = [0x2D] || g.has 'c' && cause.isAbsence then w
        else orComplain w "cannot touch" operand
          (w.task.disk.writeFile w.task.at_ ⟨operand⟩ id false)).finishAtOnce

/-- Whether a mode lets a file be executed that could be before or not; none if it is no mode. -/
def executableAfter? (mode : Bytes) (before : Bool) : Option Bool :=
  match (Utf8.decode? mode).bind (Digits.value? 8) with
  | some n => some (n % 2 == 1 || n / 8 % 2 == 1 || n / 64 % 2 == 1)
  | none =>
    let clauses := mode.splitBy fun a b => a != 0x2C && b != 0x2C
    clauses.foldlM (fun before clause =>
      let who := clause.takeWhile (Utf8.ofString "ugoa").contains
      match clause.drop who.length with
      | op :: permissions =>
        if clause = [0x2C] then some before
        else if !permissions.all (Utf8.ofString "rwxXst").contains then none
        else
          let executes := permissions.contains 0x78
          if op = 0x2B then some (before || executes)
          else if op = 0x2D then some (before && !executes)
          else if op = 0x3D then some executes
          else none
      | [] => none) before

def chmod (t : Task) : Finish :=
  -- a mode such as `-x` looks like an option
  let isMode (arg : Bytes) : Bool :=
    arg.head? == some 0x2D && arg.length > 1 && arg.tail.all (Utf8.ofString "rwxXst").contains
  let args := match t.args.find? isMode with
    | some mode => t.args.filter (· != mode) |>.cons (Utf8.ofString "a" ++ mode)
    | none => t.args
  withOptions ⟨"Rcfv", "", [("recursive", 'R', .nothing), ("changes", 'c', .nothing),
      ("silent", 'f', .nothing), ("quiet", 'f', .nothing), ("verbose", 'v', .nothing)], false⟩
    1 (fun g t =>
      match g.operands with
      | [] => needOperand "operand" t
      | [mode] => refuse t 1 ["missing operand after ", cited mode]
      | mode :: files =>
        if (executableAfter? mode false).isNone then refuse t 1 ["invalid mode: ", cited mode]
        else (each t.begin files fun w operand =>
          match w.task.disk.inspect true w.task.at_ ⟨operand⟩ with
          | .ok (l, .file content x) =>
            w.withDisk (w.task.disk.put l (.file content ((executableAfter? mode x).getD x)))
          | .ok _ => w
          | .error cause => failedOn w "cannot access" operand cause).finishAtOnce) { t with args }

end FreshBuild.Utility
