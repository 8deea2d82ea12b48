/-
# FreshBuild.Utility.Copies — links, copies and moves.

These utilities have sources and a target. If the target is a directory, each source gets its own last
name in it; otherwise there is one source and the target is its new name.
-/
import FreshBuild.Utility.Files

namespace FreshBuild.Utility

/-! ## Sources and targets -/

/-- The last name of a path, without the slashes behind it. -/
def lastName (operand : Bytes) : Bytes :=
  let trimmed := (operand.reverse.dropWhile (· == Path.slash)).reverse
  if trimmed = [] then operand.take 1
  else (trimmed.reverse.takeWhile (· != Path.slash)).reverse

/-- The path of a name in a directory. -/
def inside (dir : Bytes) (name : Bytes) : Bytes := ((⟨dir⟩ : Path).join ⟨name⟩).bytes

/-- An operand leads to a directory. -/
def isDirectory (w : Work) (operand : Bytes) : Bool :=
  (w.task.disk.enter w.task.at_ ⟨operand⟩).toOption.isSome

/-- The pairs of a source and its new path that operands ask for. The flag `alone` allows a source
without a target; `asName` never takes the target for a directory. -/
def pairs? (t : Task) (g : Given) (alone asName keepLink : Bool) :
    Except (Option (List Bytes)) (List (Bytes × Bytes)) :=
  let w := t.begin
  let into (dir : Bytes) (sources : List Bytes) := sources.map fun s => (s, inside dir (lastName s))
  let isPlainLink (operand : Bytes) : Bool :=
    keepLink && match t.disk.inspect false t.at_ ⟨operand⟩ with
      | .ok (_, .link _) => true
      | _ => false
  match g.value? 't', g.operands with
  | _, [] => .error (some ["missing file operand"])
  | some dir, sources =>
    if isDirectory w dir then .ok (into dir sources)
    else .error (some ["target directory ", quoted dir, ": Not a directory"])
  | none, [source] =>
    if alone then .ok (into (Utf8.ofString ".") [source])
    else .error (some ["missing destination file operand after ", quoted source])
  | none, [source, target] =>
    if !asName && isDirectory w target && !isPlainLink target then .ok (into target [source])
    else .ok [(source, target)]
  | none, operands =>
    let target := operands.getLast?.getD []
    if asName then .error (some ["extra operand ", quoted (operands[2]?.getD [])])
    else match t.disk.enter t.at_ ⟨target⟩ with
      | .ok _ => .ok (into target operands.dropLast)
      | .error cause => .error (some ["target ", quoted target, ": ", reason cause])

/-- Works through pairs of paths. Wrong operands end the process; only those about their number point
to the help. -/
def eachPair (t : Task) (pairs : Except (Option (List Bytes)) (List (Bytes × Bytes)))
    (act : Work → Bytes × Bytes → Work) : Finish :=
  match pairs with
  | .ok pairs => (pairs.foldl act t.begin).finishAtOnce
  | .error parts =>
    let parts := parts.getD []
    let isAboutNumber := parts.head?.any fun p =>
      (Utf8.ofString "missing").isPrefixOf p || (Utf8.ofString "extra").isPrefixOf p
    if isAboutNumber then refuse t 1 parts else ((t.begin.complain parts).fail 1).finish

/-- Two paths lead to the same entry. -/
def isSameEntry (w : Work) (a b : Bytes) : Bool :=
  let place (p : Bytes) := (w.task.disk.inspect true w.task.at_ ⟨p⟩).toOption.map Prod.fst
  (place a).isSome && place a == place b

/-! ## Links -/

/-- Makes one link. -/
def linkOne (symbolic force verbose : Bool) (w : Work) (pair : Bytes × Bytes) : Work :=
  let (source, target) := pair
  let d := w.task.disk
  let failed (cause : Cause) : Work :=
    let start : List Bytes :=
      ["failed to create ", if symbolic then "symbolic" else "hard", " link ", quoted target]
    let relation : List Bytes :=
      if symbolic then (if source = [] then [" -> ", quoted source] else [])
      else if cause = .system .alreadyExists then []
      else [" => ", quoted source]
    (w.complain (start ++ relation ++ ([": ", reason cause] : List Bytes))).fail 1
  let existing := (d.inspect false w.task.at_ ⟨target⟩).toOption
  let act (entry : Entry) : Work :=
    if force && existing.isSome && isSameEntry w source target then
      (w.complain [quoted source, " and ", quoted target, " are the same file"]).fail 1
    else
      let cleared := match existing, force with
        | some (_, .directory), _ => d
        | some (l, _), true => d.erase l
        | _, _ => d
      match cleared.make w.task.at_ ⟨target⟩ entry with
      | .ok d' =>
        reportIf verbose [quoted target, if symbolic then " -> " else " => ", quoted source]
          (w.withDisk d')
      | .error cause => failed cause
  if symbolic then
    if source = [] then failed (.system .noEntry) else act (.link ⟨source⟩)
  else match d.inspect false w.task.at_ ⟨source⟩ with
    | .error cause => failedOn w "failed to access" source cause
    | .ok (_, .directory) => (w.complain [named source, ": hard link not allowed for directory"]).fail 1
    | .ok (_, entry) => act entry

def ln : Task → Finish :=
  withOptions ⟨"bdfFinrsvLPT", "tS", [("force", 'f', .nothing), ("symbolic", 's', .nothing),
      ("no-dereference", 'n', .nothing), ("verbose", 'v', .nothing), ("target-directory", 't', .value),
      ("no-target-directory", 'T', .nothing), ("interactive", 'i', .nothing)], false⟩ 1 fun g t =>
    eachPair t (pairs? t g true (g.has 'T') (g.has 'n')) (linkOne (g.has 's') (g.has 'f') (g.has 'v'))

/-! ## Copies -/

/-- How `cp` copies. -/
structure Copying where
  recursive : Bool
  followsLinks : Bool
  keepsExisting : Bool
  verbose : Bool

/-- Copies an entry that is no directory. -/
def copyFile (c : Copying) (w : Work) (source target : Bytes) (entry : Entry) : Work :=
  let d := w.task.disk
  let reported (d' : Disk) : Work :=
    reportIf c.verbose [quoted source, " -> ", quoted target] (w.withDisk d')
  let create (result : Except Cause Disk) : Work :=
    match result with
    | .ok d' => reported d'
    | .error (.system errno) =>
      let cause : Cause := .system (if errno = .isDirectory then .notDirectory else errno)
      failedOn w "cannot create regular file" target cause
    | .error cause => failedOn w "cannot create regular file" target cause
  match d.inspect false w.task.at_ ⟨target⟩ with
  | .ok (_, .directory) =>
    (w.complain ["cannot overwrite directory ", quoted target, " with non-directory"]).fail 1
  | .ok (l, existing) =>
    if c.keepsExisting then w
    else if isSameEntry w source target then
      (w.complain [quoted source, " and ", quoted target, " are the same file"]).fail 1
    else match entry, existing with
      | .link to_, _ => reported (d.put l (.link to_))
      | .file content _, .link _ =>
        if (d.inspect true w.task.at_ ⟨target⟩).toOption.isNone then
          (w.complain ["not writing through dangling symlink ", quoted target]).fail 1
        else create (d.writeFile w.task.at_ ⟨target⟩ (fun _ => content) false)
      | .file content _, _ => create (d.writeFile w.task.at_ ⟨target⟩ (fun _ => content) false)
      | _, _ => create (d.writeFile w.task.at_ ⟨target⟩ (fun _ => []) false)
  | .error _ =>
    match entry with
    | .link to_ =>
      match d.make w.task.at_ ⟨target⟩ (.link to_) with
      | .ok d' => reported d'
      | .error cause => failedOn w "cannot create symbolic link" target cause
    | .file content x => create (d.writeFile w.task.at_ ⟨target⟩ (fun _ => content) x)
    | _ => create (d.writeFile w.task.at_ ⟨target⟩ (fun _ => []) false)

/-- Makes the directory that a copied directory becomes. -/
def copyDirectory (c : Copying) (w : Work) (source target : Bytes) : Work :=
  match w.task.disk.makeDir w.task.at_ ⟨target⟩ with
  | .ok d => reportIf c.verbose [quoted source, " -> ", quoted target] (w.withDisk d)
  | .error cause =>
    if isDirectory w target then w
    else if cause == .system .alreadyExists then
      (w.complain ["cannot overwrite non-directory ", quoted target, " with directory ",
        quoted source]).fail 1
    else failedOn w "cannot create directory" target cause

/-- Copies one source. A directory is copied as it was found, so a copy inside of itself comes to an
end. -/
def copyOne (c : Copying) (w : Work) (pair : Bytes × Bytes) : Work :=
  let (source, target) := pair
  match w.task.disk.inspect c.followsLinks w.task.at_ ⟨source⟩ with
  | .error cause => failedOn w "cannot stat" source cause
  | .ok (l, .directory) =>
    if !c.recursive then
      (w.complain ["-r not specified; omitting directory ", quoted source]).fail 1
    else
      let rows := w.task.disk.listing l
      let started := copyDirectory c w source target
      if !isDirectory started target then started
      else
        let copied := rows.foldl (fun w (below, entry) =>
          let path (front : Bytes) :=
            (below.foldl (fun (p : Path) name => p.join ⟨name⟩) ⟨front⟩).bytes
          match entry with
          | .directory => copyDirectory c w (path source) (path target)
          | entry => copyFile c w (path source) (path target) entry) started
        match w.task.disk.parent w.task.at_ ⟨target⟩ with
        | .ok (dir, .name name) =>
          if l.isPrefixOf (dir ++ [name]) && l != dir ++ [name] then
            (copied.complain ["cannot copy a directory, ", quoted source, ", into itself, ",
              quoted target]).fail 1
          else copied
        | _ => copied
  | .ok (_, entry) => copyFile c w source target entry

def cp : Task → Finish :=
  withOptions ⟨"abdfHilLnprRsuvxPTZ", "tS", [("archive", 'a', .nothing), ("force", 'f', .nothing),
      ("recursive", 'r', .nothing), ("no-clobber", 'n', .nothing), ("verbose", 'v', .nothing),
      ("target-directory", 't', .value), ("no-target-directory", 'T', .nothing),
      ("dereference", 'L', .nothing), ("no-dereference", 'P', .nothing), ("update", 'u', .perhaps),
      ("preserve", 'p', .perhaps), ("interactive", 'i', .nothing)], false⟩ 1 fun g t =>
    let recursive := g.has 'r' || g.has 'R' || g.has 'a'
    let follows := match g.last? ['L', 'P', 'd', 'a'] with
      | some 'L' => true
      | some _ => false
      | none => !recursive
    eachPair t (pairs? t g false (g.has 'T') false)
      (copyOne ⟨recursive, follows, g.last? ['n', 'f'] == some 'n', g.has 'v'⟩)

/-! ## Moves -/

/-- Moves one source. -/
def moveOne (keepsExisting verbose : Bool) (w : Work) (pair : Bytes × Bytes) : Work :=
  let (source, target) := pair
  let d := w.task.disk
  match d.inspect false w.task.at_ ⟨source⟩ with
  | .error cause => failedOn w "cannot stat" source cause
  | .ok (from_, entry) =>
    let existing := (d.inspect false w.task.at_ ⟨target⟩).toOption
    if keepsExisting && existing.isSome then (w.complain ["not replacing ", quoted target]).fail 1
    else if existing.any (·.1 == from_) then
      (w.complain [quoted source, " and ", quoted target, " are the same file"]).fail 1
    else match existing, entry with
      | some (_, .directory), .directory | none, _ => rename
      | some (_, .directory), _ =>
        (w.complain ["cannot overwrite directory ", quoted target, " with non-directory"]).fail 1
      | some _, .directory =>
        (w.complain ["cannot overwrite non-directory ", quoted target, " with directory ",
          quoted source]).fail 1
      | some _, _ => rename
where
  rename : Work :=
    let (source, target) := pair
    match w.task.disk.rename w.task.at_ ⟨source⟩ ⟨target⟩ with
    | .ok d' => reportIf verbose ["renamed ", quoted source, " -> ", quoted target] (w.withDisk d')
    | .error cause =>
      (w.complain (match cause with
        | .system errno =>
          if errno = .invalid then
            ["cannot move ", quoted source, " to a subdirectory of itself, ", quoted target]
          else if errno = .notEmpty then ["cannot overwrite ", quoted target, ": ", reason cause]
          else ["cannot move ", quoted source, " to ", quoted target, ": ", reason cause]
        | _ => ["cannot move ", quoted source, " to ", quoted target, ": ", reason cause])).fail 1

def mv : Task → Finish :=
  withOptions ⟨"bfinuvTZ", "tS", [("force", 'f', .nothing), ("no-clobber", 'n', .nothing),
      ("verbose", 'v', .nothing), ("target-directory", 't', .value), ("update", 'u', .perhaps),
      ("no-target-directory", 'T', .nothing), ("interactive", 'i', .nothing)], false⟩ 1 fun g t =>
    eachPair t (pairs? t g false (g.has 'T') false)
      (moveOne (g.last? ['n', 'f'] == some 'n') (g.has 'v'))

/-! ## Where links lead -/

def readlink : Task → Finish :=
  withOptions ⟨"femnqsvz", "", [("canonicalize", 'f', .nothing),
      ("canonicalize-existing", 'e', .nothing), ("canonicalize-missing", 'm', .nothing),
      ("no-newline", 'n', .nothing), ("quiet", 'q', .nothing), ("silent", 's', .nothing),
      ("verbose", 'v', .nothing), ("zero", 'z', .nothing)], false⟩ 1 fun g t =>
    if g.operands = [] then needOperand "operand" t
    else
      let ending : Bytes := if g.has 'n' && g.operands.length = 1 then [] else [0x0A]
      (each t.begin g.operands fun w operand =>
        if g.has 'f' || g.has 'e' || g.has 'm' then
          match w.task.disk.follow true false Disk.maxLinks w.task.at_ ⟨operand⟩ with
          | .ok (.entry l _) => w.print ((Location.path l).bytes ++ ending)
          | .ok (.vacant dir name) =>
            if g.has 'e' then w.fail 1 else w.print ((Location.path (dir ++ [name])).bytes ++ ending)
          | .error _ => w.fail 1
        else match w.task.disk.inspect false w.task.at_ ⟨operand⟩ with
          | .ok (_, .link target) => w.print (target.bytes ++ ending)
          | _ => w.fail 1).finishAtOnce

def realpath : Task → Finish :=
  withOptions ⟨"emLPqsz", "", [("canonicalize-existing", 'e', .nothing),
      ("canonicalize-missing", 'm', .nothing), ("quiet", 'q', .nothing), ("strip", 's', .nothing),
      ("no-symlinks", 's', .nothing), ("zero", 'z', .nothing)], false⟩ 1 fun g t =>
    if g.operands = [] then needOperand "operand" t
    else (each t.begin g.operands fun w operand =>
      match w.task.disk.follow true false Disk.maxLinks w.task.at_ ⟨operand⟩ with
      | .ok (.entry l _) => w.print ((Location.path l).bytes ++ [0x0A])
      | .ok (.vacant dir name) =>
        if g.has 'e' then (w.complain [named operand, ": No such file or directory"]).fail 1
        else w.print ((Location.path (dir ++ [name])).bytes ++ [0x0A])
      | .error errno => (w.complain [named operand, ": ", Utf8.ofString errno.text]).fail 1).finishAtOnce

end FreshBuild.Utility
