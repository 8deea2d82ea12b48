/-
# FreshBuild.Utility.Starting — utilities that start programs.

They change something about the task, its environment, its time or its arguments, and hand it to the
program that their own arguments name.
-/
import FreshBuild.Utility.Lines
import FreshBuild.Utility.Words

namespace FreshBuild.Utility

/-- The code of a utility whose program did not start. -/
def startCode (errno : Errno) : Nat := if errno = .noEntry then 127 else 126

/-- Goes on as another program. What was written before stays. -/
def become (start : Starter) (w : Work) (t : Task) (program : Bytes) (args : List Bytes)
    (refused : Work → Errno → Finish) : Finish :=
  match start program { t with disk := w.task.disk, zero := program, args } with
  | .ok f => { f with written := w.written.reverse ++ f.written }
  | .error errno => refused w errno

/-! ## Environments -/

/-- The lines that show an environment. -/
def environmentLines (env : Environment) (lineEnd : Bytes) : Bytes :=
  env.flatMap fun (name, value) => Utf8.ofString name ++ 0x3D :: value ++ lineEnd

/-- An argument that sets a variable: the name and the value. -/
def setting (arg : Bytes) : String × Bytes :=
  (Utf8.lossy (arg.takeWhile (· != 0x3D)), (arg.dropWhile (· != 0x3D)).tail)

/-- The arguments in one text, cut at blanks. -/
def splitArguments (text : Bytes) : List Bytes := wordsOf text

/-- The arguments with the one that holds several opened up. -/
def openArguments (args : List Bytes) : List Bytes :=
  match args with
  | [0x2D, 0x53] :: text :: rest => splitArguments text ++ rest
  | (0x2D :: 0x53 :: text) :: rest => splitArguments text ++ rest
  | args =>
    match args with
    | first :: rest =>
      let long := Utf8.ofString "--split-string="
      if long.isPrefixOf first then splitArguments (first.drop long.length) ++ rest else args
    | [] => []

def env (start : Starter) (t : Task) : Finish :=
  withOptions ⟨"i0v", "uC", [("ignore-environment", 'i', .nothing), ("null", '0', .nothing),
      ("unset", 'u', .value), ("chdir", 'C', .value), ("debug", 'v', .nothing)], true⟩ 125 (fun g t =>
    let operands := if g.operands.head? = some [0x2D] then g.operands.tail else g.operands
    let isBare := g.has 'i' || g.operands.head? == some [0x2D]
    let dropped := g.options.filterMap fun (c, value) => if c = 'u' then value else none
    let kept := t.environment.filter fun (name, _) => !isBare && !dropped.contains (Utf8.ofString name)
    let settings := operands.takeWhile (·.contains 0x3D)
    let environment := settings.foldl (fun (e : Environment) arg =>
      e.set (setting arg).1 (setting arg).2) kept
    let moved : Except Cause Location := match g.value? 'C' with
      | some dir => t.disk.enter t.at_ ⟨dir⟩
      | none => .ok t.at_
    match moved, operands.drop settings.length with
    | .error cause, _ =>
      ((t.begin.complain ["cannot change directory to ", quoted ((g.value? 'C').getD []), ": ",
        reason cause]).fail 125).finish
    | .ok _, [] => t.exit (environmentLines environment (if g.has '0' then [0] else [0x0A])) [] 0
    | .ok at_, program :: args =>
      become start t.begin { t with environment, at_ } program args fun w errno =>
        let w := w.complain [cited program, ": ", errno.text]
        let w := if errno = .noEntry && program.any isSpace then
          w.complain ["use -[v]S to pass options in shebang lines"] else w
        (w.fail (startCode errno)).finish) { t with args := openArguments t.args }

def printenv : Task → Finish :=
  withOptions ⟨"0", "", [("null", '0', .nothing)], true⟩ 2 fun g t =>
    let lineEnd : Bytes := if g.has '0' then [0] else [0x0A]
    if g.operands = [] then t.exit (environmentLines t.environment lineEnd) [] 0
    else
      let values := g.operands.map fun name => t.environment.value? (Utf8.lossy name)
      t.exit (values.flatMap fun v => (v.map (· ++ lineEnd)).getD []) []
        (if values.all Option.isSome then 0 else 1)

/-! ## Time -/

/-- Runs a program and stops it when its time is up. -/
def timeout (start : Starter) : Task → Finish :=
  withOptions ⟨"fpv", "ks", [("foreground", 'f', .nothing), ("preserve-status", 'p', .nothing),
      ("verbose", 'v', .nothing), ("kill-after", 'k', .value), ("signal", 's', .value)], true⟩ 125
    fun g t =>
    match g.operands with
    | duration :: program :: args =>
      match interval? duration with
      | none => refuse t 125 ["invalid time interval ", cited duration]
      | some millis =>
        let limit := if millis = 0 then t.limit else some (min millis (t.limit.getD millis))
        let ended (f : Finish) : Finish :=
          if f.ending = .expired && !t.isOver f.spent then
            let signal := (g.value? 's').getD []
            let kills := [Utf8.ofString "KILL", Utf8.ofString "SIGKILL", Utf8.ofString "9"]
            if kills.contains signal then { f with ending := .signalled 9 }
            else { f with ending := .exited (if g.has 'p' then 143 else 124) }
          else f
        ended (become start t.begin { t with limit } program args fun w errno =>
          ((w.complain ["failed to run command ", quoted program, ": ", errno.text]).fail
            (startCode errno)).finish)
    | _ => ((suggestHelp t.begin).fail 125).finish

/-! ## Many arguments -/

/-- The words of an input for `xargs`: blanks separate them, quotes and backslashes protect. -/
def quotedWords : Option UInt8 → Option Bytes → Bytes → List Bytes
  | _, none, [] => []
  | _, some word, [] => [word]
  | some q, word, b :: rest =>
    if b = q then quotedWords none (some (word.getD [])) rest
    else quotedWords (some q) (some (word.getD [] ++ [b])) rest
  | none, word, 0x5C :: b :: rest => quotedWords none (some (word.getD [] ++ [b])) rest
  | none, word, b :: rest =>
    if b = 0x22 || b = 0x27 then quotedWords (some b) (some (word.getD [])) rest
    else if isSpace b then word.toList ++ quotedWords none none rest
    else quotedWords none (some (word.getD [] ++ [b])) rest

/-- Lists of at most `n` elements. -/
def inGroups {α : Type} (n : Nat) (xs : List α) : List (List α) :=
  match xs with
  | [] => []
  | x :: rest => (x :: rest.take (n - 1)) :: inGroups n (rest.drop (n - 1))
termination_by xs.length
decreasing_by simp only [List.length_drop, List.length_cons]; omega

/-- Replaces every occurrence of a text that is not empty. -/
def replaceAll (old new : Bytes) : Nat → Bytes → Bytes
  | 0, s => s
  | _, [] => []
  | fuel + 1, b :: rest =>
    if old != [] && old.isPrefixOf (b :: rest) then
      new ++ replaceAll old new fuel ((b :: rest).drop old.length)
    else b :: replaceAll old new fuel rest

/-- Runs a program once and notes how it went. A program that exits with 255 ends the work. -/
def xargsOnce (start : Starter) (w : Work) (program : Bytes) (args : List Bytes) : Work × Bool :=
  match start program { w.task with zero := program, args, input := [] } with
  | .error errno =>
    ((w.complain [program, ": ", errno.text]).fail (startCode errno), true)
  | .ok f =>
    let w := { w.withDisk f.disk with written := f.written.reverse ++ w.written }
    match f.ending with
    | .exited 0 => (w, false)
    | .exited 255 => ((w.complain [program, ": exited with status 255; aborting"]).fail 124, true)
    | .exited _ => (w.fail 123, false)
    | _ => ((w.complain [program, ": terminated by signal 9"]).fail 125, true)

/-- Runs a program on the words of the input. -/
def xargs (start : Starter) : Task → Finish :=
  withOptions ⟨"0rtpx", "nILdPsE", [("null", '0', .nothing), ("no-run-if-empty", 'r', .nothing),
      ("max-args", 'n', .value), ("replace", 'I', .value), ("delimiter", 'd', .value),
      ("max-procs", 'P', .value), ("verbose", 't', .nothing)], true⟩ 1 fun g t =>
    let (content, w) := t.begin.readInput
    let items : List Bytes :=
      if g.has '0' then ((content.splitBy fun a b => a != 0 && b != 0).filter (· != [0]))
      else match g.value? 'I' with
        | some _ => (contentLines content).filter (· != []) |>.map (·.dropWhile isSpace)
        | none => quotedWords none none content
    let program := g.operands.head?.getD (Utf8.ofString "echo")
    let first := g.operands.tail
    let runs : List (List Bytes) := match g.value? 'I' with
      | some mark => items.map fun item => first.map fun a => replaceAll mark item (a.length + 1) a
      | none =>
        if items = [] then (if g.has 'r' then [] else [first])
        else
          let most := (g.value? 'n').bind fun n => (Numeral.decimal? n).map Int.toNat
          (inGroups (most.getD items.length) items).map (first ++ ·)
    (runs.foldl (fun (w, isOver) args =>
      if isOver then (w, true) else xargsOnce start w program args) (w, false)).1.finish

end FreshBuild.Utility
