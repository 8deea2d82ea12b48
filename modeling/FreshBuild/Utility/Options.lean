/-
# FreshBuild.Utility.Options — the options of a utility.

Options may stand anywhere among the operands, until an argument `--` ends them. A short option is a
letter behind a hyphen and may share its hyphen with others; a long one has a name behind two hyphens,
which may be cut short as long as it stays the only one. An option with a value takes it from the rest
of its argument or else from the next argument.
-/
import FreshBuild.Utility.Naming

namespace FreshBuild.Utility

/-- Whether an option has a value. A value that is only allowed must stand behind an equals sign. -/
inductive Wants where
  | nothing
  | value
  | perhaps
deriving DecidableEq

/-- The options a utility knows. A long name stands for a letter. -/
structure Known where
  flags : String
  valued : String
  long : List (String × Char × Wants)
  /-- The first operand ends the options. -/
  operandsLast : Bool

/-- The options of a utility whose options have no values. -/
def Known.ofFlags (flags : String) (long : List (String × Char)) : Known :=
  ⟨flags, "", long.map fun (name, c) => (name, c, .nothing), false⟩

/-- Options in the order in which they were given, and operands. -/
structure Given where
  options : List (Char × Option Bytes)
  operands : List Bytes

namespace Given

def has (g : Given) (c : Char) : Bool := g.options.any fun (d, _) => d == c

/-- The value that was given last. -/
def value? (g : Given) (c : Char) : Option Bytes :=
  (g.options.reverse.find? fun (d, _) => d == c).bind Prod.snd

/-- The one of several options that was given last. -/
def last? (g : Given) (cs : List Char) : Option Char :=
  (g.options.reverse.find? fun (d, _) => cs.contains d).map Prod.fst

end Given

/-- The options behind one hyphen: what they are, and how many of the further arguments they take. -/
def shortOptions (k : Known) : Bytes → List Bytes → Except (List Bytes) (List (Char × Option Bytes) × Nat)
  | [], _ => .ok ([], 0)
  | b :: rest, further =>
    let c := Char.ofNat b.toNat
    if k.flags.toList.contains c then
      (shortOptions k rest further).map fun (options, taken) => ((c, none) :: options, taken)
    else if k.valued.toList.contains c then
      match rest, further with
      | [], [] => .error ["option requires an argument -- '", [b], "'"]
      | [], value :: _ => .ok ([(c, some value)], 1)
      | value, _ => .ok ([(c, some value)], 0)
    else .error ["invalid option -- '", [b], "'"]

/-- The long options that a name may stand for. -/
def candidates (k : Known) (name : Bytes) : List (String × Char × Wants) :=
  let all := k.long ++ [("help", '?', .nothing), ("version", '!', .nothing)]
  match all.find? fun (n, _) => Utf8.ofString n = name with
  | some exact => [exact]
  | none => all.filter fun (n, _) => name.isPrefixOf (Utf8.ofString n)

/-- The long option in an argument, read after its hyphens. -/
def longOption (k : Known) (arg : Bytes) (further : List Bytes) :
    Except (List Bytes) (List (Char × Option Bytes) × Nat) :=
  let name := arg.takeWhile (· != 0x3D)
  let value : Option Bytes := match arg.dropWhile (· != 0x3D) with
    | _ :: value => some value
    | [] => none
  match candidates k name with
  | [] => .error ["unrecognized option '--", arg, "'"]
  | [(full, c, wants)] =>
    match wants, value with
    | .nothing, some _ => .error ["option '--", full, "' doesn't allow an argument"]
    | .value, none =>
      match further with
      | [] => .error ["option '--", full, "' requires an argument"]
      | next :: _ => .ok ([(c, some next)], 1)
    | _, value => .ok ([(c, value)], 0)
  | several =>
    let names : List Bytes := several.map fun (n, _) => Utf8.ofString (" '--" ++ n ++ "'")
    .error ("option '--" :: arg :: "' is ambiguous; possibilities:" :: names)

/-- Reads arguments. Of `skip` arguments at the front nothing is wanted: they were values. -/
def readOptions (k : Known) : Nat → List Bytes → Except (List Bytes) Given
  | _, [] => .ok ⟨[], []⟩
  | skip + 1, _ :: rest => readOptions k skip rest
  | 0, arg :: rest =>
    let withOptions (found : List (Char × Option Bytes) × Nat) : Except (List Bytes) Given :=
      (readOptions k found.2 rest).map fun g => { g with options := found.1 ++ g.options }
    match arg with
    | 0x2D :: 0x2D :: [] => .ok ⟨[], rest⟩
    | 0x2D :: 0x2D :: name => (longOption k name rest).bind withOptions
    | 0x2D :: letter :: letters => (shortOptions k (letter :: letters) rest).bind withOptions
    | operand =>
      if k.operandsLast then .ok ⟨[], operand :: rest⟩
      else (readOptions k 0 rest).map fun g => { g with operands := operand :: g.operands }

/-- The line that points to the help. -/
def suggestHelp (w : Work) : Work :=
  w.write .err (Utf8.ofString "Try '" ++ w.task.zero ++
    Utf8.ofString " --help' for more information.\n")

/-- The process gives up because of its arguments. -/
def refuse (t : Task) (code : Nat) (parts : List Bytes) : Finish :=
  ((suggestHelp (t.begin.complain parts)).fail code).finish

/-- Reads the options of a task and goes on with them. -/
def withOptions (k : Known) (code : Nat) (act : Given → Task → Finish) (t : Task) : Finish :=
  match readOptions k 0 t.args with
  | .error parts => refuse t code parts
  | .ok g => if g.has '?' || g.has '!' then t.exit [] [] 0 else act g t

end FreshBuild.Utility
