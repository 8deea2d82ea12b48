/-
# FreshBuild.Utility.Conditions — what files and texts are tested for.

These are the conditions that a test is made of. How the arguments of a test are read, and what is
complained about, is the business of those who test.
-/
import FreshBuild.Utility.Naming

namespace FreshBuild.Utility

/-- The text is one of the operators. -/
def isAmong (operators : List String) (arg : Bytes) : Bool :=
  operators.any fun op => Utf8.ofString op = arg

/-- A condition on one file. All permissions but the one to execute are always given. -/
def fileHolds (d : Disk) (at_ : Location) (op : Char) (path : Bytes) : Bool :=
  let entry := ((d.inspect true at_ ⟨path⟩).toOption).map Prod.snd
  match op with
  | 'e' | 'r' | 'w' | 'O' | 'G' => entry.isSome
  | 'd' => entry.any Entry.isDirectory
  | 'f' => entry.any fun | .file .. | .program _ => true | _ => false
  | 's' => entry.any fun | .file content _ => content != [] | .null => false | _ => true
  | 'x' => entry.any fun
    | .directory | .program _ => true
    | .file _ executable => executable
    | _ => false
  | 'c' => entry.any fun | .null => true | _ => false
  | 'h' | 'L' =>
    ((d.inspect false at_ ⟨path⟩).toOption).any fun | (_, .link _) => true | _ => false
  | _ => false

/-- A condition on one file or on one text, told by the letter of its operator. -/
def unaryHolds (t : Task) (letter : UInt8) (arg : Bytes) : Bool :=
  if letter = 0x7A then arg = []
  else if letter = 0x6E then arg != []
  else fileHolds t.disk t.at_ (Char.ofNat letter.toNat) arg

/-- The condition on two numbers that an operator stands for. -/
def numberRelation? (op : String) : Option (Int → Int → Bool) :=
  match op with
  | "-eq" => some (· == ·)
  | "-ne" => some (· != ·)
  | "-lt" => some (decide <| · < ·)
  | "-le" => some (decide <| · ≤ ·)
  | "-gt" => some (decide <| · > ·)
  | "-ge" => some (decide <| · ≥ ·)
  | _ => none

/-- Two names lead to the same file. -/
def isSameFile (t : Task) (a b : Bytes) : Bool :=
  let place (p : Bytes) := ((t.disk.inspect true t.at_ ⟨p⟩).toOption).map Prod.fst
  (place a).isSome && place a == place b

end FreshBuild.Utility
