/-
# FreshBuild.Utility — the machine's programs by name.

A program is known by the name of its file. Some have more than one name, and a name can decide about
the rules that a program follows.
-/
import FreshBuild.Utility.Columns
import FreshBuild.Utility.Comparing
import FreshBuild.Utility.Copies
import FreshBuild.Utility.Editing
import FreshBuild.Utility.Expression
import FreshBuild.Utility.Files
import FreshBuild.Utility.Lines
import FreshBuild.Utility.Listing
import FreshBuild.Utility.Neighbours
import FreshBuild.Utility.Search
import FreshBuild.Utility.Sorting
import FreshBuild.Utility.Starting
import FreshBuild.Utility.Tests
import FreshBuild.Utility.Translating
import FreshBuild.Utility.Words

namespace FreshBuild.Utility

/-- A program that starts no others. -/
def alone (run : Task → Finish) : Program := fun _ => run

/-- The programs with their names. -/
def programs : List (String × Program) :=
  [("[", alone (test true)), ("basename", alone basename), ("cat", alone cat), ("chmod", alone chmod),
    ("cmp", alone cmp), ("cp", alone cp), ("cut", alone cut), ("dirname", alone dirname),
    ("echo", alone echo), ("egrep", alone (grep 'E')), ("env", env), ("expr", alone expr),
    ("false", alone fail), ("fgrep", alone (grep 'F')), ("grep", alone (grep 'G')),
    ("head", alone head), ("ln", alone ln), ("ls", alone ls), ("mkdir", alone mkdir),
    ("mv", alone mv), ("printenv", alone printenv), ("printf", alone printf), ("pwd", alone pwd),
    ("readlink", alone readlink), ("realpath", alone realpath), ("rm", alone rm),
    ("rmdir", alone rmdir), ("sed", alone sed), ("seq", alone seq), ("sleep", alone sleep),
    ("sort", alone sort), ("tac", alone tac), ("tail", alone tail), ("tee", alone tee),
    ("test", alone (test false)), ("timeout", timeout), ("touch", alone touch), ("tr", alone tr),
    ("true", alone succeed), ("uniq", alone uniq), ("wc", alone wc), ("xargs", xargs)]

/-- The program of a name. -/
def program? (name : String) : Option Program := programs.lookup name

end FreshBuild.Utility
