/-
# FreshBuild.Environment — the variables a program is started with.

A variable has a name and an arbitrary byte string as its value. A later setting of a name replaces
an earlier one, so a name stands in an environment at most once.
-/
import FreshBuild.Text.Utf8

namespace FreshBuild

/-- Variables with their values. -/
abbrev Environment := List (String × Bytes)

namespace Environment

/-- The environment with one variable set. A variable that is set again keeps its place. -/
def set (env : Environment) (name : String) (value : Bytes) : Environment :=
  if env.any (·.1 == name) then env.map fun (n, v) => (n, if n = name then value else v)
  else env ++ [(name, value)]

/-- The environment without one variable. -/
def unset (env : Environment) (name : String) : Environment :=
  env.filter (·.1 != name)

/-- The value of a variable. -/
def value? (env : Environment) (name : String) : Option Bytes :=
  env.lookup name

end Environment

end FreshBuild
