/-
# FreshBuild.BuildDir — starting the build directory afresh.

A reset removes the build directory with all it holds and makes it anew. A link at the build path is
never followed by the removal of what it points to: whatever is found there must be a directory
itself. The parent is not made, so a mistyped root fails instead of growing a new tree.
-/
import FreshBuild.Disk.Operations
import FreshBuild.Fault

namespace FreshBuild.BuildDir

/-- Removes the directory at `p`. Absence is as good as removal. -/
def clean (d : Disk) (at_ : Location) (p : Path) : Disk × Except Fault Unit :=
  match d.inspect false at_ p with
  | .error cause =>
    (d, if cause.isAbsence then .ok () else .error (.filesystem "inspect" p cause))
  | .ok (_, entry) =>
    if !entry.isDirectory then (d, .error (.notADirectory p))
    else match d.removeTree at_ p with
      | (d', .ok ()) => (d', .ok ())
      | (d', .error cause) =>
        (d', if cause.isAbsence then .ok () else .error (.filesystem "remove" p cause))

/-- Makes the directory at `p`, which must not exist while its parent must. -/
def create (d : Disk) (at_ : Location) (p : Path) : Disk × Except Fault Unit :=
  match d.makeDir at_ p with
  | .ok d' => (d', .ok ())
  | .error cause => (d, .error (.filesystem "create" p cause))

/-- Makes the directory at `p` exist and be empty. -/
def reset (d : Disk) (at_ : Location) (p : Path) : Disk × Except Fault Unit :=
  match clean d at_ p with
  | (d', .ok ()) => create d' at_ p
  | (d', .error fault) => (d', .error fault)

end FreshBuild.BuildDir
