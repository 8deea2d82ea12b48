import FreshBuild.Main
import FreshBuild.Recorder
import FreshBuild.Proofs.BuildDir.Again
import FreshBuild.Proofs.BuildDir.Child
import FreshBuild.Proofs.BuildDir.Confinement
import FreshBuild.Proofs.BuildDir.Spelling
import FreshBuild.Proofs.Config.FirstFault
import FreshBuild.Proofs.Config.Heeded
import FreshBuild.Proofs.Config.Phases
import FreshBuild.Proofs.Config.Valid
import FreshBuild.Proofs.Config.Written
import FreshBuild.Proofs.Jobs.Grammar
import FreshBuild.Proofs.Json.Recovered
import FreshBuild.Proofs.Launch.NotFound
import FreshBuild.Proofs.Run.Elsewhere
import FreshBuild.Proofs.Run.Format
import FreshBuild.Proofs.Run.Link
import FreshBuild.Proofs.Run.Preview
import FreshBuild.Proofs.Run.Recorded
import FreshBuild.Proofs.Path.Absolute
import FreshBuild.Proofs.Report.Summary
