import Stencil.Main
import Stencil.Proofs.Command.Argument
import Stencil.Proofs.Command.Report
import Stencil.Proofs.Files.AllOrNothing
import Stencil.Proofs.Generation.InputsOnly
import Stencil.Proofs.Generation.Skipping
import Stencil.Proofs.Files.Addition
import Stencil.Proofs.Generation.Dispatch
import Stencil.Proofs.Generation.Termination
import Stencil.Proofs.Generation.Model
import Stencil.Proofs.Generation.Isolation
import Stencil.Proofs.Settings.Precedence
import Stencil.Proofs.Generation.Enumeration
import Stencil.Proofs.Reader.InPlace
import Stencil.Proofs.Reader.Registration
import Stencil.Proofs.Task.Failure
import Stencil.Proofs.Project.Reading
import Stencil.Proofs.Settings.Reporting
import Stencil.Proofs.Generation.TemplateFiles
import Stencil.Proofs.Task.Interpolation
import Stencil.Proofs.Template.Version
import Stencil.Proofs.Generation.Outputs
import Stencil.Proofs.Reader.EntityNames
import Stencil.Proofs.Task.History
