import Downstream.Main
import Downstream.Proofs.Cli.Init
import Downstream.Proofs.Files.History
import Downstream.Proofs.OpenShift.AnyOrder
import Downstream.Proofs.OpenShift.Characters
import Downstream.Proofs.OpenShift.Lines
import Downstream.Proofs.OpenShift.VersionTail
import Downstream.Proofs.Project.Acceptance
import Downstream.Proofs.Scaffold.Convergence
import Downstream.Proofs.Scaffold.Document
import Downstream.Proofs.Substitution.Events
import Downstream.Proofs.Substitution.Mirror
import Downstream.Proofs.Substitution.Table
