import OutOfBand.Main
import OutOfBand.Proofs.Acceptance
import OutOfBand.Proofs.CommandLine.Agreement
import OutOfBand.Proofs.CommandLine.ArgumentSecrets
import OutOfBand.Proofs.CommandLine.CheckMode
import OutOfBand.Proofs.CommandLine.Contract
import OutOfBand.Proofs.CommandLine.JobDeletions
import OutOfBand.Proofs.CommandLine.Layers
import OutOfBand.Proofs.Connection
import OutOfBand.Proofs.Diagnostic
import OutOfBand.Proofs.Document
import OutOfBand.Proofs.Endpoint
import OutOfBand.Proofs.Operation.JobAddress
import OutOfBand.Proofs.Operation.JobMessages
import OutOfBand.Proofs.Operation.Pagination
import OutOfBand.Proofs.Operation.Reachability
import OutOfBand.Proofs.Operation.Refusals
import OutOfBand.Proofs.Operation.SystemReset
import OutOfBand.Proofs.Operation.UnreadState
import OutOfBand.Proofs.Plan.Sufficiency
import OutOfBand.Proofs.Secrecy
import OutOfBand.Proofs.Session.Authentication
import OutOfBand.Proofs.Session.Confinement
import OutOfBand.Proofs.Session.Lifecycle
import OutOfBand.Proofs.Session.Naming
import OutOfBand.Proofs.Url.Query
import OutOfBand.Settings.JsonForm
