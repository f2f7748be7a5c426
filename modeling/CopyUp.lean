import CopyUp.Main
import CopyUp.Proofs.ClosedProbe
import CopyUp.Proofs.Confinement
import CopyUp.Proofs.Custody
import CopyUp.Proofs.Cuts
import CopyUp.Proofs.Descriptors
import CopyUp.Proofs.Detection
import CopyUp.Proofs.Hosts
import CopyUp.Proofs.Interruption
import CopyUp.Proofs.Lengths
import CopyUp.Proofs.Records
import CopyUp.Proofs.Restraint
import CopyUp.Proofs.SeededStore
import CopyUp.Proofs.Seeding
import CopyUp.Proofs.Selection
import CopyUp.Proofs.Signals
import CopyUp.Proofs.Status
import CopyUp.Proofs.Stopping
import CopyUp.Proofs.Streams
import CopyUp.Proofs.Turns
import CopyUp.Proofs.Verdicts
import CopyUp.Proofs.Writing
