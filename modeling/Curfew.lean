import Curfew.Host.Trial
import Curfew.Main
import Curfew.Proofs.Host.Time
import Curfew.Proofs.Supervisor.Fidelity
import Curfew.Proofs.Supervisor.Ownership
import Curfew.Proofs.Supervisor.Deadline
import Curfew.Proofs.Supervisor.Verdict
import Curfew.Proofs.Supervisor.Grounds
import Curfew.Proofs.Supervisor.Slots
import Curfew.Proofs.Supervisor.Isolation
import Curfew.Proofs.Supervisor.Overflow
import Curfew.Proofs.Capture.FirstFailure
import Curfew.Proofs.Supervisor.Schedules
import Curfew.Proofs.Host.Pipes
import Curfew.Proofs.Supervisor.Polling
import Curfew.Proofs.Capture.Session
import Curfew.Proofs.Capture.Race
import Curfew.Proofs.Capture.Termination
import Curfew.Proofs.Outcome.WaitStatus
import Curfew.Proofs.Outcome.Views
import Curfew.Proofs.Settings.Merge
import Curfew.Proofs.CommandLine.Conduct
import Curfew.Proofs.Script.Path
