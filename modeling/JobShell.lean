import JobShell.Command.Expansion
import JobShell.Failure
import JobShell.Text.Blank
import JobShell.Text.Decimal
import JobShell.Text.Grapheme
import JobShell.Text.Lines
import JobShell.Text.Quoted
import JobShell.Text.EditDistance
import JobShell.Text.Utf8
import JobShell.Job.Table
import JobShell.Signal.Mode
import JobShell.Input.ByteReader
import JobShell.Input.Terminal
import JobShell.Job.Notification
import JobShell.System.FileSystem
import JobShell.Launch
import JobShell.Shell.Interpreter
import JobShell.Userland.Script.Interpreter
import JobShell.Userland.Basic
import JobShell.CommandLine.Basic
import JobShell.Session.Basic
import JobShell.Main
import JobShell.Proofs.Log.Taking
import JobShell.Proofs.Log.Queue
import JobShell.Proofs.Kernel.Outstanding
import JobShell.Proofs.Kernel.Remaining
import JobShell.Proofs.Job.Draining
import JobShell.Proofs.Tracking.Basic
import JobShell.Proofs.Tracking.Wakeup
import JobShell.Proofs.Tracking.Accounting
import JobShell.Proofs.Tracking.Due
import JobShell.Proofs.Machine.Drift
import JobShell.Proofs.Machine.Launch
import JobShell.Proofs.Tracking.Shell
import JobShell.Proofs.Command.RoundTrip
import JobShell.Proofs.Command.Expansion
import JobShell.Proofs.Command.Runs
import JobShell.Proofs.Command.Settled
import JobShell.Proofs.Launch.Spawning
import JobShell.Proofs.Text.LineSplit
import JobShell.Proofs.Text.Decoding
import JobShell.Proofs.Failure.Chain
import JobShell.Proofs.Input.Lines
import JobShell.Proofs.Input.Breaking
import JobShell.Proofs.Shell.Status
import JobShell.Proofs.Job.Contents
import JobShell.Proofs.Job.History
import JobShell.Proofs.Job.Operations
import JobShell.Proofs.Job.Reordering
import JobShell.Proofs.Job.StatusWord
import JobShell.Proofs.Attribution.Basic
import JobShell.Proofs.Attribution.Roster
import JobShell.Proofs.Attribution.Lineup
import JobShell.Proofs.Attribution.Following
import JobShell.Proofs.Attribution.Exactness
import JobShell.Proofs.Attribution.Shell
import JobShell.Proofs.Mode.Readers
import JobShell.Proofs.Kernel.Steady
import JobShell.Proofs.Machine.Steady
import JobShell.Proofs.Machine.Intake
import JobShell.Proofs.Shell.Going
import JobShell.Proofs.Shell.Mode
import JobShell.Proofs.Shell.Failing
import JobShell.Proofs.Text.Numerals
import JobShell.Proofs.Shell.Leaving
import JobShell.Proofs.Kernel.Alike
import JobShell.Proofs.Machine.Alike
import JobShell.Proofs.Machine.StopsFirst
import JobShell.Proofs.Shell.Alike
import JobShell.Proofs.Shell.Splicing
import JobShell.Proofs.Shell.ForegroundOnly
import JobShell.Proofs.Shell.Loop
import JobShell.Proofs.Shell.ReadFailure
import JobShell.Proofs.Launch.Requests
import JobShell.Proofs.Launch.Refused
import JobShell.Proofs.Shell.Reuse
import JobShell.Proofs.Shell.SetUpFailure
import JobShell.Proofs.Failure.Wording
import JobShell.Proofs.Shell.Blank
