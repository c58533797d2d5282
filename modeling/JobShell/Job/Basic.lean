import JobShell.Termination

/-!
# Jobs

A job is a child that was launched in the background: its pid, the line that launched it
and what is known of its end.
-/

namespace JobShell

/-- What is known of the end of a job. -/
inductive JobState where
  | running
  | ended (t : Termination)
deriving DecidableEq, Repr

namespace JobState

/-- The end, once it is known. -/
def termination? : JobState → Option Termination
  | running => none
  | ended t => some t

def message : JobState → String
  | running => "running"
  | ended t => t.message

/-- The state as the listing of jobs shows it. -/
def shown : JobState → String
  | running => "Running"
  | ended t => t.shown

end JobState

/-- A child launched in the background. -/
structure Job where
  pid : Pid
  input : String
  state : JobState := .running
deriving DecidableEq, Repr

namespace Job

/-- The job with a known end. -/
def finish (job : Job) (t : Termination) : Job :=
  { job with state := .ended t }

/-- The report on a job that the user sees. -/
def report (job : Job) : String :=
  "background pid " ++ toString job.pid ++ " is done: " ++ job.state.message

end Job

end JobShell
