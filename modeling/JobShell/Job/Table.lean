import JobShell.Job.Basic
import JobShell.Signal.TerminationLog
import JobShell.Sink
import JobShell.Text.Quoted

/-!
# The job table

The jobs that are still running as far as the shell knows, one for each pid and in the
order of their pids. `JobTable.reconcile` applies facts to it: a fact with the status word
of an end reports and removes the job of its pid, any other fact changes nothing.
-/

namespace JobShell

/-- The tracked jobs in increasing order of their pids. -/
structure JobTable where
  jobs : List Job := []
deriving DecidableEq, Repr

namespace JobTable

def empty : JobTable := {}

/-- Puts a job into its place; it replaces a job of the same pid. -/
def insertJob (job : Job) : List Job → List Job
  | [] => [job]
  | j :: js =>
    if job.pid < j.pid then job :: j :: js
    else if job.pid = j.pid then job :: js
    else j :: insertJob job js

/-- Starts to track a child. -/
def create (t : JobTable) (pid : Pid) (input : String) : JobTable :=
  ⟨insertJob { pid, input } t.jobs⟩

def find? (t : JobTable) (pid : Pid) : Option Job :=
  t.jobs.find? fun j => j.pid == pid

/-- Stops tracking a pid. -/
def erase (t : JobTable) (pid : Pid) : JobTable :=
  ⟨t.jobs.filter fun j => j.pid != pid⟩

def pids (t : JobTable) : List Pid :=
  t.jobs.map Job.pid

def hasJobs (t : JobTable) : Bool :=
  !t.jobs.isEmpty

/-- Applies one fact. A report that cannot be written is lost, and its job is removed all
the same. -/
def reconcileFact (t : JobTable) (sink : Sink) (fact : Fact) : JobTable × Sink :=
  match Termination.ofStatus? fact.status, t.find? fact.pid with
  | some termination, some job =>
    (t.erase fact.pid, (sink.write ((job.finish termination).report ++ "\n")).2)
  | _, _ => (t, sink)

/-- Applies facts from first to last and passes the reports on. -/
def reconcile (t : JobTable) (sink : Sink) (facts : List Fact) : JobTable × Sink :=
  let (t, sink) := facts.foldl (fun s fact => reconcileFact s.1 s.2 fact) (t, sink)
  (t, sink.flush.2)

/-- A job in one line. -/
def shownJob (job : Job) : String :=
  "Job \x7b pid: Pid(" ++ toString job.pid ++ "), input: " ++ Text.quoted job.input ++
    ", state: " ++ job.state.shown ++ " \x7d\n"

/-- The number of jobs and every job, each in one line. -/
def shown (t : JobTable) : String :=
  toString t.jobs.length ++ " jobs\n" ++ (t.jobs.map shownJob).foldr (· ++ ·) ""

end JobTable

end JobShell
