import JobShell.Job.Table
import JobShell.System.Kernel

/-!
# Notification

Once per line the shell takes what waits in the termination log and reports it. A log that
was saturated may have left children uncollected; then the child signal is raised again, so
that the handler collects further children, and the log is taken once more, up to 16 times
in all. Leaving the shell asks every tracked job to terminate; a request that fails stops none
of the others.
-/

namespace JobShell

namespace JobTable

/-- The most takings in one notification. -/
def maxDrainPasses : Nat := 16

/-- Takes the log and reconciles its facts, at most `passes` times. -/
def drain : Nat → JobTable → Sink → Kernel → JobTable × Sink × Kernel
  | 0, t, sink, k => (t, sink, k)
  | passes + 1, t, sink, k =>
    let (drained, log) := k.log.take
    let (t, sink) := t.reconcile sink drained.facts
    let k := { k with log }
    if drained.saturated then drain passes t sink k.raiseChild else (t, sink, k)

/-- Reports the jobs that have ended. -/
def notify (t : JobTable) (sink : Sink) (k : Kernel) : JobTable × Sink × Kernel :=
  drain maxDrainPasses t sink k

/-- Asks a job to terminate. What the system answers makes a difference only to the notes that
the shell keeps: the signal was sent, the child has ended though the table does not know of it
yet, or the request was denied. -/
def terminate (denials : Denials) (k : Kernel) (pid : Pid) : Kernel :=
  match k.kill denials pid Signal.terminate with
  | (.ok (), k) => k
  | (.error .noProcess, k) => k
  | (.error _, k) => k

/-- Whatever the answer is, the system is left as it is after the request. -/
theorem terminate_eq (denials : Denials) (k : Kernel) (pid : Pid) :
    terminate denials k pid = (k.kill denials pid Signal.terminate).2 := by
  rw [terminate]
  split <;> next h => rw [h]

/-- Asks every tracked job to terminate and forgets them all. -/
def terminateAll (t : JobTable) (k : Kernel) (denials : Denials := []) : JobTable × Kernel :=
  (.empty, t.pids.foldl (terminate denials) k)

end JobTable

end JobShell
