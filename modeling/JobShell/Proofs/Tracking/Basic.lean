import JobShell.Proofs.Job.Draining
import JobShell.Proofs.Kernel.Move

/-!
# Tracking jobs

What the shell, the system and the handler of the child signal do with one another as far as
jobs are concerned, cut into steps that may follow one another in any order that the steps
themselves allow. `Tracking` is the state: the job table, the kernel, and how far the main
loop is with a launch. `Tracking.Step` is one step with the events that it makes known, and
`Tracking.Run` a run of any length with its history.

What happens by itself can happen at any moment (`Kernel.Move`): a child ends; the signal that
tells of it waits while it is blocked and is delivered at any later moment while it is not,
also between the launch of a background child and its registration; and a child signal comes
without a child having ended.

Which pids new children get is up to the system, and a parameter of the steps (`PidSupply`): not
every result needs a promise of it, and those that do need different ones.
-/

namespace JobShell

/-- What the main loop is about. -/
inductive Stage where
  /-- It is at its head, or does what concerns no child. -/
  | idle
  /-- A foreground child is launched and not waited for yet. -/
  | waiting (pid : Pid)
  /-- A background child is launched and not registered yet. -/
  | handed (pid : Pid)
deriving DecidableEq, Repr

/-- The state that matters for jobs. -/
structure Tracking where
  jobs : JobTable := {}
  kernel : Kernel := {}
  stage : Stage := .idle
deriving DecidableEq, Repr

/-- What becomes known of a pid. -/
inductive Event where
  | launched (pid : Pid) (background : Bool)
  | ended (pid : Pid) (status : StatusWord)
  /-- The wait for a foreground child has found out how it ended. -/
  | waited (pid : Pid) (t : Termination)
  /-- A background child is reported done. -/
  | reported (pid : Pid) (t : Termination)
deriving DecidableEq, Repr

namespace Event

/-- Whom an event is about. -/
def pid : Event → Pid
  | launched pid _ => pid
  | ended pid _ => pid
  | waited pid _ => pid
  | reported pid _ => pid

/-- Whether an event is a launch. -/
def isLaunch : Event → Bool
  | launched _ _ => true
  | _ => false

/-- A report is given. -/
def ofReport (report : Pid × Termination) : Event :=
  reported report.1 report.2

/-- A child has ended. -/
def ofFact (fact : Fact) : Event :=
  ended fact.pid fact.status

end Event

namespace Tracking

/-- The state of a shell that has installed its handlers. -/
def start (signals : SignalSetup) : Tracking where
  kernel := { signals := signals.forShell }

/-- What a notification reports: the reports of the facts that its takings yield. -/
def reports (s : Tracking) : List (Pid × Termination) :=
  s.jobs.reports (Kernel.drainBatches JobTable.maxDrainPasses s.kernel).1.flatten

/-- The state after a notification that writes to this sink. -/
def notified (s : Tracking) (sink : Sink) : Tracking :=
  { s with
    jobs := (s.jobs.notify sink s.kernel).1
    kernel := (s.jobs.notify sink s.kernel).2.2 }

end Tracking

/-- The pids that the system may give to a new child, in each state. -/
abbrev PidSupply := Tracking → Pid → Prop

namespace PidSupply

/-- Any pid but those of the tracked jobs. -/
def untracked : PidSupply :=
  fun s pid => pid ∉ s.jobs.pids

/-- Any pid but those of the children that were not collected, which may well be the pid of a
tracked job whose child was. -/
def unheld : PidSupply :=
  fun s pid => s.kernel.holds pid = false

instance (s : Tracking) (pid : Pid) : Decidable (untracked s pid) :=
  inferInstanceAs (Decidable (pid ∉ s.jobs.pids))

instance (s : Tracking) (pid : Pid) : Decidable (unheld s pid) :=
  inferInstanceAs (Decidable (s.kernel.holds pid = false))

end PidSupply

namespace Tracking

/-- One step, and what becomes known by it. -/
inductive Step (supply : PidSupply) : Tracking → List Event → Tracking → Prop where
  /-- The main loop reports the jobs that have ended. -/
  | notify (s : Tracking) (sink : Sink) (hidle : s.stage = .idle) :
      Step supply s (s.reports.map Event.ofReport) (s.notified sink)
  /-- A background child starts. -/
  | launchBackground (s : Tracking) (pid : Pid) (signals : SignalSetup)
      (hidle : s.stage = .idle) (hpid : supply s pid) :
      Step supply s [.launched pid true]
        { s with kernel := s.kernel.start pid signals, stage := .handed pid }
  /-- The pid of a background child is registered with the line that launched it. -/
  | register (s : Tracking) (pid : Pid) (line : String) (hstage : s.stage = .handed pid) :
      Step supply s [] { s with jobs := s.jobs.create pid line, stage := .idle }
  /-- A foreground child starts, with the child signal blocked. -/
  | launchForeground (s : Tracking) (pid : Pid) (signals : SignalSetup)
      (hidle : s.stage = .idle) (hblocked : s.kernel.signals.childBlocked = true)
      (hpid : supply s pid) :
      Step supply s [.launched pid false]
        { s with kernel := s.kernel.start pid signals, stage := .waiting pid }
  /-- The wait for the foreground child finds that it has ended. -/
  | wait (s : Tracking) (pid : Pid) (status : StatusWord) (t : Termination)
      (hstage : s.stage = .waiting pid) (hreap : (s.kernel.reap pid).1 = some status)
      (hend : Termination.ofStatus? status = some t) :
      Step supply s [.waited pid t] { s with kernel := (s.kernel.reap pid).2, stage := .idle }
  /-- Something happens to the kernel by itself. -/
  | move (s : Tracking) {facts : List Fact} {k : Kernel} (move : s.kernel.Move facts k) :
      Step supply s (facts.map Event.ofFact) { s with kernel := k }
  /-- The shell sets its mask. As long as a foreground child is waited for the child signal stays
  blocked. -/
  | mask (s : Tracking) (mask : SignalSet)
      (hheld : ∀ pid, s.stage = .waiting pid → mask.contains Signal.child = true) :
      Step supply s [] { s with kernel := s.kernel.setMask mask }

/-- A run with its history. -/
inductive Run (supply : PidSupply) (s : Tracking) : List Event → Tracking → Prop where
  | nil : Run supply s [] s
  | snoc {history events : List Event} {t u : Tracking} (run : Run supply s history t)
      (step : Step supply t events u) : Run supply s (history ++ events) u

variable {supply : PidSupply}

theorem Run.append {s t u : Tracking} {history later : List Event}
    (first : Run supply s history t) (second : Run supply t later u) :
    Run supply s (history ++ later) u := by
  induction second with
  | nil => rwa [List.append_nil]
  | snoc run step ih =>
      rw [← List.append_assoc]
      exact .snoc ih step

theorem Run.of_step {s t : Tracking} {events : List Event} (step : Step supply s events t) :
    Run supply s events t :=
  .snoc .nil step

/-- The kernel is sound from the start on. -/
theorem sound_start (signals : SignalSetup) : (start signals).kernel.Sound where
  log := TerminationLog.WellFormed.empty
  handler := rfl
  wakeful hleft := absurd rfl hleft

theorem kernel_notified (s : Tracking) (sink : Sink) :
    (s.notified sink).kernel =
      (Kernel.drainBatches JobTable.maxDrainPasses s.kernel).2 := by
  rw [notified, JobTable.notify, JobTable.drain_eq]

theorem jobs_notified (s : Tracking) (sink : Sink) :
    (s.notified sink).jobs =
      s.jobs.settleAll
        (Kernel.drainBatches JobTable.maxDrainPasses s.kernel).1.flatten := by
  rw [notified, JobTable.notify, JobTable.drain_eq, JobTable.reconcileBatches_fst]

theorem sound_notified {s : Tracking} (h : s.kernel.Sound) (sink : Sink) :
    (s.notified sink).kernel.Sound := by
  rw [kernel_notified]
  exact (Kernel.drainBatches_conserves _ h).2.2.2

/-- The kernel stays sound, whatever pids the system gives. -/
theorem Step.sound {s t : Tracking} {events : List Event} (step : Step supply s events t)
    (h : s.kernel.Sound) : t.kernel.Sound := by
  cases step with
  | notify sink hidle => exact sound_notified h sink
  | launchBackground pid signals hidle hpid => exact h.start pid signals
  | register pid line hstage => exact h
  | launchForeground pid signals hidle hblocked hpid => exact h.start pid signals
  | wait pid status t hstage hreap hend => exact h.reap pid
  | move move => exact move.sound h
  | mask mask hheld => exact h.setMask mask

theorem Run.sound {s t : Tracking} {history : List Event} (run : Run supply s history t)
    (h : s.kernel.Sound) : t.kernel.Sound := by
  induction run with
  | nil => exact h
  | snoc run step ih => exact step.sound ih

end Tracking

end JobShell
