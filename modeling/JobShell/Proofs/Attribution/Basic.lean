import JobShell.Proofs.Job.Draining
import JobShell.Proofs.Launch.Basic
import Mathlib.Logic.Function.Basic

/-!
# Whose end a fact tells of

Facts and jobs find one another by their pids. A pid belongs to one child only until this child
is collected. From then on the system may give it to another child, while the fact of the first
one waits in the log and its job is still tracked. So launches are numbered here, and a `Ledger`
is kept beside the shell, in which every pid, every job and every fact stands with the launch it
belongs to. The shell itself does not know of it.

`Attribution` is the state: the job table, the kernel, what the main loop is doing, and the
ledger. `Attribution.Step` is one step with what becomes known by it. A launch goes by the steps
of `Launching.Step`, so its child may get any pid that no uncollected child holds, whether the
pid is tracked or not. A notification takes the log and applies the facts one by one. Between
any two steps children end and the handler runs.
-/

namespace JobShell

open Machine (Launched)

/-- A launch of a child. -/
structure Launch where
  pid : Pid
  /-- When the child started, the fact of an earlier child of this pid was in the log. -/
  stale : Bool
deriving DecidableEq, Repr

/-- What becomes known of launches, which go by their numbers. -/
inductive Notice where
  | launched (launch : Nat)
  /-- The child of a launch has ended. -/
  | ended (launch : Nat) (status : StatusWord)
  /-- The job of a launch makes room for the one of a later launch. -/
  | replaced (launch : Nat)
  /-- The job of a launch is reported done and removed, by a fact that tells of the child of the
  launch `teller`. -/
  | reported (launch teller : Nat) (report : Pid × Termination)
  /-- A fact that tells of the child of the launch `teller` has found no job. -/
  | dropped (teller : Nat)
deriving DecidableEq, Repr

namespace Notice

/-- The report that the user sees. -/
def report? : Notice → Option (Pid × Termination)
  | reported _ _ report => some report
  | _ => none

/-- What becomes known when a fact is applied to a table whose jobs were created for these
launches. -/
def verdict (jobs : JobTable) (job : Pid → Nat) (fact : Fact) (teller : Nat) : Notice :=
  match jobs.report? fact with
  | some report => reported (job fact.pid) teller report
  | none => dropped teller

/-- What becomes known when a pid is registered in such a table. -/
def replacing (jobs : JobTable) (job : Pid → Nat) (pid : Pid) : List Notice :=
  if pid ∈ jobs.pids then [replaced (job pid)] else []

end Notice

/-- What is to be remembered to tell launches of one pid apart. -/
structure Ledger where
  /-- The launches so far; the number of a launch is its place. -/
  launches : List Launch := []
  /-- The launch whose child was the last to get a pid. -/
  child : Pid → Nat := fun _ => 0
  /-- The launch that the job of a pid was created for. -/
  job : Pid → Nat := fun _ => 0
  /-- The facts in the log, each with the launch whose child had its pid when it was
  recorded. -/
  logged : List (Fact × Nat) := []
  /-- Those facts that were taken from the log and not applied yet. -/
  taken : List (Fact × Nat) := []

namespace Ledger

/-- The ledger after an incident. -/
def note (l : Ledger) : Incident → Ledger
  | .forked pid =>
    { l with
      launches := l.launches ++ [⟨pid, l.logged.any fun entry => entry.1.pid == pid⟩]
      child := Function.update l.child pid l.launches.length }
  | .collected .handler fact => { l with logged := l.logged ++ [(fact, l.child fact.pid)] }
  | .collected .launcher _ | .ended _ | .waitFailed _ => l

/-- The ledger after incidents. -/
def noteAll (l : Ledger) (incidents : List Incident) : Ledger :=
  incidents.foldl note l

/-- What an incident makes known. -/
def notice? (l : Ledger) : Incident → Option Notice
  | .forked _ => some (.launched l.launches.length)
  | .ended fact => some (.ended (l.child fact.pid) fact.status)
  | .collected _ _ | .waitFailed _ => none

/-- What incidents make known. -/
def notices (l : Ledger) : List Incident → List Notice
  | [] => []
  | incident :: incidents => (l.notice? incident).toList ++ (l.note incident).notices incidents

end Ledger

/-- What the main loop is doing as far as children are concerned. -/
inductive Phase where
  | idle
  /-- It launches the command that a line stands for. -/
  | launching (c : Command) (background : Bool) (line : String) (stage : LaunchStage)

namespace Phase

/-- The foreground child that is waited for. -/
def awaited? : Phase → Option Pid
  | launching _ _ _ (.waiting _ pid) => some pid
  | _ => none

/-- The foreground child that was waited for, while the launch is occupied with it. -/
def reaped? : Phase → Option Pid
  | launching _ _ _ (.waited _ pid _) => some pid
  | _ => none

/-- The background child that an answer hands on. -/
def background? : Except Failure Launched → Option Pid
  | .ok (.background pid) => some pid
  | _ => none

/-- The background child that is to be registered. -/
def handed? : Phase → Option Pid
  | launching _ _ _ (.leaving _ answer) | launching _ _ _ (.returned answer) => background? answer
  | _ => none

end Phase

/-- The shell as far as jobs are concerned, with the ledger. -/
structure Attribution where
  jobs : JobTable := {}
  kernel : Kernel := {}
  phase : Phase := .idle
  ledger : Ledger := {}

namespace Attribution

/-- A shell that has installed its handlers. -/
def start (signals : SignalSetup) : Attribution where
  kernel := { signals := signals.forShell }

/-- One step, and what becomes known by it. -/
inductive Step : Attribution → List Notice → Attribution → Prop where
  /-- The log is taken. -/
  | take (a : Attribution) (hidle : a.phase = .idle) (hempty : a.ledger.taken = []) :
      Step a []
        { a with
          kernel := a.kernel.takeLog
          ledger := { a.ledger with taken := a.ledger.logged, logged := [] } }
  /-- The first of the facts that were taken is applied. -/
  | settle (a : Attribution) (fact : Fact) (teller : Nat) (rest : List (Fact × Nat))
      (htaken : a.ledger.taken = (fact, teller) :: rest) :
      Step a [.verdict a.jobs a.ledger.job fact teller]
        { a with jobs := a.jobs.settle fact, ledger := { a.ledger with taken := rest } }
  /-- The main loop begins to launch a command. -/
  | begin (a : Attribution) (c : Command) (background : Bool) (line : String)
      (hidle : a.phase = .idle) (hempty : a.ledger.taken = []) :
      Step a [] { a with phase := .launching c background line .entering }
  /-- The launch goes on. No wait is refused for a child that is there. -/
  | launch (a : Attribution) {c : Command} {background : Bool} {line : String}
      {stage stage' : LaunchStage} {incidents : List Incident} {k : Kernel}
      (hphase : a.phase = .launching c background line stage)
      (step : Launching.Step .absent c background ⟨stage, a.kernel⟩ incidents ⟨stage', k⟩) :
      Step a (a.ledger.notices incidents)
        { a with
          kernel := k
          phase := .launching c background line stage'
          ledger := a.ledger.noteAll incidents }
  /-- The pid of a background child is registered with the line that launched it. -/
  | register (a : Attribution) {c : Command} {background : Bool} {line : String} {pid : Pid}
      (hphase : a.phase = .launching c background line (.returned (.ok (.background pid)))) :
      Step a (Notice.replacing a.jobs a.ledger.job pid)
        { a with
          jobs := a.jobs.create pid line
          phase := .idle
          ledger := { a.ledger with
            job := Function.update a.ledger.job pid (a.ledger.child pid) } }
  /-- A launch without a background child is over. -/
  | conclude (a : Attribution) {c : Command} {background : Bool} {line : String}
      {answer : Except Failure Launched}
      (hphase : a.phase = .launching c background line (.returned answer))
      (hnone : ∀ pid, answer ≠ .ok (.background pid)) : Step a [] { a with phase := .idle }
  /-- Something happens to the kernel by itself while nothing is launched. -/
  | move (a : Attribution) (hidle : a.phase = .idle) {facts : List Fact} {k : Kernel}
      (move : a.kernel.Move facts k) :
      Step a (a.ledger.notices (facts.map .ended ++ Incident.recordings a.kernel k))
        { a with
          kernel := k
          ledger := a.ledger.noteAll
            (facts.map .ended ++ Incident.recordings a.kernel k) }

/-- A run with its history. -/
inductive Run (a : Attribution) : List Notice → Attribution → Prop where
  | nil : Run a [] a
  | snoc {history notices : List Notice} {b b' : Attribution} (run : Run a history b)
      (step : Step b notices b') : Run a (history ++ notices) b'

variable {a b c : Attribution} {history later : List Notice}

theorem Run.append (first : Run a history b) (second : Run b later c) :
    Run a (history ++ later) c := by
  induction second with
  | nil => rwa [List.append_nil]
  | snoc run step ih =>
      rw [← List.append_assoc]
      exact .snoc ih step

theorem Run.of_step (step : Step a history b) : Run a history b :=
  .snoc .nil step

end Attribution

namespace Ledger

section Notes

variable (l : Ledger) (incidents later : List Incident)

theorem noteAll_append : l.noteAll (incidents ++ later) = (l.noteAll incidents).noteAll later :=
  List.foldl_append

theorem notices_append :
    l.notices (incidents ++ later) =
      l.notices incidents ++ (l.noteAll incidents).notices later := by
  induction incidents generalizing l with
  | nil => rfl
  | cons incident incidents ih =>
      rw [List.cons_append, notices, notices, ih, List.append_assoc]
      rfl

/-- No incident puts facts at hand. -/
theorem taken_noteAll : (l.noteAll incidents).taken = l.taken := by
  induction incidents generalizing l with
  | nil => rfl
  | cons incident incidents ih =>
      change ((l.note incident).noteAll incidents).taken = _
      rw [ih]
      match incident with
      | .forked _ | .ended _ | .waitFailed _ => rfl
      | .collected .handler _ | .collected .launcher _ => rfl

/-- What the handler records is entered with the launches of the children. -/
theorem noteAll_recorded (facts : List Fact) :
    l.noteAll (facts.map (.collected .handler)) =
      { l with logged := l.logged ++ facts.map fun fact => (fact, l.child fact.pid) } := by
  induction facts generalizing l with
  | nil =>
      rw [List.map_nil, List.map_nil, List.append_nil]
      rfl
  | cons fact facts ih =>
      change (l.note (.collected .handler fact)).noteAll _ = _
      rw [ih, note, List.map_cons, List.append_assoc]
      rfl

/-- The user does not learn of it. -/
theorem notices_recorded (facts : List Fact) :
    l.notices (facts.map (.collected .handler)) = [] := by
  induction facts generalizing l with
  | nil => rfl
  | cons fact facts ih =>
      rw [List.map_cons, notices, ih]
      rfl

end Notes

end Ledger

/-- A run of a launch is a run. -/
theorem Attribution.Run.of_launching {a : Attribution} {c : Command} {background : Bool}
    {line : String} {stage : LaunchStage} {incidents : List Incident} {s : Launching}
    (hphase : a.phase = .launching c background line stage)
    (run : Launching.Run .absent c background ⟨stage, a.kernel⟩ incidents s) :
    Run a (a.ledger.notices incidents)
      { a with
        kernel := s.kernel
        phase := .launching c background line s.stage
        ledger := a.ledger.noteAll incidents } := by
  induction run with
  | nil =>
      obtain ⟨jobs, kernel, phase, ledger⟩ := a
      obtain rfl : phase = .launching c background line stage := hphase
      exact .nil
  | @snoc earlier incidents t u run step ih =>
      rw [Ledger.notices_append, Ledger.noteAll_append]
      exact ih.snoc (.launch _ rfl step)

end JobShell
