import JobShell.Config
import JobShell.Failure
import JobShell.Job.Notification
import JobShell.System.Machine

/-!
# The state of the shell

A `Shell` is the interpreter's own state over the machine it acts on. An action of the
shell either goes on with a new state or leaves (`Progress`); what has left does nothing
more.
-/

namespace JobShell

/-- The interpreter and the machine it acts on. -/
structure Shell where
  jobs : JobTable := {}
  /-- How the last foreground command ended. -/
  last : Option Termination := none
  /-- The number of toggles of the mode that have been announced. -/
  announced : UInt64 := 0
  config : Config := {}
  machine : Machine := {}

/-- What an action of the shell comes to. -/
inductive Progress where
  | running (s : Shell)
  | left (code : Nat) (m : Machine)

namespace Progress

/-- Goes on only if the shell has not left. -/
def andThen (p : Progress) (next : Shell → Progress) : Progress :=
  match p with
  | running s => next s
  | left code m => left code m

end Progress

namespace Shell

def mapMachine (s : Shell) (f : Machine → Machine) : Shell :=
  { s with machine := f s.machine }

/-- The text that stands for `$$`. -/
def pidText (s : Shell) : String :=
  toString s.machine.shellPid

def print (s : Shell) (text : String) : Shell :=
  s.mapMachine fun m => m.print text

/-- Writes one line about something that went wrong. -/
def complain (s : Shell) (text : String) : Shell :=
  s.mapMachine fun m => m.printError ("smallsh: " ++ text ++ "\n")

/-- A point at which the shell can be interrupted. -/
def pause (s : Shell) : Shell :=
  s.mapMachine Machine.pause

/-- Reports the jobs that have ended since the last report. -/
def notify (s : Shell) : Shell :=
  let (jobs, sink, kernel) := s.jobs.notify .healthy s.machine.kernel
  { s with jobs, machine := { s.machine with kernel }.print sink.text }

/-- Announces the modes entered since the last announcement. -/
def announce (s : Shell) : Shell :=
  let (modes, announced) := s.machine.kernel.mode.takeChanges s.announced
  modes.foldl (fun s mode => s.print (mode.announcement ++ "\n")) { s with announced }

/-- What happens before each line is read. -/
def greet (s : Shell) : Shell :=
  s.pause.notify.pause.announce.pause

/-- The exit status of the process for a number. -/
def exitStatus (code : Int) : Nat :=
  (code % 256).toNat

/-- Leaves: every tracked job is asked to terminate, whatever comes of it. -/
def exit (s : Shell) (code : Option Int) : Progress :=
  let s := if s.config.showMessages then s.print "exit\n" else s
  let (_, kernel) := s.jobs.terminateAll s.machine.kernel s.machine.outside.denials
  .left (exitStatus (code.getD 0)) { s.machine with kernel }

end Shell

end JobShell
