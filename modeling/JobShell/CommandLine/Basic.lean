import JobShell.CommandLine.Usage
import JobShell.Shell.Interpreter

/-!
# The program

What the program does with its arguments: it tells what is wrong with them, shows its help
or version, or runs a shell on a command string, a script or its standard input and exits as
the shell does. A log file that cannot be opened is told of and does without.
-/

namespace JobShell

namespace CommandLine

def historyCapacity : Nat := 100

/-- The file for notes when none is named. -/
def defaultLog (m : Machine) : String :=
  m.home ++ "/.smallsh_log"

def openLog (m : Machine) (name : String) : Machine :=
  match m.files.openAppend m.directory name with
  | .ok (_, files) => { m with files }
  | .error e => m.printError ("smallsh: " ++ name ++ ": " ++ e.message ++ "\n")

def shell (m : Machine) (config : Config) : Shell :=
  { config, machine := m.mapKernel Kernel.installHandlers }

/-- Leaves after a run, with 1 if it failed. -/
def finish (s : Shell) : Except Failure Progress → Progress
  | .ok progress => progress.andThen fun s => s.exit none
  | .error f => (s.complain f.message).exit (some 1)

def perform (host : Host) (m : Machine) (r : Request) : Progress :=
  let m := openLog m (r.log.getD (defaultLog m))
  if r.version then .left 0 (m.print (version ++ "\n"))
  else
    match r.task with
    | .noCommand => .left 101 m
    | .command text =>
      let s := shell m .noninteractive
      finish s (.ok (s.executeText host text))
    | .script name =>
      let s := shell m .noninteractive
      finish s (s.executeFile host name)
    | .input =>
      let s := shell m (if m.atTerminal then .interactive historyCapacity else .piped)
      finish s (.ok (s.executeInput host))

/-- Runs the program: its exit status and the machine it leaves. -/
def run (host : Host) (m : Machine) (arguments : List String) : Nat × Machine :=
  match readArguments arguments with
  | .error e => (1, m.printError (e.message ++ "\n\n" ++ usage ++ "\n"))
  | .ok request =>
    if request.help then (0, m.print (help ++ "\n"))
    else
      match perform host m request with
      | .left code m => (code, m)
      | .running s => (0, s.machine)

end CommandLine

end JobShell
