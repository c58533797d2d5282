import JobShell.Sink
import JobShell.System.FileSystem
import JobShell.Termination
import JobShell.Text.Decimal

/-!
# Builtins

The commands that run inside the shell: `cd` enters a directory, `status` reports how the
last foreground command ended, `exit` leaves. They look at their arguments only; neither
redirections nor the background marker reach them, and none changes what `status` reports.
-/

namespace JobShell

/-- The commands that run inside the shell. -/
inductive Builtin where
  | cd
  | exit
  | status
deriving DecidableEq, Repr

namespace Builtin

def named? : String → Option Builtin
  | "cd" => some cd
  | "exit" => some exit
  | "status" => some status
  | _ => none

/-- What builtins see of the shell. -/
structure Context where
  files : FileSystem
  directory : Path
  /-- The home directory, of the environment or else of the user. A user without any home is not
  considered, so `cd` never fails for want of one. -/
  home : String
  last : Option Termination
deriving DecidableEq, Repr

/-- What a builtin asks the shell to do. -/
inductive Answer where
  /-- To go on, in this directory. -/
  | done (directory : Path)
  | failed (f : Failure)
  /-- To leave with this number, having said something first. -/
  | leave (code : Option Int) (complaint : Option String)
deriving DecidableEq, Repr

/-- The directory that a text for the system leads to. -/
def enterText (c : Context) (text : String) : Except Cause Path :=
  if text.toList.contains '\x00' then .error .nulInFileName
  else
    match c.files.enterDirectory c.directory text with
    | .ok path => .ok path
    | .error e => .error (.errno e)

/-- `cd`: the directory to enter, or why it cannot be entered. Without an argument it is
the home directory. A relative argument is joined to the current directory, which has to
exist. -/
def changeDirectory (c : Context) : List String → Except Failure Path
  | [] =>
    match enterText c c.home with
    | .ok path => .ok path
    | .error cause => .error (.because (.directoryChange c.home) cause)
  | argument :: _ =>
    if !Path.isAbsolute argument && !c.files.isDirectory c.directory then
      .error (.because .io (.errno .noEntry))
    else
      match enterText c (Path.join c.directory argument) with
      | .ok path => .ok path
      | .error cause => .error (.because (.directoryChange argument) cause)

/-- The number that `exit` takes from an argument that is no number. -/
def notNumericCode : Int := 2

/-- `exit`: the number of its first argument, if it has one. -/
def exitCode : List String → Option Int × Option String
  | [] => (none, none)
  | argument :: _ =>
    match Text.readWord? argument with
    | some n => (some n, none)
    | none => (some notNumericCode, some ("exit: " ++ argument ++ ": numeric argument required"))

/-- `status`: the last end, or an exit with 0 if there is none. -/
def report (last : Option Termination) (sink : Sink) : Option Cause × Sink :=
  match sink.write ((last.getD (.exited 0)).message ++ "\n") with
  | (some cause, sink) => (some cause, sink)
  | (none, sink) => sink.flush

def run (b : Builtin) (arguments : List String) (c : Context) (sink : Sink) : Answer × Sink :=
  match b with
  | cd =>
    match changeDirectory c arguments with
    | .ok path => (.done path, sink)
    | .error f => (.failed f, sink)
  | exit =>
    let (code, complaint) := exitCode arguments
    (.leave code complaint, sink)
  | status =>
    match report c.last sink with
    | (none, sink) => (.done c.directory, sink)
    | (some cause, sink) => (.failed (.because .io cause), sink)

end Builtin

end JobShell
