import JobShell.Signal.Setup
import JobShell.System.FileSystem
import JobShell.Termination

/-!
# Running programs

What a program is given when it starts (`Execution`), what it finds around it whenever it
runs (`Surroundings`), what comes of each stretch of its run (`Effect`), and the whole run
(`Course`): a stretch after which the program has ended, or one after which it sleeps and
goes on from what it then finds.

A `Host` says what each installed program does; nothing else about programs is known to the
shell, so what is said of the shell for every host holds whatever the programs do and
however they end.
-/

namespace JobShell

/-- What a standard descriptor of a program is connected to. -/
inductive Endpoint where
  /-- The descriptor of the shell. -/
  | inherited
  /-- A file that was opened for the program. -/
  | file (path : Path)
  /-- A directory, which can be opened though not read. -/
  | directory (path : Path)
deriving DecidableEq, Repr

/-- A program as it starts. -/
structure Execution where
  utility : String
  /-- The arguments, the name under which the program was called first. -/
  arguments : List String
  pid : Pid
  parent : Pid
  directory : Path
  places : List String
  environment : List (String × String)
  input : Endpoint
  output : Endpoint
  signals : SignalSetup
deriving DecidableEq, Repr

/-- What a program finds around it. -/
structure Surroundings where
  files : FileSystem
  /-- What the standard input of the shell will give, one delivery after the other. -/
  ahead : List Bytes
  /-- The processes that can be sent a signal. -/
  processes : List Pid
  /-- The signals that the program has to deal with, the oldest first. -/
  received : List Nat
deriving DecidableEq, Repr

/-- What comes of a stretch of a run. -/
structure Effect where
  files : FileSystem
  /-- What is left of the deliveries on the standard input of the shell. -/
  ahead : List Bytes
  /-- What is written to the standard output of the shell. -/
  output : Bytes
  /-- What is written to the standard error of the shell. -/
  errors : Bytes
  /-- The signals sent, the oldest first. -/
  sent : List (Pid × Nat)
  /-- What the program has arranged for signals since it started, the latest first. -/
  arranged : List (Nat × Disposition)
deriving DecidableEq, Repr

/-- The run of a program. -/
inductive Course where
  | ended (r : Effect) (status : StatusWord)
  /-- It sleeps for some milliseconds, or longer if it is stopped, and then goes on. -/
  | asleep (r : Effect) (duration : Nat) (resume : Surroundings → Course)

/-- What the installed programs do. -/
structure Host where
  run : Execution → Surroundings → Course

end JobShell
