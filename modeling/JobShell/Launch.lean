import JobShell.Command.Basic
import JobShell.Failure
import JobShell.System.Machine

/-!
# Launching programs

A command becomes a `ChildImage`, which can be refused before anything happens. The child
connects its standard descriptors, the input before the output, and becomes the program;
where one of these steps fails it writes one line that names the path or the program and
exits with code 1. The shell keeps the child signal blocked from before there is a child
until it has waited for a foreground child or handed on the pid of a background child, and
then goes back to the mask that was in force.
-/

namespace JobShell

/-- All that a child needs. Its texts hold no NUL byte. -/
structure ChildImage where
  program : String
  arguments : List String
  input : Option String
  output : Option String
  background : Bool
deriving DecidableEq, Repr

namespace ChildImage

/-- The position of the first NUL byte in the bytes of a text. -/
def nulPosition? : List Char → Option Nat
  | [] => none
  | c :: cs =>
    if c = '\x00' then some 0 else (nulPosition? cs).map (· + c.utf8Size)

def systemText (program text : String) : Except Failure String :=
  match nulPosition? text.toList with
  | none => .ok text
  | some position => .error (.because (.launch program) (.nulByte position))

/-- Where the side of a background child that has no target leads to. -/
def nullDevice : String := "/dev/null"

def target (program : String) (background : Bool) : Option String → Except Failure (Option String)
  | some path => some <$> systemText program path
  | none => .ok (if background then some nullDevice else none)

/-- The image of a command; its texts are looked at in the order program, arguments, input,
output. -/
def ofCommand (c : Command) (background : Bool) : Except Failure ChildImage := do
  let program ← systemText c.program c.program
  let arguments ← c.arguments.mapM (systemText c.program)
  let input ← target c.program background c.input
  let output ← target c.program background c.output
  return { program, arguments := program :: arguments, input, output, background }

/-- What became of the set-up of a child: it failed at a path or at the program, or the
program starts. -/
inductive Setup where
  | failed (name : String) (e : Errno)
  | starts (e : Execution)
deriving DecidableEq, Repr

def connectInput (image : ChildImage) (m : Machine) : Except (String × Errno) Endpoint :=
  match image.input with
  | none => .ok .inherited
  | some text =>
    match m.files.openRead m.directory text with
    | .ok (path, .directory) => .ok (.directory path)
    | .ok (path, _) => .ok (.file path)
    | .error e => .error (text, e)

def connectOutput (image : ChildImage) (m : Machine) :
    Except (String × Errno) (Endpoint × FileSystem) :=
  match image.output with
  | none => .ok (.inherited, m.files)
  | some text =>
    match m.files.openWrite m.directory text with
    | .ok (path, files) => .ok (.file path, files)
    | .error e => .error (text, e)

/-- Sets a child up: connects its input, then its output, then finds the program. The files
are those that opening the output leaves, whether or not the program is found. -/
def setUp (image : ChildImage) (m : Machine) (pid : Pid) (mask : SignalSet) :
    Setup × FileSystem :=
  match image.connectInput m with
  | .error (name, e) => (.failed name e, m.files)
  | .ok input =>
    match image.connectOutput m with
    | .error (name, e) => (.failed name e, m.files)
    | .ok (output, files) =>
      match files.findProgram m.directory m.places image.program with
      | .error e => (.failed image.program e, files)
      | .ok utility =>
        (.starts {
          utility, arguments := image.arguments, pid, parent := m.shellPid,
          directory := m.directory, places := m.places, environment := m.environment,
          input, output,
          signals := .forChild (!image.background) mask }, files)

end ChildImage

namespace Machine

def setupFailureCode : Nat := 1

/-- The child of this pid sets itself up and becomes its program, or fails. -/
def runChild (host : Host) (m : Machine) (image : ChildImage) (pid : Pid)
    (mask : SignalSet) : Machine :=
  let m := m.mapKernel fun k => k.start pid (.forChild (!image.background) mask)
  match image.setUp m pid mask with
  | (.failed name e, files) =>
    ({ m with files }.printError ("smallsh: " ++ name ++ ": " ++ e.description ++ "\n")).mapKernel
      fun k => k.endChild pid (Termination.exitStatus setupFailureCode)
  | (.starts e, files) => { m with files }.execute host e

/-- Waits for a child of this pid: how it ended, or nothing if there is no such child. -/
def waitWith (m : Machine) (pid : Pid) : List Errno → Except Failure (Option Termination) × Machine
  | [] =>
    match m.kernel.reap pid with
    | (none, _) => (.ok none, m)
    | (some status, kernel) => (.ok (Termination.ofStatus? status), { m with kernel })
  | .interrupted :: errors => m.waitWith pid errors
  | .noChild :: errors =>
    (.ok none, { m with outside := { m.outside with waitErrors := errors } })
  | e :: errors =>
    (.error (.because .systemCall (.systemCall e)),
      { m with outside := { m.outside with waitErrors := errors } })

/-- Waits once more, without delay, for a child that reported a failure. -/
def ensureReaped (m : Machine) (pid : Pid) : Machine :=
  { m with kernel := (m.kernel.reap pid).2 }

def waitForeground (m : Machine) (pid : Pid) :
    Except Failure (Option Termination) × Machine :=
  let m := m.pause.awaitEnd pid
  match { m with outside := { m.outside with waitErrors := [] } }.waitWith pid
      m.outside.waitErrors with
  | (.ok (some t), m) => (.ok (some t), if t.isSuccess then m else m.ensureReaped pid)
  | result => result

/-- What became of a launch: a foreground child has ended, if its end could be observed, or
a background child runs under this pid. -/
inductive Launched where
  | foreground (t : Option Termination)
  | background (pid : Pid)
deriving DecidableEq, Repr

/-- Starts a child for the command, and waits for it unless it is to run in the
background. -/
def spawn (host : Host) (m : Machine) (c : Command) (background : Bool) :
    Except Failure Launched × Machine :=
  match ChildImage.ofCommand c background with
  | .error f => (.error f, m)
  | .ok image =>
    let before := m.kernel.signals.mask
    let m := (m.mapKernel fun k => k.setChildBlocked true).pause
    let restore (m : Machine) := m.mapKernel fun k => k.setMask before
    match m.fork with
    | (.error e, m) => (.error (.because (.launch c.program) (.systemCall e)), restore m)
    | (.ok pid, m) =>
      let m := (m.runChild host image pid before).pause
      if background then
        (.ok (.background pid), restore { m with launched := m.launched ++ [pid] })
      else
        match m.waitForeground pid with
        | (.error f, m) => (.error f, restore m)
        | (.ok t, m) => (.ok (.foreground t), restore m)

end Machine

end JobShell
