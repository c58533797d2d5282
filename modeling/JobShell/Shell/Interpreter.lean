import JobShell.Builtin
import JobShell.Command.Expansion
import JobShell.Input.LineSource
import JobShell.Launch
import JobShell.Shell.Basic

/-!
# Running lines

`Shell.executeLine` runs one line: it is skipped, or read, expanded and handed to a builtin
or to a child. Whatever goes wrong is told in one line and the shell goes on.
`Shell.executeLines` runs the lines of a source; before each line, and before the end of the
source is found, jobs that have ended are reported and changes of mode announced.

Between its steps the shell can be interrupted (`Shell.pause`); what the mode is counts at
the moment at which a command is launched.
-/

namespace JobShell

namespace Shell

/-- Blank lines and comments are not commands. -/
def isSkippable (line : String) : Bool :=
  (Text.trim line).isEmpty || line.toList.head? == some '#'

def runBuiltin (s : Shell) (b : Builtin) (arguments : List String) : Progress :=
  let context : Builtin.Context :=
    { files := s.machine.files, directory := s.machine.directory, home := s.machine.home,
      last := s.last }
  let (answer, sink) := b.run arguments context .healthy
  let s := s.print sink.text
  match answer with
  | .done directory => .running (s.mapMachine fun m => { m with directory })
  | .failed f => .running (s.complain f.message)
  | .leave code none => s.exit code
  | .leave code (some complaint) => (s.complain complaint).exit code

/-- Launches a command that is no builtin. `line` is the line it came from. -/
def launch (host : Host) (s : Shell) (line : String) (c : Command) : Shell :=
  let background := c.background && !s.machine.kernel.mode.isForegroundOnly
  let (result, machine) := s.machine.spawn host c background
  let s := { s with machine }
  match result with
  | .ok (.background pid) =>
    let s := s.pause
    { s with jobs := s.jobs.create pid line }.print
      ("background pid is " ++ toString pid ++ "\n")
  | .ok (.foreground none) => s
  | .ok (.foreground (some t)) =>
    let s := { s with last := some t }
    match t with
    | .signaled _ => s.print (t.message ++ "\n")
    | .exited _ => s
  | .error f => { s.complain f.message with last := some (.exited 1) }

def executeCommand (host : Host) (s : Shell) (line : String) (c : Command) : Progress :=
  let c := c.expand s.pidText
  match Builtin.named? c.program with
  | some b => s.runBuiltin b c.arguments
  | none => .running (s.pause.launch host line c)

def executeLine (host : Host) (s : Shell) (line : String) : Progress :=
  if isSkippable line then .running s
  else
    match Command.parse line with
    | .error e => .running (s.complain e.failure.message)
    | .ok c => s.executeCommand host line c

/-- Runs at most `turns` turns of the loop. -/
def executeLinesFrom (host : Host) : Nat → Shell → LineSource → Progress
  | 0, s, _ => .running s
  | turns + 1, s, source =>
    let s := s.greet
    match source.readLine s.config.prompt s.machine with
    | (.error f, _, machine) => .running ({ s with machine }.complain f.message)
    | (.ok none, _, machine) => .running { s with machine }
    | (.ok (some line), source, machine) =>
      (executeLine host { s with machine }.pause line).andThen fun s =>
        executeLinesFrom host turns s source

/-- Runs the lines of a source up to its end or until the shell leaves. -/
def executeLines (host : Host) (s : Shell) (source : LineSource) : Progress :=
  executeLinesFrom host (source.bound s.machine + 1) s source

def executeText (host : Host) (s : Shell) (text : String) : Progress :=
  s.executeLines host (.ofText text)

/-- The text of a script, or why it cannot be read. -/
def readScript (m : Machine) (name : String) : Except Cause String :=
  if name.toList.contains '\x00' then .error .nulInFileName
  else
    match m.files.openRead m.directory name with
    | .error e => .error (.errno e)
    | .ok (_, .directory) => .error (.errno .isDirectory)
    | .ok (path, _) =>
      match Text.decode? (m.files.content path) with
      | some text => .ok text
      | none => .error .notUtf8

/-- Runs the lines of a script, unless it cannot be read. -/
def executeFile (host : Host) (s : Shell) (name : String) : Except Failure Progress :=
  match readScript s.machine name with
  | .ok text => .ok (s.executeText host text)
  | .error cause => .error (.because .io cause)

/-- Runs the lines of standard input. -/
def executeInput (host : Host) (s : Shell) : Progress :=
  s.executeLines host (if s.config.lineEditor && s.machine.atTerminal then .editor else .plain)

end Shell

end JobShell
