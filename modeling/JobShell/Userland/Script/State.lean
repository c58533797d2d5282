import JobShell.Text.Decimal
import JobShell.Userland.Process
import JobShell.Userland.Script.Pattern
import JobShell.Userland.Script.Basic

/-!
# The state of a running script

What the interpreter of a script keeps: its process, the parameters and variables, the exit
code of the last command, and what it does on signals (`State`). Statements and words are
worked off by `Action`s, which go on with whatever follows; where a script leaves a loop, a
function or itself is known to its `Frame`.
-/

namespace JobShell

namespace Userland

namespace Script

/-- A variable; the exported ones are handed to the programs that the script starts. -/
structure Variable where
  name : String
  value : String
  exported : Bool
deriving DecidableEq, Repr

/-- The number that an argument gives: digits, perhaps with blanks around them and a sign. -/
def argumentNumber? (text : String) : Option Nat :=
  match Text.readSigned? (trimmed text.toList) with
  | some (.ofNat n) => if Text.fitsWord n then some n else none
  | _ => none

/-- The complaint about an argument that gives neither a number nor a job. -/
def noNumberText (text : String) : String :=
  (if text.toList.head? = some '%' then "No such job: " else "Illegal number: ") ++ text

/-- A running script. -/
structure State where
  process : Process
  /-- The name under which the script runs. -/
  name : String
  parameters : List String
  /-- The current directory as the script knows it. -/
  here : String := ""
  /-- The exit code of the last command. -/
  status : Nat := 0
  /-- The line of the command under way. -/
  line : Nat := 1
  bindings : List Variable := []
  functions : List (String × Statement) := []
  /-- What is done on signals, the signals that are ignored with an empty text; 0 stands for
  the end of the script. -/
  traps : List (Nat × String) := []
  /-- The last process that was started in the background. -/
  lastBackground : Option Pid := none
  /-- The processes in the background that sleep, for how long, and how they go on. -/
  asleep : List (Pid × Nat × (Surroundings → Course)) := []
  /-- How processes in the background have ended. -/
  ended : List (Pid × StatusWord) := []
  started : Nat := 0
  /-- The exit code of the last script whose output was taken for the command under way. -/
  captured : Option Nat := none
  /-- The interpreter runs beside the one whose process it shares. -/
  beside : Bool := false
  /-- A command that fails ends the script. -/
  failsFast : Bool := false
  /-- A parameter without a value is an error. -/
  strict : Bool := false
  /-- Patterns are taken for themselves. -/
  literally : Bool := false
  /-- The variables that cannot be changed. -/
  fixed : List String := []
  /-- What the variables were that the function under way has made its own. -/
  saved : List (String × Option Variable) := []
  inFunction : Bool := false

/-- What a script does next, given what follows. -/
abbrev Action := State → (State → Course) → Course

/-- Where a script goes when it leaves what it is in. -/
structure Frame where
  /-- The interpreter ends. -/
  leave : State → StatusWord → Course
  /-- Behind each loop and to its next turn, the innermost loop first. -/
  loops : List ((State → Course) × (State → Course)) := []
  /-- Out of the function under way. -/
  back : Option (State → Course) := none
  /-- The outcome is looked at, so that a failure is none. -/
  tested : Bool := false

/-- What a script can call upon: programs, the text of another script, and a function. -/
structure Setting where
  start : Program
  evaluate : Frame → String → Action
  call : Frame → Statement → Action

namespace State

def lookup? (s : State) (name : String) : Option Variable :=
  s.bindings.find? fun v => v.name == name

def assign (s : State) (name value : String) : State :=
  let exported := (s.lookup? name).any Variable.exported
  { s with bindings :=
      ⟨name, value, exported⟩ :: s.bindings.filter fun v => v.name != name }

def exportName (s : State) (name : String) : State :=
  { s with bindings := s.bindings.map fun v =>
      if v.name == name then { v with exported := true } else v }

def forget (s : State) (name : String) : State :=
  { s with bindings := s.bindings.filter fun v => v.name != name }

def joined (separator : String) (words : List String) : String :=
  separator.intercalate words

/-- The characters that separate fields. -/
def separators (s : State) : List Char :=
  match s.lookup? "IFS" with
  | some v => v.value.toList
  | none => [' ', '\t', '\n']

def value? (s : State) (name : String) : Option String :=
  match name with
  | "#" => some (toString s.parameters.length)
  | "$" => some (toString s.process.execution.pid)
  | "?" => some (toString s.status)
  | "-" => some (if s.failsFast then "e" else "")
  | "@" => some (joined " " s.parameters)
  | "*" => some (joined (String.ofList (s.separators.take 1)) s.parameters)
  | "!" => s.lastBackground.map fun pid => toString pid
  | "0" => some s.name
  | _ =>
    match Text.readNat? name.toList with
    | some n => s.parameters[n - 1]?
    | none => (s.lookup? name).map Variable.value

def environment (s : State) : List (String × String) :=
  (s.bindings.filter Variable.exported).map fun v => (v.name, v.value)

def mapProcess (s : State) (f : Process → Process) : State :=
  { s with process := f s.process }

def warn (s : State) (text : String) : State :=
  s.mapProcess fun p => p.warn (s.name ++ ": " ++ toString s.line ++ ": " ++ text)

def withStatus (s : State) (status : Nat) : State :=
  { s with status }

/-- The exit code that a status word stands for. -/
def codeOf (status : StatusWord) : Nat :=
  match Termination.ofStatus? status with
  | some (.exited code) => code.toNat
  | some (.signaled signal) => 128 + signal.toNat
  | none => 0

/-- The state after something has run beside it that may have changed the files, what has been
read and what has been written, but neither variables nor descriptors. -/
def after (s : State) (p : Process) : State :=
  { s with process :=
      { p with
        execution := s.process.execution, descriptors := s.process.descriptors,
        arranged := s.process.arranged, ignored := s.process.ignored,
        nested := s.process.nested } }

/-- The state of an interpreter that runs beside this one: what is done on signals is
forgotten, what is ignored is not. -/
def besides (s : State) : State :=
  { s with traps := s.traps.filter fun t => t.1 != 0 && t.2.isEmpty, beside := true }

end State

/-- Leaves an interpreter, which first does what it is to do at its end, unless a signal has
ended it. -/
def atEnd (g : Setting) (rest : State → StatusWord → Course) (s : State) (status : StatusWord) :
    Course :=
  match Termination.ofStatus? status, s.traps.find? fun t => t.1 == 0 with
  | some (.exited _), some (_, text) =>
    let s := { s with traps := s.traps.filter fun t => t.1 != 0 }
    g.evaluate { leave := rest } text s fun s => rest s status
  | _, _ => rest s status

/-- Runs something in an interpreter of its own, which shares the process. -/
def runBeside (g : Setting) (s : State) (run : Frame → Action)
    (next : State → StatusWord → Course) : Course :=
  let finish := atEnd g next
  run { leave := finish } s.besides fun inner => finish inner (Termination.exitStatus inner.status)

def Frame.fail (f : Frame) (s : State) (text : String) : Course :=
  f.leave ((s.warn text).withStatus 2) (Termination.exitStatus 2)

end Script

end Userland

end JobShell
