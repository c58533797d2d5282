import JobShell.Userland.Script.State

/-!
# Signals in scripts

The names of signals, what a script does on a signal that reaches it (`reactTo`), and the
commands with which it sends signals and arranges for them. Signals that a script sends to
itself take effect at once; one that it sends to another process is handed on to the system.
-/

namespace JobShell

namespace Userland

namespace Script

/-- The names of the signals, from number 0 on; that one stands for the end of the script. -/
def signalNames : List String :=
  ["EXIT", "HUP", "INT", "QUIT", "ILL", "TRAP", "ABRT", "BUS", "FPE", "KILL", "USR1", "SEGV",
    "USR2", "PIPE", "ALRM", "TERM", "16", "CHLD", "CONT", "STOP", "TSTP", "TTIN", "TTOU", "URG",
    "XCPU", "XFSZ", "VTALRM", "PROF", "WINCH", "IO", "PWR", "SYS", "32", "33", "RTMIN"] ++
    (List.range 15).map (fun n => "RTMIN+" ++ toString (n + 1)) ++
    (List.range 14).map (fun n => "RTMAX-" ++ toString (14 - n)) ++ ["RTMAX"]

def signalName (signal : Nat) : String :=
  signalNames.getD signal (toString signal)

/-- The number of a signal that is given by a number or by a name in capitals or small
letters. -/
def signalNumber? (text : String) : Option Nat :=
  match Text.readNat? text.toList with
  | some n => if n ≤ Signal.greatest then some n else none
  | none => signalNames.findIdx? fun name => name.toUpper == text.toUpper

/-- What is told of a process that a signal has ended. -/
def endText (signal : Nat) : Option String :=
  let known := ["Hangup", "", "Quit", "Illegal instruction", "Trace/breakpoint trap", "Aborted",
    "Bus error", "Floating point exception", "Killed", "User defined signal 1",
    "Segmentation fault", "User defined signal 2", "", "Alarm clock", "Terminated", "Stack fault",
    "Child exited", "Continued", "Stopped (signal)", "Stopped", "Stopped (tty input)",
    "Stopped (tty output)", "Urgent I/O condition", "CPU time limit exceeded",
    "File size limit exceeded", "Virtual timer expired", "Profiling timer expired",
    "Window changed", "I/O possible", "Power failure", "Bad system call"]
  let text := known.getD (signal - 1)
    (if signal < 34 then "Unknown signal " ++ toString signal
      else "Real-time signal " ++ toString (signal - 34))
  if text.isEmpty then none else some text

namespace State

def tellEnd (s : State) (status : StatusWord) : State :=
  match Termination.ofStatus? status with
  | some (.signaled signal) =>
    match endText signal.toNat with
    | some text => s.mapProcess fun p => p.warn text
    | none => s
  | _ => s

/-- Whether a signal was ignored already when the script started, which cannot be changed. -/
def ignoredBefore (s : State) (signal : Nat) : Bool :=
  s.process.ignored.contains signal ||
    s.process.execution.signals.disposition signal == .ignore

def disposition (s : State) (signal : Nat) : Disposition :=
  if s.ignoredBefore signal then .ignore
  else
    match s.traps.find? fun t => t.1 == signal with
    | some (_, text) => if text.isEmpty then .ignore else .handler
    | none => .default

/-- The signals that the programs which the script starts ignore. -/
def ignoredSignals (s : State) : List Nat :=
  s.process.ignored ++ (s.traps.filter fun t => t.2.isEmpty).map Prod.fst

/-- Whether the system knows the process of the script. -/
def isKnown (s : State) : Bool :=
  !s.beside && !s.process.nested

/-- Arranges for a signal: a text to be run, or nothing for what is usual. -/
def arrange (s : State) (signal : Nat) (action : Option String) : State :=
  let others := s.traps.filter fun t => t.1 != signal
  let s := { s with
    traps := match action with
      | some text => (signal, text) :: others
      | none => others }
  if s.isKnown && signal != 0 then
    s.mapProcess fun p => { p with arranged := (signal, s.disposition signal) :: p.arranged }
  else s

/-- The signals that have been sent to the script, and the state without them. What the system
hands on is meant for the process that it knows. -/
def takeSignals (s : State) : List Nat × State :=
  let (own, others) := s.process.sent.partition fun e => e.1 == s.process.execution.pid
  let s := s.mapProcess fun p => { p with sent := others }
  if s.isKnown then
    (s.process.received ++ own.map Prod.snd, s.mapProcess fun p => { p with received := [] })
  else (own.map Prod.snd, s)

end State

def reactTo (g : Setting) (f : Frame) (signal : Nat) : Action := fun s next =>
  match Signal.reaction signal (s.disposition signal), s.traps.find? fun t => t.1 == signal with
  | .ends, _ => f.leave s (Termination.signalStatus signal)
  | .stops, _ =>
    if s.isKnown then
      let p := { s.process with sent := s.process.sent ++ [(s.process.execution.pid, signal)] }
      p.pause 1 fun p => next { s with process := p }
    else next s
  | .handled, some (_, text) => g.evaluate f text s fun after => next (after.withStatus s.status)
  | _, _ => next s

/-- Signals reach the script one after the other. -/
def reactToAll (g : Setting) (f : Frame) : List Nat → Action
  | [], s, next => next s
  | signal :: rest, s, next => reactTo g f signal s fun s => reactToAll g f rest s next

/-- The script deals with the signals that have reached it in the meantime, each of them once
and a lower number before a higher one. -/
def settle (g : Setting) (f : Frame) : Action := fun s next =>
  if s.beside then next s
  else
    let (signals, s) := s.takeSignals
    reactToAll g f ((List.range (Signal.greatest + 1)).filter signals.contains) s next

inductive KillRequest where
  | send (signal : Nat) (targets : List String)
  | listAll
  | nameOf (number : String)

def killUsage : String :=
  "Usage: kill [-s sigspec | -signum | -sigspec] [pid | job]... or\nkill -l [exitstatus]"

def sentSignal? (text : String) : Option Nat :=
  (signalNumber? text).filter fun n => n != 0 || (Text.readNat? text.toList).isSome

/-- The options of `kill`: the signal asked for, whether names are asked for, and what
follows. -/
def killOptions (signal : Option Nat) (list : Bool) :
    List String → Except String (Option Nat × Bool × List String)
  | [] => .ok (signal, list, [])
  | word :: rest =>
    let named (name : String) : Except String Nat :=
      match sentSignal? name with
      | some n => .ok n
      | none => .error ("invalid signal number or name: " ++ name)
    match word.toList with
    | ['-', '-'] => .ok (signal, list, rest)
    | ['-', 'l'] => killOptions signal true rest
    | ['-', 's'] =>
      match rest with
      | [] => .error "No arg for -s option"
      | name :: rest => do killOptions (some (← named name)) list rest
    | '-' :: 's' :: name => do killOptions (some (← named (String.ofList name))) list rest
    | '-' :: c :: _ => .error ("Illegal option -" ++ c.toString)
    | _ => .ok (signal, list, word :: rest)

def killRequest : List String → Except String KillRequest
  | [] => .error killUsage
  | word :: rest => do
    let direct :=
      if word.toList.head? = some '-' then sentSignal? (String.ofList (word.toList.drop 1))
      else none
    let (signal, list, others) ←
      match direct with
      | some n => .ok (some n, false, rest)
      | none => killOptions none false (word :: rest)
    match list, others with
    | true, [] => return .listAll
    | true, number :: _ => return .nameOf number
    | false, [] => .error killUsage
    | false, _ => return .send (signal.getD Signal.terminate) others

def State.killFails (s : State) (text : String) : State :=
  (s.warn ("kill: " ++ text)).withStatus 2

/-- Sends a signal to a process. A signal to the script itself takes effect at once, unless it
comes from an interpreter beside it, which has to come to its end first. -/
def sendTo (g : Setting) (f : Frame) (signal : Nat) (pid : Pid) : Action := fun s next =>
  let p := s.process
  if pid = p.execution.pid ∧ !s.beside then reactTo g f signal s next
  else if s.asleep.any fun j => j.1 == pid then
    match Signal.defaultReaction signal with
    | .ends =>
      next { s with
        asleep := s.asleep.filter fun j => j.1 != pid
        ended := (pid, Termination.signalStatus signal) :: s.ended }
    | _ => next s
  else if pid = p.execution.pid ∨ pid = p.execution.parent ∨ p.processes.contains pid then
    next { s with process := { p with sent := p.sent ++ [(pid, signal)] } }
  else if s.ended.any fun e => e.1 == pid then next s
  else next ((s.warn "kill: No such process\n").withStatus 1)

def sendToAll (g : Setting) (f : Frame) (signal : Nat) : List String → Action
  | [], s, next => next s
  | target :: rest, s, next =>
    let digits := if target.toList.head? = some '-' then target.toList.drop 1 else target.toList
    match argumentNumber? (String.ofList digits) with
    | none => next (s.killFails (noNumberText (String.ofList digits)))
    | some n =>
      let pid : Pid := if digits.length < target.length then -n else n
      sendTo g f signal pid s fun s => sendToAll g f signal rest s next

/-- `kill`: sends signals or tells their names. -/
def kill (g : Setting) (f : Frame) (words : List String) : Action := fun s next =>
  match killRequest words with
  | .error text => next (s.killFails text)
  | .ok (.send signal targets) => sendToAll g f signal targets (s.withStatus 0) next
  | .ok .listAll =>
    let names := ("0" :: signalNames.drop 1).map fun name => name ++ "\n"
    next ((s.mapProcess fun p => p.print (String.join names)).withStatus 0)
  | .ok (.nameOf number) =>
    match argumentNumber? number with
    | none => next (s.killFails ("Illegal number: " ++ number))
    | some n =>
      let signal := if 128 < n then n - 128 else n
      if 0 < signal ∧ signal ≤ Signal.greatest then
        next ((s.mapProcess fun p => p.print (signalName signal ++ "\n")).withStatus 0)
      else next (s.killFails ("invalid signal number or exit status: " ++ number))

/-- A text in single quotes. -/
def quoted (text : String) : String :=
  "'" ++ "'\"'\"'".intercalate ((text.splitOn "'")) ++ "'"

/-- `trap`: arranges for signals or tells what is arranged. -/
def trap (words : List String) (s : State) : State :=
  let arrangeAll (action : Option String) (names : List String) : State :=
    names.foldl (fun s name =>
      match signalNumber? name with
      | some signal => if s.ignoredBefore signal then s else s.arrange signal action
      | none => (s.mapProcess fun p => p.warn ("trap: " ++ name ++ ": bad trap")).withStatus 1)
      (s.withStatus 0)
  let words := if words.head? = some "--" then words.drop 1 else words
  match words with
  | [] =>
    (List.range (Signal.greatest + 1)).foldl (fun s signal =>
      match s.traps.find? fun t => t.1 == signal with
      | some (_, text) =>
        s.mapProcess fun p =>
          p.print ("trap -- " ++ quoted text ++ " " ++ signalName signal ++ "\n")
      | none => s) (s.withStatus 0)
  | [name] => arrangeAll none [name]
  | action :: names =>
    if (Text.readNat? action.toList).isSome then arrangeAll none (action :: names)
    else if action = "-" then arrangeAll none names
    else arrangeAll (some action) names

end Script

end Userland

end JobShell
