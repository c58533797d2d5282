import JobShell.Input.ByteReader
import JobShell.System.Host
import JobShell.System.Kernel

/-!
# The machine

Everything that the shell acts on: its children and signals, the files, its current
directory, its standard streams, and the children that sleep and will go on by themselves
(`Sleeper`). Time passes only while the shell waits; then the sleepers go on in the order of
their times, except those that are stopped. What comes from outside is part of the machine as
well (`Outside`): for each point at which the shell can be interrupted the events that arrive
there, which pid the system gives to each new child, which waits are disturbed, and which
children may be sent no signal. `Machine.pause` is such a point.
-/

namespace JobShell

/-- An event from outside. -/
inductive Arrival where
  | childEnds (pid : Pid) (status : StatusWord)
  /-- The terminal's stop signal. -/
  | stop
  /-- A child signal that no child has caused. -/
  | childSignal
deriving DecidableEq, Repr

/-- The answer of the system to a request for a new process. -/
inductive ForkAnswer where
  /-- This pid, unless a child that has not been collected holds it. -/
  | preferring (pid : Pid)
  | refused (e : Errno)
deriving DecidableEq, Repr

/-- What comes from outside, in the order in which it is met. When a list has run out,
nothing arrives, the next free pid is given, and waits succeed. -/
structure Outside where
  arrivals : List (List Arrival) := []
  forks : List ForkAnswer := []
  /-- The errors that the coming waits for a foreground child meet first. -/
  waitErrors : List Errno := []
  /-- The children that the shell may send no signal to. -/
  denials : Denials := []
deriving DecidableEq, Repr

/-- A child that will go on by itself, and how. -/
structure Sleeper where
  due : Nat
  pid : Pid
  resume : Surroundings → Course

/-- What the shell acts on. -/
structure Machine where
  kernel : Kernel := {}
  files : FileSystem := {}
  directory : Path := []
  home : String := "/"
  /-- The directories in which programs are looked for. -/
  places : List String := []
  input : ByteReader := { capacity := 8192 }
  /-- What has been written to standard output. -/
  output : Bytes := []
  /-- What has been written to standard error. -/
  errors : Bytes := []
  /-- The children that keep a standard error of their own, and what they have written to it. -/
  ownErrors : List (Pid × Bytes) := []
  shellPid : Pid := 0
  lastPid : Pid := 0
  now : Nat := 0
  /-- The sleeping children, the next one first. -/
  sleepers : List Sleeper := []
  /-- Standard input is a terminal, which can be given no other abilities than to take lines. -/
  atTerminal : Bool := false
  /-- The pids of the children launched in the background, the oldest first. -/
  launched : List Pid := []
  outside : Outside := {}

namespace Machine

def print (m : Machine) (text : String) : Machine :=
  { m with output := m.output ++ Text.encode text }

def printError (m : Machine) (text : String) : Machine :=
  { m with errors := m.errors ++ Text.encode text }

def mapKernel (m : Machine) (f : Kernel → Kernel) : Machine :=
  { m with kernel := f m.kernel }

def receive (m : Machine) : Arrival → Machine
  | .childEnds pid status => m.mapKernel fun k => k.endChild pid status
  | .stop => m.mapKernel Kernel.stop
  | .childSignal => m.mapKernel Kernel.raiseChild

/-- A point at which the shell can be interrupted: the events of this point arrive. -/
def pause (m : Machine) : Machine :=
  match m.outside.arrivals with
  | [] => m
  | events :: later =>
    events.foldl receive { m with outside := { m.outside with arrivals := later } }

/-- A machine with no events to come is the same after a pause. -/
@[simp] theorem pause_of_arrivals_nil {m : Machine} (h : m.outside.arrivals = []) :
    m.pause = m := by
  unfold pause
  rw [h]

def directory? (m : Machine) : Option Path :=
  if m.files.isDirectory m.directory then some m.directory else none

def environment (m : Machine) : List (String × String) :=
  [("HOME", m.home), ("LC_ALL", "C"), ("TERM", if m.atTerminal then "dumb" else "xterm"),
    ("PATH", ":".intercalate m.places)]

def surroundings (m : Machine) (pid : Pid) : Surroundings where
  files := m.files
  ahead := m.input.ahead
  processes := m.shellPid :: m.kernel.children.map Child.pid
  received :=
    ((m.kernel.children.find? fun c => c.pid == pid && c.isRunning).map Child.received).getD []

/-- A signal of the child of pid `sender` reaches the shell or a child. -/
def deliver (m : Machine) (signal : Pid × Nat) : Machine :=
  m.mapKernel fun k =>
    if signal.1 = m.shellPid then k.signalShell signal.2 else k.signalChild signal.1 signal.2

/-- A child writes to standard error. -/
def addErrors (m : Machine) (pid : Pid) (bytes : Bytes) : Machine :=
  if m.ownErrors.any fun e => e.1 == pid then
    { m with ownErrors := m.ownErrors.map fun e => if e.1 = pid then (pid, e.2 ++ bytes) else e }
  else { m with errors := m.errors ++ bytes }

/-- What a stretch of the run of a child leaves behind. -/
def absorb (m : Machine) (pid : Pid) (r : Effect) : Machine :=
  let m := { m with
    files := r.files
    input := { m.input with ahead := r.ahead }
    output := m.output ++ r.output
    kernel := m.kernel.updateChild pid fun c => { c with arranged := r.arranged } }
  r.sent.foldl deliver (m.addErrors pid r.errors)

/-- Puts a sleeper into its place; of two that are due at once the older one stays first. -/
def insertSleeper (s : Sleeper) : List Sleeper → List Sleeper
  | [] => [s]
  | t :: ts => if s.due < t.due then s :: t :: ts else t :: insertSleeper s ts

/-- The time at which a sleep of so many milliseconds ends; no sleep takes no time at all. -/
def wakeTime (m : Machine) (duration : Nat) : Nat :=
  m.now + max 1 duration

/-- A child runs up to its end or its next sleep. -/
def proceed (m : Machine) (pid : Pid) : Course → Machine
  | .ended r status => (m.absorb pid r).mapKernel fun k => k.endChild pid status
  | .asleep r duration resume =>
    let m := m.absorb pid r
    { m with sleepers := insertSleeper ⟨m.wakeTime duration, pid, resume⟩ m.sleepers }

/-- The signals that a child has to deal with have been handed to its program. -/
def handOver (m : Machine) (pid : Pid) : Machine :=
  m.mapKernel fun k => k.updateChild pid fun c => { c with received := [] }

/-- A child that sleeps goes on, unless it has ended in the meantime. -/
def wake (m : Machine) (s : Sleeper) : Machine :=
  if m.kernel.isRunning s.pid then
    (m.handOver s.pid).proceed s.pid (s.resume (m.surroundings s.pid))
  else m

/-- The first sleeper whose time has come and that is not stopped, and the other sleepers. -/
def takeDue (k : Kernel) (time : Nat) : List Sleeper → Option (Sleeper × List Sleeper)
  | [] => none
  | s :: ss =>
    if s.due ≤ time ∧ !k.isStopped s.pid then some (s, ss)
    else (takeDue k time ss).map fun (t, ts) => (t, s :: ts)

/-- Lets time pass; at most `turns` times a sleeper goes on. -/
def advanceWith : Nat → Machine → Nat → Machine
  | 0, m, time => { m with now := max m.now time }
  | turns + 1, m, time =>
    match takeDue m.kernel time m.sleepers with
    | none => { m with now := max m.now time }
    | some (s, sleepers) =>
      advanceWith turns ({ m with sleepers, now := max m.now s.due }.wake s) time

/-- Lets time pass; the sleepers whose times come go on in this order. As every sleep takes
time, the number of turns is bounded. -/
def advanceTo (m : Machine) (time : Nat) : Machine :=
  advanceWith (m.sleepers.length * (time - m.now + 2)) m time

/-- Lets time pass for as long as a child is stopped. The others go on in the meantime, each
when its time comes; if none of them makes the child go on, somebody outside does. -/
def outlastStop (m : Machine) (pid : Pid) : Machine :=
  let m := (m.sleepers.map Sleeper.due).foldl
    (fun m due => if m.kernel.isStopped pid then m.advanceTo due else m) m
  if m.kernel.isStopped pid then m.mapKernel fun k => k.signalChild pid Signal.resume else m

/-- Lets time pass up to a moment, and on while the child is stopped. -/
def sleepUntil (m : Machine) (pid : Pid) (time : Nat) : Machine :=
  (m.advanceTo time).outlastStop pid

/-- Follows the run of a child to its end, and lets the time pass that it takes. -/
def follow (m : Machine) (pid : Pid) : Course → Machine
  | .ended r status => m.proceed pid (.ended r status)
  | .asleep r duration resume =>
    let m := m.absorb pid r
    let m := m.sleepUntil pid (m.wakeTime duration)
    if m.kernel.isRunning pid then (m.handOver pid).follow pid (resume (m.surroundings pid))
    else m

/-- Lets time pass until the child has ended. -/
def awaitEnd (m : Machine) (pid : Pid) : Machine :=
  match m.kernel.isRunning pid, m.sleepers.find? fun s => s.pid == pid with
  | true, some s =>
    let m := { m with sleepers := m.sleepers.filter fun t => t.pid != pid }.sleepUntil pid s.due
    if m.kernel.isRunning pid then
      (m.handOver pid).follow pid (s.resume (m.surroundings pid))
    else m
  | _, _ => m

/-- A pid above every pid in use. -/
def freshPid (m : Machine) : Pid :=
  (m.kernel.children.map Child.pid).foldl max m.lastPid + 1

/-- Asks for a new process: its pid, which no uncollected child holds. -/
def fork (m : Machine) : Except Errno Pid × Machine :=
  match m.outside.forks with
  | [] => (.ok m.freshPid, { m with lastPid := m.freshPid })
  | .refused e :: later => (.error e, { m with outside := { m.outside with forks := later } })
  | .preferring pid :: later =>
    let m := { m with outside := { m.outside with forks := later } }
    if m.kernel.holds pid then (.ok m.freshPid, { m with lastPid := m.freshPid })
    else (.ok pid, m)

/-- A program runs as the child of this pid up to its end or its first sleep. -/
def execute (host : Host) (m : Machine) (e : Execution) : Machine :=
  m.proceed e.pid (host.run e (m.surroundings e.pid))

end Machine

end JobShell
