import JobShell.Signal.Mode
import JobShell.Signal.Setup
import JobShell.Signal.TerminationLog
import JobShell.System.Errno

/-!
# The shell's children and signals

The part of the system that the shell shares with its signal handlers: the children it has
not collected yet in the order of their launch, its arrangements for signals, a child signal
that waits to be unblocked, the termination log and the mode switch. Of the signals that are
blocked only the child signal is followed while it waits; the terminal's stop signal counts
when it is delivered (`Kernel.stop`), and the rest of the mask is kept and handed on.

A signal that would end a child that is stopped waits until the child goes on; only the end
that cannot be averted comes at once.

A child that ends stays in the list with its status word until it is collected, either by
the handler of the child signal (`Kernel.handleChild`), which takes every ended child it
finds room for, or by a wait for that one child (`Kernel.reap`). The handler runs whenever
the signal is raised while it is not blocked, and when it is unblocked while one waits.
-/

namespace JobShell

/-- What the system knows of a child. -/
inductive ChildState where
  | running
  | ended (status : StatusWord)
deriving DecidableEq, Repr

/-- A child of the shell that has not been collected. -/
structure Child where
  pid : Pid
  state : ChildState := .running
  signals : SignalSetup := {}
  stopped : Bool := false
  /-- The signals that will end it when it goes on after a stop. -/
  waiting : List Nat := []
  /-- What its program has arranged for signals since it started, the latest first. -/
  arranged : List (Nat × Disposition) := []
  /-- The signals that its program has to deal with, the oldest first. -/
  received : List Nat := []
deriving DecidableEq, Repr

namespace Child

/-- What collecting the child would record. -/
def fact? (c : Child) : Option Fact :=
  match c.state with
  | .running => none
  | .ended status => some ⟨c.pid, status⟩

def isRunning (c : Child) : Bool :=
  c.state == .running

/-- What the child does on a signal. One that it was started with blocked waits, which for the
child is as if it was ignored. -/
def disposition (c : Child) (signal : Nat) : Disposition :=
  if c.signals.mask.contains signal then .ignore
  else
    match c.arranged.find? fun a => a.1 == signal with
    | some (_, d) => d
    | none => c.signals.disposition signal

end Child

/-- The children that the system lets nobody send a signal to, and why. -/
abbrev Denials := List (Pid × Errno)

namespace Denials

def reason? (d : Denials) (pid : Pid) : Option Errno :=
  (d.find? fun denied => denied.1 == pid).map Prod.snd

end Denials

/-- The state that the shell shares with its signal handlers. -/
structure Kernel where
  children : List Child := []
  signals : SignalSetup := {}
  childPending : Bool := false
  log : TerminationLog := {}
  mode : ModeSwitch := {}
  /-- The signals that the shell has asked to be sent, and to whom, the oldest first. -/
  sent : List (Pid × Nat) := []
deriving DecidableEq, Repr

namespace Kernel

/-- What the children that have ended would yield, in the order in which they are
found. -/
def reapable (k : Kernel) : List Fact :=
  k.children.filterMap Child.fact?

/-- The children without the first `n` of those that have ended. -/
def dropEnded : Nat → List Child → List Child
  | 0, cs => cs
  | _, [] => []
  | n + 1, c :: cs =>
    match c.state with
    | .running => c :: dropEnded (n + 1) cs
    | .ended _ => dropEnded n cs

/-- One run of the handler of the child signal. -/
def handleChild (k : Kernel) : Kernel :=
  let (left, log) := k.log.collect k.reapable
  { k with log, children := dropEnded (k.reapable.length - left.length) k.children }

/-- The child signal reaches the shell. -/
def deliverChild (k : Kernel) : Kernel :=
  if k.signals.child = .handler then k.handleChild else k

/-- The child signal is raised; while it is blocked it waits. -/
def raiseChild (k : Kernel) : Kernel :=
  if k.signals.childBlocked then { k with childPending := true } else k.deliverChild

/-- Sets the mask of the shell; a child signal that waits is delivered if this unblocks it. -/
def setMask (k : Kernel) (mask : SignalSet) : Kernel :=
  let k := { k with signals := { k.signals with mask } }
  if !k.signals.childBlocked && k.childPending then
    { k with childPending := false }.deliverChild
  else k

/-- Blocks or unblocks the child signal, and leaves the other signals of the mask alone. -/
def setChildBlocked (k : Kernel) (blocked : Bool) : Kernel :=
  let mask := k.signals.mask
  k.setMask (if blocked then mask.insert Signal.child else mask.erase Signal.child)

def installHandlers (k : Kernel) : Kernel :=
  { k with signals := k.signals.forShell }

/-- Makes the arrangements of a child in the shell itself. A child signal that waits is
dropped, since nothing is to be done on it. -/
def resetForChild (k : Kernel) (foreground : Bool) (mask : SignalSet) : Kernel :=
  { k with signals := .forChild foreground mask, childPending := false }

/-- Ignores the child signal, so that children that end leave nothing to collect. -/
def ignoreChildren (k : Kernel) : Kernel :=
  { k with signals := { k.signals with child := .ignore }, childPending := false }

def isRunning (k : Kernel) (pid : Pid) : Bool :=
  k.children.any fun c => c.pid == pid && c.isRunning

def isStopped (k : Kernel) (pid : Pid) : Bool :=
  k.children.any fun c => c.pid == pid && c.isRunning && c.stopped

/-- Whether a child that has not been collected holds this pid. -/
def holds (k : Kernel) (pid : Pid) : Bool :=
  k.children.any fun c => c.pid == pid

/-- A child starts. -/
def start (k : Kernel) (pid : Pid) (signals : SignalSetup) : Kernel :=
  { k with children := k.children ++ [{ pid, signals }] }

/-- The children after the running one of this pid has ended. -/
def markEnded (pid : Pid) (status : StatusWord) (cs : List Child) : List Child :=
  cs.map fun c => if c.pid = pid ∧ c.isRunning then { c with state := .ended status } else c

/-- A running child ends. Where the child signal is ignored it leaves no trace; otherwise
its status word stays to be collected and the signal is raised. -/
def endChild (k : Kernel) (pid : Pid) (status : StatusWord) : Kernel :=
  if !k.isRunning pid then k
  else if k.signals.child = .ignore then
    { k with children := k.children.filter fun c => !(c.pid == pid && c.isRunning) }
  else { k with children := markEnded pid status k.children }.raiseChild

/-- Collects the child of this pid if it has ended. -/
def reap (k : Kernel) (pid : Pid) : Option StatusWord × Kernel :=
  match k.reapable.find? fun fact => fact.pid == pid with
  | none => (none, k)
  | some fact =>
    (some fact.status,
      { k with children := k.children.filter fun c => !(c.pid == pid && !c.isRunning) })

def updateChild (k : Kernel) (pid : Pid) (f : Child → Child) : Kernel :=
  { k with children := k.children.map fun c => if c.pid = pid ∧ c.isRunning then f c else c }

/-- A child has been stopped or goes on. The shell hears of it only where it has no handler
that says that it does not care. -/
def raiseChange (k : Kernel) : Kernel :=
  if k.signals.child = .default then k.raiseChild else k

/-- A signal reaches a child. One that has ended but is not collected takes it without
effect. -/
def signalChild (k : Kernel) (pid : Pid) (signal : Nat) : Kernel :=
  match k.children.find? fun c => c.pid == pid && c.isRunning with
  | none => k
  | some c =>
    match Signal.reaction signal (c.disposition signal) with
    | .ends =>
      if c.stopped ∧ signal ≠ Signal.kill then
        k.updateChild pid fun c => { c with waiting := c.waiting ++ [signal] }
      else k.endChild pid (Termination.signalStatus signal)
    | .stops =>
      if c.stopped then k else (k.updateChild pid fun c => { c with stopped := true }).raiseChange
    | .resumes =>
      if !c.stopped then k
      else
        let k := (k.updateChild pid fun c => { c with stopped := false }).raiseChange
        match Signal.first? c.waiting with
        | some fatal => k.endChild pid (Termination.signalStatus fatal)
        | none => k
    | .handled => k.updateChild pid fun c => { c with received := c.received ++ [signal] }
    | .nothing => k

/-- The shell asks for a signal to be sent to a child. There may be no such child any more, and
the system may deny the request; then nothing comes of it. -/
def kill (k : Kernel) (denials : Denials) (pid : Pid) (signal : Nat) :
    Except Errno Unit × Kernel :=
  let asked := { k with sent := k.sent ++ [(pid, signal)] }
  if !k.holds pid then (.error .noProcess, asked)
  else
    match denials.reason? pid with
    | some e => (.error e, asked)
    | none => (.ok (), asked.signalChild pid signal)

/-- The terminal's stop signal reaches the shell. -/
def stop (k : Kernel) : Kernel :=
  if k.signals.stop = .handler then { k with mode := k.mode.toggle } else k

/-- A signal of another process reaches the shell. The shell ignores interrupts, and what
would end it is never sent. -/
def signalShell (k : Kernel) (signal : Nat) : Kernel :=
  if signal = Signal.terminalStop then k.stop
  else if signal = Signal.child then k.raiseChild
  else k

end Kernel

end JobShell
