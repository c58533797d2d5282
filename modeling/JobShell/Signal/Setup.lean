/-!
# Signals of a process

What a process does on the three signals that matter for job control, which signals it has
blocked, and what a signal does to a process that has made no arrangement for it.
`SignalSetup.disposition` is what a process started with these arrangements does on any
signal, and `Signal.reaction` what comes of it.
-/

namespace JobShell

inductive Disposition where
  | default
  | ignore
  | handler
deriving DecidableEq, Repr

/-- A set of signals: the signal of number `n` is bit `n - 1`, as there is no signal 0. -/
structure SignalSet where
  bits : BitVec 64 := 0
deriving DecidableEq, Repr

namespace SignalSet

def contains (s : SignalSet) (signal : Nat) : Bool :=
  s.bits.getLsbD (signal - 1)

def insert (s : SignalSet) (signal : Nat) : SignalSet :=
  ⟨s.bits ||| BitVec.twoPow 64 (signal - 1)⟩

def erase (s : SignalSet) (signal : Nat) : SignalSet :=
  ⟨s.bits &&& ~~~ BitVec.twoPow 64 (signal - 1)⟩

theorem contains_insert_self (s : SignalSet) {signal : Nat} (h : signal - 1 < 64) :
    (s.insert signal).contains signal = true := by
  rw [contains, insert, BitVec.getLsbD_or, BitVec.getLsbD_twoPow]
  simp [h]

theorem contains_erase_self (s : SignalSet) {signal : Nat} (h : signal - 1 < 64) :
    (s.erase signal).contains signal = false := by
  rw [contains, erase, BitVec.getLsbD_and, BitVec.getLsbD_not, BitVec.getLsbD_twoPow]
  simp [h]

end SignalSet

namespace Signal

def interrupt : Nat := 2
/-- The end that cannot be averted. -/
def kill : Nat := 9
/-- A write to a pipe without reader. -/
def pipe : Nat := 13
def terminate : Nat := 15
/-- A child changed state. -/
def child : Nat := 17
/-- The request to go on after a stop. -/
def resume : Nat := 18
/-- The stop that cannot be averted. -/
def stop : Nat := 19
def terminalStop : Nat := 20

def greatest : Nat := 64

/-- What a signal does to a process. -/
inductive Reaction where
  | ends
  | stops
  | resumes
  /-- The process deals with it itself. -/
  | handled
  | nothing
deriving DecidableEq, Repr

/-- What a signal does to a process that made no arrangement for it. The stops of a process
that wants the terminal find no terminal here. -/
def defaultReaction (signal : Nat) : Reaction :=
  if signal = 0 ∨ greatest < signal then .nothing
  else if signal = resume then .resumes
  else if signal = stop ∨ signal = terminalStop then .stops
  else if signal ∈ [child, 21, 22, 23, 28] then .nothing
  else .ends

/-- What a signal does to a process with this disposition for it. Neither the end nor the
stop that cannot be averted asks for the disposition. -/
def reaction (signal : Nat) (d : Disposition) : Reaction :=
  if signal = kill ∨ signal = stop then defaultReaction signal
  else
    match d with
    | .default => defaultReaction signal
    | .ignore => if signal = resume then .resumes else .nothing
    | .handler => if signal = 0 then .nothing else .handled

/-- Whether a signal tells of a fault of the process itself; such a one is taken before the
others. -/
def isFault (signal : Nat) : Bool :=
  signal ∈ [4, 5, 7, 8, 11, 31]

/-- The signal that is taken first of those that wait: a fault before the others, and a lower
number before a higher one. -/
def first? (waiting : List Nat) : Option Nat :=
  let faults := waiting.filter isFault
  (if faults.isEmpty then waiting else faults).min?

end Signal

/-- The arrangements of a process: interrupt (Ctrl-C), terminal stop (Ctrl-Z) and child
signal, and the signals that are blocked. -/
structure SignalSetup where
  interrupt : Disposition := .default
  stop : Disposition := .default
  child : Disposition := .default
  mask : SignalSet := {}
deriving DecidableEq, Repr

namespace SignalSetup

def childBlocked (s : SignalSetup) : Bool :=
  s.mask.contains Signal.child

/-- The arrangements of the shell: children are collected, stops toggle the mode,
interrupts are ignored. -/
def forShell (s : SignalSetup) : SignalSetup :=
  { s with interrupt := .ignore, stop := .handler, child := .handler }

/-- The arrangements of a child before its program starts. Only a foreground child can be
interrupted; no child is stopped from the terminal. `mask` is the one that was in force
before the launch. -/
def forChild (foreground : Bool) (mask : SignalSet) : SignalSetup where
  interrupt := if foreground then .default else .ignore
  stop := .ignore
  child := .default
  mask := mask

/-- What a child with these arrangements does on a signal. A write to a pipe without reader
is ignored in the shell, and so in its children. -/
def disposition (s : SignalSetup) (signal : Nat) : Disposition :=
  if signal = Signal.interrupt then s.interrupt
  else if signal = Signal.terminalStop then s.stop
  else if signal = Signal.child then s.child
  else if signal = Signal.pipe then .ignore
  else .default

end SignalSetup

end JobShell
