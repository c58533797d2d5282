import JobShell.Termination

/-!
# The termination log

Children that were collected while the shell was doing something else wait in this log
until the shell's loop takes them. There are two buffers. Collecting appends to the active
one; taking makes the other one active first and then owns the one that was active, so that
what is collected in the meantime lands elsewhere. A buffer holds 64 facts; one that turned
a fact away, or found no room for one, is marked as saturated, and the mark is taken along
with its facts.

`TerminationLog.push`, `TerminationLog.collect` and `TerminationLog.take` are the only ways
to change a log. Slots past the length of a buffer keep what they held before and are never
read.
-/

namespace JobShell

/-- A child that was collected, with the status word it left. -/
structure Fact where
  pid : Pid
  status : StatusWord
deriving DecidableEq, Repr

/-- What one taking yields. -/
structure Drained where
  facts : List Fact
  saturated : Bool
deriving DecidableEq, Repr

/-- One of the two buffers of a log. -/
structure FactBuffer where
  slots : Vector Fact 64
  length : Nat
  saturated : Bool
deriving DecidableEq, Repr

namespace FactBuffer

/-- The number of facts that a buffer holds. -/
abbrev capacity : Nat := 64

def empty : FactBuffer :=
  ⟨Vector.replicate 64 ⟨0, 0⟩, 0, false⟩

/-- The facts in a buffer, the oldest first. -/
def facts (b : FactBuffer) : List Fact :=
  (List.range b.length).filterMap fun i => b.slots[i]?

/-- Appends a fact if there is room; otherwise the buffer is saturated. -/
def push (b : FactBuffer) (fact : Fact) : Bool × FactBuffer :=
  if h : b.length < capacity then
    (true, { b with slots := b.slots.set b.length fact h, length := b.length + 1 })
  else (false, { b with saturated := true })

/-- Whether there is room; without room the buffer is saturated. -/
def hasRoom (b : FactBuffer) : Bool × FactBuffer :=
  if b.length < capacity then (true, b) else (false, { b with saturated := true })

/-- The buffer once its facts are taken. -/
def cleared (b : FactBuffer) : FactBuffer :=
  { b with length := 0, saturated := false }

end FactBuffer

/-- Two buffers and which of them is active. -/
structure TerminationLog where
  even : FactBuffer := .empty
  odd : FactBuffer := .empty
  oddActive : Bool := false
deriving DecidableEq, Repr

namespace TerminationLog

/-- A log in which nothing waits. -/
def empty : TerminationLog := {}

def buffer (log : TerminationLog) (odd : Bool) : FactBuffer :=
  if odd then log.odd else log.even

/-- The log with another buffer in the place of one of its two. -/
def setBuffer (log : TerminationLog) (odd : Bool) (b : FactBuffer) : TerminationLog :=
  if odd then { log with odd := b } else { log with even := b }

/-- The buffer that takes new facts. -/
def active (log : TerminationLog) : FactBuffer :=
  log.buffer log.oddActive

def pending (log : TerminationLog) : Nat :=
  log.active.length

/-- Appends a fact to the active buffer; `false` if there was no room. -/
def push (log : TerminationLog) (fact : Fact) : Bool × TerminationLog :=
  let (accepted, b) := log.active.push fact
  (accepted, log.setBuffer log.oddActive b)

def hasRoom (log : TerminationLog) : Bool × TerminationLog :=
  let (room, b) := log.active.hasRoom
  (room, log.setBuffer log.oddActive b)

/-- Records children one by one as long as there is room. `supply` is what the children
that have ended would yield, in this order; the answer is the part of it that was left
alone. Room is looked for before every child, and once more after the last. -/
def collect (log : TerminationLog) : List Fact → List Fact × TerminationLog
  | [] => ([], log.hasRoom.2)
  | fact :: supply =>
    match log.hasRoom with
    | (true, log) => (log.push fact).2.collect supply
    | (false, log) => (fact :: supply, log)

/-- Makes the other buffer active. -/
def flip (log : TerminationLog) : TerminationLog :=
  { log with oddActive := !log.oddActive }

/-- Takes every fact that was recorded so far, with the mark of their buffer. -/
def take (log : TerminationLog) : Drained × TerminationLog :=
  let b := log.active
  (⟨b.facts, b.saturated⟩, log.flip.setBuffer log.oddActive b.cleared)

def shown (log : TerminationLog) : String :=
  "TerminationLog \x7b active: " ++ toString log.oddActive.toNat ++ ", pending: " ++
    toString log.pending ++ " \x7d"

end TerminationLog

end JobShell
