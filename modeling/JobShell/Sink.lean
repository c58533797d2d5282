import JobShell.Failure

/-!
# Sinks

Where the shell writes to. A sink takes text and requests to pass it on, and each of these
operations may fail on its own; `Sink.text` is what was taken. A failure is answered to the
caller and leaves no trace in the text, and the next operation is tried all the same.
-/

namespace JobShell

/-- A place to write to. `failsAt` tells which operations fail, by their number from the
first one on and by whether they pass the text on or write it. -/
structure Sink where
  text : String := ""
  operations : Nat := 0
  failsAt : Nat → Bool → Bool := fun _ _ => false

namespace Sink

/-- A sink on which nothing fails. -/
def healthy : Sink := {}

def refusingWrites : Sink := { failsAt := fun _ passing => !passing }

/-- A sink that takes every write and cannot pass any on. -/
def refusingFlushes : Sink := { failsAt := fun _ passing => passing }

/-- Writes a text; the cause when it fails. -/
def write (s : Sink) (text : String) : Option Cause × Sink :=
  if s.failsAt s.operations false then
    (some (.other "sink refuses writes"), { s with operations := s.operations + 1 })
  else (none, { s with text := s.text ++ text, operations := s.operations + 1 })

/-- Passes the text on; the cause when that fails. -/
def flush (s : Sink) : Option Cause × Sink :=
  (if s.failsAt s.operations true then some (.other "sink refuses flushes") else none,
    { s with operations := s.operations + 1 })

end Sink

end JobShell
