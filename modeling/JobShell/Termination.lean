/-!
# How a process ended

The system reports the end of a process in a *status word* of 32 bits. Its low seven bits
are 0 for a process that exited, 0x7f for one that is only stopped or continued, and
otherwise the number of the signal that ended it; the exit code is the second byte. All
higher bits, and the bit that tells of a core dump, have no part in it.

`Termination.ofStatus?` reads a status word, `exitStatus` and `signalStatus` write the
plain words of the two ways to end.
-/

namespace JobShell

/-- The number by which the system names a process. -/
abbrev Pid := Int

/-- The word in which the system reports how a process changed state. -/
abbrev StatusWord := Int32

inductive Termination where
  | exited (code : Int)
  | signaled (signal : Int)
deriving DecidableEq, Repr

namespace Termination

/-- The status word of a process that exited with `code`. -/
def exitStatus (code : Nat) : StatusWord :=
  (UInt32.ofNat (code % 256 * 256)).toInt32

/-- The status word of a process that `signal` ended. -/
def signalStatus (signal : Nat) : StatusWord :=
  (UInt32.ofNat (signal % 128)).toInt32

/-- Reads a status word; `none` for one that does not tell of an end. -/
def ofStatus? (status : StatusWord) : Option Termination :=
  let word := status.toUInt32.toNat
  if word % 128 = 0 then some (exited (word / 256 % 256))
  else if word % 128 = 127 then none
  else some (signaled (word % 128))

/-- The text in which an end is reported. -/
def message : Termination → String
  | exited code => "exit value " ++ toString code
  | signaled signal => "terminated by signal " ++ toString signal

/-- The end as the listings of the shell's state show it. -/
def shown : Termination → String
  | exited code => "Exited(" ++ toString code ++ ")"
  | signaled signal => "Signaled(" ++ toString signal ++ ")"

/-- An exit with code 0. -/
def isSuccess (t : Termination) : Bool :=
  t == exited 0

end Termination

end JobShell
