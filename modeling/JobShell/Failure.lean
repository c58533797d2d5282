import JobShell.Command.Parser
import JobShell.System.Errno

/-!
# Failures of the shell

A `Failure` is a kind, which says what could not be done, over the cause, which is another
failure or something from outside. `Failure.message` writes the whole chain from the
outermost kind to the innermost cause; `Failure.depth` is the number of steps down to that
cause.
-/

namespace JobShell

/-- What could not be done. -/
inductive FailureKind where
  /-- A line held no word. -/
  | emptyCommand
  /-- A redirection operator was the last word it could be. -/
  | missingRedirectTarget (operator : String)
  | launch (program : String)
  | directoryChange (path : String)
  /-- A builtin failed for a reason of its own. -/
  | builtinCommand (reason : String)
  | io
  | systemCall
  | lineEditor
deriving DecidableEq, Repr

def FailureKind.message : FailureKind → String
  | emptyCommand => "syntax error: empty command"
  | missingRedirectTarget operator =>
    "syntax error: expected a path after '" ++ operator ++ "'"
  | launch program => program ++ ": unable to launch"
  | directoryChange path => "cd: " ++ path
  | builtinCommand reason => reason
  | io => "I/O error occurred"
  | systemCall => "Nix error occurred"
  | lineEditor => "Readline error occurred"

/-- A cause from outside the shell. -/
inductive Cause where
  | errno (e : Errno)
  /-- An error that is shown under its name. -/
  | systemCall (e : Errno)
  /-- A text for the system held a NUL byte, the first one at this position. -/
  | nulByte (position : Nat)
  /-- The name of a file held a NUL byte. -/
  | nulInFileName
  /-- Bytes that were to be text were not UTF-8. -/
  | notUtf8
  | other (reason : String)
deriving DecidableEq, Repr

def Cause.message : Cause → String
  | errno e => e.message
  | systemCall e => e.name ++ ": " ++ e.description
  | nulByte position =>
    "nul byte found in provided data at position: " ++ toString position
  | nulInFileName => "file name contained an unexpected NUL byte"
  | notUtf8 => "stream did not contain valid UTF-8"
  | other reason => reason

/-- A kind over its cause, if it has one. -/
inductive Failure where
  | bare (kind : FailureKind)
  | because (kind : FailureKind) (cause : Cause)
  | wrapping (kind : FailureKind) (inner : Failure)
deriving DecidableEq, Repr

namespace Failure

/-- The outermost kind. -/
def kind : Failure → FailureKind
  | bare kind => kind
  | because kind _ => kind
  | wrapping kind _ => kind

/-- The texts of all kinds from the outermost one, then the cause, joined by `: `. -/
def message : Failure → String
  | bare kind => kind.message
  | because kind cause => kind.message ++ ": " ++ cause.message
  | wrapping kind inner => kind.message ++ ": " ++ inner.message

/-- The number of steps from the outermost kind down to the last cause. -/
def depth : Failure → Nat
  | bare _ => 0
  | because _ _ => 1
  | wrapping _ inner => inner.depth + 1

/-- The failure of a list of kinds, the outermost first, over a cause from outside. -/
def ofKinds? : List FailureKind → Option Cause → Option Failure
  | [], _ => none
  | [kind], none => some (bare kind)
  | [kind], some cause => some (because kind cause)
  | kind :: kinds, cause => (ofKinds? kinds cause).map (wrapping kind)

end Failure

/-- A line that cannot be read, as a failure of the shell. -/
def Command.ParseError.failure : Command.ParseError → Failure
  | emptyCommand => .bare .emptyCommand
  | missingTarget side => .bare (.missingRedirectTarget side.token)

end JobShell
