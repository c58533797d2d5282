/-!
# Configurations

How a shell deals with its user: whether it reads through the line editor, shows a prompt
and says that it leaves.
-/

namespace JobShell

/-- The policy of a shell. -/
structure Config where
  lineEditor : Bool := false
  historyCapacity : Nat := 0
  showPrompt : Bool := false
  showMessages : Bool := false
deriving DecidableEq, Repr

namespace Config

/-- A shell at a terminal. -/
def interactive (historyCapacity : Nat) : Config where
  lineEditor := true
  historyCapacity := historyCapacity
  showPrompt := true
  showMessages := true

/-- A shell that reads a pipe or a file as its standard input. -/
def piped : Config := { showPrompt := true }

/-- A shell for a script or a command string. -/
def noninteractive : Config := {}

def prompt (c : Config) : String :=
  if c.showPrompt then ": " else ""

end Config

end JobShell
