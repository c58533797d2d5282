/-!
# Commands

A `Command` is what one line asks for: a program, its arguments, at most one target for
each of the two redirections, and whether it is to run in the background. It is built part
by part (`Command.add`), a later redirection taking the place of an earlier one, and
`Command.render` writes it in the form in which a line would ask for it.
-/

namespace JobShell

/-- The two redirections, from a file to standard input and from standard output to a
file. -/
inductive Redirection where
  | input
  | output
deriving DecidableEq, Repr

namespace Redirection

def token : Redirection → String
  | input => "<"
  | output => ">"

/-- The redirection whose operator a word is. -/
def ofToken? : String → Option Redirection
  | "<" => some input
  | ">" => some output
  | _ => none

@[simp] theorem ofToken?_token (r : Redirection) : ofToken? r.token = some r := by
  cases r <;> rfl

theorem ofToken?_eq_some_iff {s : String} {r : Redirection} :
    ofToken? s = some r ↔ s = r.token := by
  unfold ofToken?
  split <;> cases r <;> simp_all [token]

end Redirection

/-- The marker of a background launch. -/
def backgroundToken : String := "&"

/-- The words that have a meaning of their own after the arguments. -/
def isOperator (word : String) : Bool :=
  word == backgroundToken || (Redirection.ofToken? word).isSome

/-- One parsed line. -/
structure Command where
  program : String
  arguments : List String := []
  input : Option String := none
  output : Option String := none
  background : Bool := false
deriving DecidableEq, Repr

namespace Command

/-- What a line can add to a command. -/
inductive Part where
  | word (text : String)
  | redirect (side : Redirection) (path : String)
  | background
deriving DecidableEq, Repr

/-- The command with one more part. -/
def add (c : Command) : Part → Command
  | .word text => { c with arguments := c.arguments ++ [text] }
  | .redirect .input path => { c with input := some path }
  | .redirect .output path => { c with output := some path }
  | .background => { c with background := true }

/-- The command that a program and further parts make, added from left to right. -/
def build (program : String) (parts : List Part) : Command :=
  parts.foldl add { program := program }

/-- The clause of a redirection, if there is one. -/
def renderTarget (side : Redirection) : Option String → String
  | none => ""
  | some path => " " ++ side.token ++ " " ++ path

/-- Words, each after one space. -/
def renderWords : List String → String
  | [] => ""
  | word :: rest => " " ++ word ++ renderWords rest

/-- The command as a line: program, arguments, input, output, background marker, each
after one space. -/
def render (c : Command) : String :=
  c.program ++ renderWords c.arguments ++ renderTarget .input c.input ++
    renderTarget .output c.output ++ (if c.background then " " ++ backgroundToken else "")

end Command

end JobShell
