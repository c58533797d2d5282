import JobShell.Failure
import JobShell.System.Machine
import JobShell.Text.Grapheme
import JobShell.Text.Lines

/-!
# Line sources

Where the shell's lines come from: lines that are known beforehand, standard input read as
bytes, or standard input read through the line editor, which at a terminal without editing
abilities, and away from a terminal, reads whole lines and only obeys the backspace
character. Bytes that are not UTF-8 become U+FFFD when they are read plainly and are an
error for the editor.

A terminal with editing abilities has the editor give two answers more, which do not occur
here: a line that is abandoned with Ctrl-C counts as an empty one, and so does a line with keys
that are not UTF-8, of which the shell says that its input is not valid.
-/

namespace JobShell

inductive LineSource where
  /-- Lines known beforehand, and the failure that follows them, if any. -/
  | listed (lines : List String) (failure : Option Failure)
  /-- Standard input, read as bytes. -/
  | plain
  /-- Standard input, read through the line editor. -/
  | editor
deriving DecidableEq, Repr

namespace LineSource

def ofText (text : String) : LineSource :=
  listed (Text.lines text) none

/-- The line of a plain reader. -/
def plainLine (bytes : Bytes) : String :=
  Text.decodeLossy (ByteReader.chop bytes)

/-- The line of the editor, if it is UTF-8. -/
def editorLine? (bytes : Bytes) : Option String :=
  (Text.decode? bytes).map fun _ =>
    Text.eraseBackspaces (Text.decodeLossy (ByteReader.chop bytes))

/-- The editor in two lines: how many lines it keeps, and how many it may keep. -/
def editorShown (kept capacity : Nat) : String :=
  "count: " ++ toString kept ++ "\ncapacity: " ++ toString capacity

/-- A broken standard input. -/
def brokenInput : Cause := .other "source broke"

/-- Reads the next line: a line, nothing at the end of input, or a failure. Listed lines
need no prompt, and the editor shows it at a terminal only. -/
def readLine (source : LineSource) (prompt : String) (m : Machine) :
    Except Failure (Option String) × LineSource × Machine :=
  match source with
  | listed [] none => (.ok none, source, m)
  | listed [] (some f) => (.error f, source, m)
  | listed (line :: rest) failure => (.ok (some line), listed rest failure, m)
  | plain =>
    let m := m.print prompt
    match m.input.readLine with
    | (.line bytes, input) => (.ok (some (plainLine bytes)), source, { m with input })
    | (.ended, input) => (.ok none, source, { m with input })
    | (.broke, input) => (.error (.because .io brokenInput), source, { m with input })
  | editor =>
    let m := if m.atTerminal then m.print prompt else m
    match m.input.readLine with
    | (.line bytes, input) =>
      match editorLine? bytes with
      | some line => (.ok (some line), source, { m with input })
      | none => (.error (.because .lineEditor .notUtf8), source, { m with input })
    | (.ended, input) => (.ok none, source, { m with input })
    | (.broke, input) => (.error (.because .lineEditor brokenInput), source, { m with input })

/-- A bound on the number of lines that a source can still give. -/
def bound (m : Machine) : LineSource → Nat
  | listed lines _ => lines.length
  | plain => m.input.remaining
  | editor => m.input.remaining

end LineSource

end JobShell
