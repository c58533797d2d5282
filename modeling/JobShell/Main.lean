import JobShell.CommandLine.Basic
import JobShell.Session.Setup

/-!
# The executable

The program as a process: its standard input and the script that it is to run are read
beforehand, the shell runs on a plain system that holds that script, and what the shell has
written goes to the two output streams. The programs that the shell launches are those of
`Userland.host`, so nothing outside these streams changes.
-/

namespace JobShell

namespace CommandLine

/-- All bytes of a stream, after those already read. -/
partial def readRest (stream : IO.FS.Stream) (before : ByteArray) : IO ByteArray := do
  let bytes ← stream.read 65536
  if bytes.isEmpty then return before else readRest stream (before ++ bytes)

/-- The script that the arguments name, if there is one, under its name. -/
def loadScript (arguments : List String) : IO (List (String × Bytes)) := do
  match readArguments arguments with
  | .ok { task := .script name, .. } =>
    try return [(name, (← IO.FS.readBinFile name).toList)]
    catch _ => return []
  | _ => return []

def loadMachine (arguments : List String) : IO Machine := do
  let stream ← IO.getStdin
  let bytes := (← readRest stream .empty).toList
  let files ← loadScript arguments
  let machine := SessionSetup.machine { files }
  return { machine with
    input := { machine.input with ahead := ByteReader.whole bytes }
    atTerminal := ← stream.isTty }

end CommandLine

end JobShell

def main (arguments : List String) : IO UInt32 := do
  let machine ← JobShell.CommandLine.loadMachine arguments
  let (code, machine) :=
    JobShell.CommandLine.run JobShell.Userland.host machine arguments
  (← IO.getStdout).write ⟨machine.output.toArray⟩
  (← IO.getStderr).write ⟨machine.errors.toArray⟩
  return code.toUInt32
