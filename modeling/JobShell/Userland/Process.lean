import JobShell.Input.ByteReader
import JobShell.System.Host

/-!
# Processes of the installed programs

A running program with what it has at hand: the files, its descriptors and what they lead to,
and what it has written and sent since it was last looked at. `Process.start` sets it up,
`Process.effect` is what the machine learns of it, and `Process.refresh` is how it goes on
after a sleep.

Files that are opened keep their position, which all descriptors that lead to one opening
share.
-/

namespace JobShell

namespace Userland

/-- What an opening leads to. -/
inductive OpenFile where
  /-- A file; with `atEnd` everything is written at its end. -/
  | file (path : Path) (position : Nat) (atEnd : Bool)
  | directory (path : Path)
  /-- What has been written to it and not been read. -/
  | pipe (content : Bytes)
deriving DecidableEq, Repr

/-- Where a descriptor leads to. -/
inductive Descriptor where
  | shellInput
  | shellOutput
  | shellErrors
  /-- The opening of this number. -/
  | opened (n : Nat)
deriving DecidableEq, Repr

/-- A running program. -/
structure Process where
  execution : Execution
  files : FileSystem
  /-- The deliveries to come on the standard input of the shell. -/
  ahead : List Bytes
  /-- The processes that can be sent a signal. -/
  processes : List Pid
  /-- The signals to be dealt with, the oldest first. -/
  received : List Nat
  output : Bytes := []
  errors : Bytes := []
  sent : List (Pid × Nat) := []
  /-- What has been arranged for signals, the latest first. -/
  arranged : List (Nat × Disposition) := []
  /-- The signals that were ignored when the program started. -/
  ignored : List Nat := []
  /-- The program was not started by the shell itself. -/
  nested : Bool := false
  openings : List OpenFile := []
  descriptors : List (Nat × Descriptor) := []
  /-- Why something could not be written to standard output. -/
  refused : Option Errno := none

/-- The rest of a program that has ended with a status word. -/
abbrev Rest := Process → StatusWord → Course

/-- A program and what follows it. -/
abbrev Program := Process → Rest → Course

/-- A program that runs without a pause, and the exit code that it ends with. -/
abbrev Utility := Process → Process × Nat

namespace Process

/-- What the machine learns of the process. -/
def effect (p : Process) : Effect where
  files := p.files
  ahead := p.ahead
  output := p.output
  errors := p.errors
  sent := p.sent
  arranged := p.arranged

/-- The process as it goes on in new surroundings. -/
def refresh (p : Process) (s : Surroundings) : Process :=
  { p with
    files := s.files, ahead := s.ahead, processes := s.processes,
    received := p.received ++ s.received, output := [], errors := [], sent := [] }

def pause (p : Process) (duration : Nat) (next : Process → Course) : Course :=
  .asleep p.effect duration fun s => next (p.refresh s)

/-- A new opening under a number of its own. -/
def opening (p : Process) (f : OpenFile) : Descriptor × Process :=
  (.opened p.openings.length, { p with openings := p.openings ++ [f] })

def connect (p : Process) (number : Nat) (d : Descriptor) : Process :=
  { p with descriptors := (number, d) :: p.descriptors.filter fun e => e.1 != number }

def close (p : Process) (number : Nat) : Process :=
  { p with descriptors := p.descriptors.filter fun e => e.1 != number }

def descriptor? (p : Process) (number : Nat) : Option Descriptor :=
  (p.descriptors.find? fun e => e.1 == number).map Prod.snd

def openFile? (p : Process) (number : Nat) : Option (Nat × OpenFile) :=
  match p.descriptor? number with
  | some (.opened n) => (p.openings[n]?).map (n, ·)
  | _ => none

/-- Connects a standard descriptor of a program that starts. -/
def connectEndpoint (p : Process) (number : Nat) (inherited : Descriptor) :
    Endpoint → Process
  | .inherited => p.connect number inherited
  | .file path =>
    let (d, p) := p.opening (.file path 0 false)
    p.connect number d
  | .directory path =>
    let (d, p) := p.opening (.directory path)
    p.connect number d

def start (e : Execution) (s : Surroundings) : Process :=
  let p : Process := {
    execution := e, files := s.files, ahead := s.ahead, processes := s.processes,
    received := s.received }
  ((p.connectEndpoint 0 .shellInput e.input).connectEndpoint 1 .shellOutput e.output).connect 2
    .shellErrors

/-- Writes to a descriptor, or tells why it cannot be written to. -/
def writeTo (p : Process) (number : Nat) (bytes : Bytes) : Except Errno Process :=
  match p.descriptor? number with
  | some .shellOutput => .ok { p with output := p.output ++ bytes }
  | some .shellErrors => .ok { p with errors := p.errors ++ bytes }
  | _ =>
    match p.openFile? number with
    | some (n, .file path position atEnd) =>
      if p.files.node? path = some (.device true) then .error .noSpace
      else
        let position := if atEnd then (p.files.content path).length else position
        .ok { p with
          files := p.files.writeAt path position bytes
          openings := p.openings.set n (.file path (position + bytes.length) atEnd) }
    | some (n, .pipe content) =>
      .ok { p with openings := p.openings.set n (.pipe (content ++ bytes)) }
    | _ => .error .badDescriptor

/-- Writes to standard output; why this fails is kept. -/
def write (p : Process) (bytes : Bytes) : Process :=
  match bytes, p.writeTo 1 bytes with
  | [], _ => p
  | _, .ok p => p
  | _, .error e => { p with refused := some e }

def print (p : Process) (text : String) : Process :=
  p.write (Text.encode text)

def warn (p : Process) (text : String) : Process :=
  (p.writeTo 2 (Text.encode (text ++ "\n"))).toOption.getD p

/-- Bytes up to and including the first line feed, or all of them, and those after. -/
def splitLine (bytes : Bytes) : Bytes × Bytes :=
  (ByteReader.cutLine bytes).getD (bytes, [])

/-- The deliveries up to the first end of input, joined, and those after it. -/
def takeAll : List Bytes → Bytes × List Bytes
  | [] => ([], [])
  | [] :: later => ([], later)
  | delivery :: later =>
    let (bytes, rest) := takeAll later
    (delivery ++ bytes, rest)

/-- The deliveries up to the first line feed or end of input, joined, and those after it. -/
def takeLine : List Bytes → Bytes × List Bytes
  | [] => ([], [])
  | [] :: later => ([], later)
  | delivery :: later =>
    match ByteReader.cutLine delivery with
    | some (line, []) => (line, later)
    | some (line, rest) => (line, rest :: later)
    | none =>
      let (bytes, rest) := takeLine later
      (delivery ++ bytes, rest)

/-- Reads from a descriptor: everything up to the end of input, or just one line. -/
def readFrom (p : Process) (number : Nat) (oneLine : Bool) : Except Errno Bytes × Process :=
  match p.descriptor? number with
  | some .shellInput =>
    let (bytes, ahead) := if oneLine then takeLine p.ahead else takeAll p.ahead
    (.ok bytes, { p with ahead })
  | _ =>
    match p.openFile? number with
    | some (n, .file path position atEnd) =>
      let rest := (p.files.content path).drop position
      let bytes := if oneLine then (splitLine rest).1 else rest
      (.ok bytes, { p with
        openings := p.openings.set n (.file path (position + bytes.length) atEnd) })
    | some (n, .pipe content) =>
      let (bytes, rest) := if oneLine then splitLine content else (content, [])
      (.ok bytes, { p with openings := p.openings.set n (.pipe rest) })
    | some (_, .directory _) => (.error .isDirectory, p)
    | none => (.error .badDescriptor, p)

/-- What one reading of standard input gives; nothing at its end. -/
def readDelivery (p : Process) : Bytes × Process :=
  match p.descriptor? 0, p.ahead with
  | some .shellInput, [] => ([], p)
  | some .shellInput, delivery :: ahead => (delivery, { p with ahead })
  | _, _ =>
    let (content, p) := p.readFrom 0 false
    (content.toOption.getD [], p)

def readInput (p : Process) : Except Errno Bytes × Process :=
  p.readFrom 0 false

def readFile (p : Process) (name : String) : Except Errno Bytes :=
  match p.files.openRead p.execution.directory name with
  | .error error => .error error
  | .ok (_, .directory) => .error .isDirectory
  | .ok (path, _) => .ok (p.files.content path)

def openRead (p : Process) (name : String) : Except Errno (Descriptor × Process) := do
  match ← p.files.openRead p.execution.directory name with
  | (path, .directory) => return p.opening (.directory path)
  | (path, _) => return p.opening (.file path 0 false)

/-- Opens a file for writing: it is created, and emptied unless `atEnd` is asked for. -/
def openWrite (p : Process) (name : String) (atEnd : Bool) :
    Except Errno (Descriptor × Process) := do
  let (path, files) ←
    if atEnd then p.files.openAppend p.execution.directory name
    else p.files.openWrite p.execution.directory name
  return { p with files }.opening (.file path 0 atEnd)

/-- The arguments after the name of the program. -/
def operands (p : Process) : List String :=
  p.execution.arguments.drop 1

/-- The text of a path as a link to it shows it; a directory may have been removed. -/
def linkText (p : Process) (number : Nat) : String :=
  match p.descriptor? number, p.openFile? number with
  | _, some (_, .file path _ _) => Path.text path
  | _, some (_, .directory path) =>
    Path.text path ++ (if p.files.isDirectory path then "" else " (deleted)")
  | _, _ => Path.text ["dev", "null"]

/-- The directory in which the descriptors of a process can be looked up. -/
def descriptorDirectory (process : String) : Path :=
  ["proc", process, "fd"]

/-- The files with the standard descriptors of the process among them, as links. -/
def showDescriptors (p : Process) (process : String) : FileSystem :=
  let directory := descriptorDirectory process
  [0, 1].foldl
    (fun fs number => fs.put (directory ++ [toString number]) (.link (p.linkText number)))
    ((p.files.put directory.dropLast .directory).put directory .directory)

def hideDescriptors (fs : FileSystem) (process : String) : FileSystem :=
  let directory := descriptorDirectory process
  ([0, 1].foldl (fun fs number => fs.remove (directory ++ [toString number])) fs).remove
    directory |>.remove directory.dropLast

end Process

end Userland

end JobShell
