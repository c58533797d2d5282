import JobShell.Userland.Script.Run

/-!
# The interpreter of scripts

How the interpreter is called, and a script from its start to its end (`Script.interpreter`).
The calls of functions and of texts within texts are followed to a fixed depth.
-/

namespace JobShell

namespace Userland

namespace Script

def maxCalls : Nat := 1000

def runLines (g : Setting) (f : Frame) : List (List Statement) → Action
  | [], s, next => next s
  | line :: rest, s, next => runList g line f s fun s => runLines g f rest s next

/-- Runs a text. What stands before the first line that cannot be read is run. -/
def runText (g : Setting) (f : Frame) (text : String) : Action := fun s next =>
  let (lines, fault) := parse text
  runLines g f lines s fun s =>
    match fault with
    | none => next s
    | some e => f.fail { s with line := e.line } ("Syntax error: " ++ e.reason)

/-- What a script can call upon, nested to a depth. -/
def setting (start : Program) : Nat → Setting
  | 0 =>
    let refuse (f : Frame) (s : State) : Course :=
      f.fail s ("Maximum function recursion depth (" ++ toString maxCalls ++ ") reached")
    { start, evaluate := fun f _ s _ => refuse f s, call := fun f _ s _ => refuse f s }
  | depth + 1 =>
    let g := setting start depth
    { start
      evaluate := fun f text => runText g f text
      call := fun f body => runStatement g body f }

/-- Whether a text may only be the beginning of a script. -/
def isUnfinished (e : SyntaxError) : Bool :=
  e.reason = unclosedQuote || "end of file".toList.isPrefixOf e.reason.toList

/-- Runs the script on standard input, as much of it at a time as one reading gives. `begun` has
been read, but not been run. -/
def runInput (g : Setting) (f : Frame) : Nat → String → Action
  | 0, begun, s, next => runText g f begun s next
  | turns + 1, begun, s, next =>
    let (bytes, p) := s.process.readDelivery
    let s := { s with process := p }
    if bytes.isEmpty then runText g f begun s next
    else
      let text := begun ++ Text.decodeLossy bytes
      if (parse text).2.any isUnfinished then runInput g f turns text s next
      else
        let lines := String.ofList (text.toList.filter fun c => c == '\n')
        runText g f text s fun s => runInput g f turns lines s next

/-- What the interpreter is to run. -/
structure Task where
  name : String
  parameters : List String
  failsFast : Bool := false
  strict : Bool := false
  /-- The text, unless it is to be read from standard input. -/
  text : Option String

/-- Reads the arguments of the interpreter; a complaint about them has no line. -/
def readTask (p : Process) (failsFast strict : Bool) : List String → Except String Task
  | [] => .ok ⟨calledName p, [], failsFast, strict, none⟩
  | "-c" :: rest =>
    match rest with
    | [] => .error "-c requires an argument"
    | [text] => .ok ⟨calledName p, [], failsFast, strict, some text⟩
    | text :: name :: parameters => .ok ⟨name, parameters, failsFast, strict, some text⟩
  | "-s" :: rest => .ok ⟨calledName p, rest, failsFast, strict, none⟩
  | "-e" :: rest => readTask p true strict rest
  | "-u" :: rest => readTask p failsFast true rest
  | "--" :: rest => readFile p failsFast strict rest
  | word :: rest =>
    match word.toList with
    | '-' :: c :: _ => .error ("Illegal option -" ++ c.toString)
    | _ => readFile p failsFast strict (word :: rest)
where
  /-- The script in a file. A directory counts as an empty one. -/
  readFile (p : Process) (failsFast strict : Bool) : List String → Except String Task
    | [] => .ok ⟨calledName p, [], failsFast, strict, none⟩
    | file :: parameters =>
      match p.readFile file with
      | .ok bytes => .ok ⟨file, parameters, failsFast, strict, some (Text.decodeLossy bytes)⟩
      | .error .isDirectory => .ok ⟨file, parameters, failsFast, strict, some ""⟩
      | .error e => .error (openFault false file e)

def startDirectory (p : Process) : String :=
  if p.files.isDirectory p.execution.directory then Path.text p.execution.directory else ""

def firstVariables (p : Process) : List Variable :=
  (p.execution.environment.map fun (name, value) => ⟨name, value, true⟩) ++
    [⟨"PWD", startDirectory p, true⟩, ⟨"PPID", toString p.execution.parent, false⟩,
      ⟨"IFS", " \t\n", false⟩, ⟨"OPTIND", "1", false⟩, ⟨"PS1", "$ ", false⟩, ⟨"PS2", "> ", false⟩,
      ⟨"PS4", "+ ", false⟩]

def interpreter (start : Program) : Program := fun p rest =>
  let own := calledName p
  let p :=
    if p.files.isDirectory p.execution.directory then p
    else p.warn (own ++ ": 0: getcwd() failed: No such file or directory")
  match readTask p false false p.operands with
  | .error text => rest (p.warn (own ++ ": 0: " ++ text)) (Termination.exitStatus 2)
  | .ok task =>
    let g := setting start maxCalls
    let s : State := {
      process := p, name := task.name, parameters := task.parameters, here := startDirectory p
      bindings := firstVariables p, failsFast := task.failsFast, strict := task.strict }
    let leave := atEnd g fun s status => rest s.process status
    let finish (s : State) : Course := leave s (Termination.exitStatus s.status)
    match task.text with
    | some text => g.evaluate { leave } text s finish
    | none => runInput g { leave } (p.ahead.length + 2) "" s finish

end Script

end Userland

end JobShell
