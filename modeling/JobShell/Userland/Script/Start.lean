import JobShell.Userland.Script.Expansion
import JobShell.Userland.Script.Trap

/-!
# What scripts start

The connections that are made for a command, the programs that a script starts, and what goes
on in the background. A process in the background runs up to its end or its first sleep before
the script goes on, and further only when the script waits for it.
-/

namespace JobShell

namespace Userland

namespace Script

/-! ## Redirections -/

/-- A redirection with its target filled in. -/
structure Connection where
  descriptor : Nat
  operator : String
  target : String

/-- Why a file cannot be opened, in the words of the interpreter. -/
def openFault (writing : Bool) (target : String) (e : Errno) : String :=
  let cause :=
    match e with
    | .noEntry | .notDirectory => if writing then "Directory nonexistent" else "No such file"
    | e => e.text
  "cannot " ++ (if writing then "create " else "open ") ++ target ++ ": " ++ cause

def connectOne (p : Process) (c : Connection) : Except String Process :=
  match c.operator with
  | "<" =>
    match p.openRead c.target with
    | .ok (d, p) => .ok (p.connect c.descriptor d)
    | .error e => .error (openFault false c.target e)
  | ">" | ">|" | ">>" =>
    match p.openWrite c.target (c.operator = ">>") with
    | .ok (d, p) => .ok (p.connect c.descriptor d)
    | .error e => .error (openFault true c.target e)
  | "<>" =>
    match p.files.openAppend p.execution.directory c.target with
    | .ok (path, files) =>
      let (d, p) := { p with files }.opening (.file path 0 false)
      .ok (p.connect c.descriptor d)
    | .error e => .error (openFault true c.target e)
  | "<<" =>
    let (d, p) := p.opening (.pipe (Text.encode c.target))
    .ok (p.connect c.descriptor d)
  | _ =>
    if c.target = "-" then .ok (p.close c.descriptor)
    else
      match Text.readNat? c.target.toList with
      | none => .error "Syntax error: Bad fd number"
      | some n =>
        match p.descriptor? n with
        | some d => .ok (p.connect c.descriptor d)
        | none => .error (c.target ++ ": Bad file descriptor")

/-- Makes connections from first to last; those before the first that fails stay made. -/
def connectAll (p : Process) : List Connection → Except String Process
  | [] => .ok p
  | c :: cs => do connectAll (← connectOne p c) cs

def expandRedirects (g : Setting) (f : Frame) (s : State)
    (next : List Connection → State → Course) : List Redirect → Course
  | [] => next [] s
  | r :: rs =>
    expandText g f s r.target fun target s =>
      expandRedirects g f s (fun cs s => next (⟨r.descriptor, r.operator, target⟩ :: cs) s) rs

def reconnect (s : State) (descriptors : List (Nat × Descriptor)) : State :=
  s.mapProcess fun p => { p with descriptors }

/-! ## Starting programs -/

def State.places (s : State) : List String :=
  match s.value? "PATH" with
  | some text => (text.splitOn ":").map fun place => if place.isEmpty then "." else place
  | none => []

/-- Why a program cannot be started, and the exit code for that. -/
def startFault (name : String) (e : Errno) : String × Nat :=
  let missing := e = .noEntry ∨ e = .notDirectory
  let code := if !name.contains '/' ∨ missing ∨ e = .nameTooLong then 127 else 126
  (name ++ ": " ++ (if name.isEmpty then Errno.accessDenied.text
    else if missing then "not found" else e.text), code)

/-- The pid of the next process that the script starts, far from those that the system gives to
the children of the shell. -/
def State.nextPid (s : State) : Pid :=
  s.process.execution.pid + 10000 + s.started

/-- A program as the script starts it. -/
def childProcess (s : State) (utility : String) (words : List String) : Process :=
  let p := s.process
  let execution := p.execution
  { p with
    execution := { execution with
      utility, arguments := words, pid := s.nextPid
      parent := execution.pid, places := s.places, environment := s.environment }
    files := p.showDescriptors (toString execution.pid)
    nested := true, ignored := s.ignoredSignals }

/-- Starts a program and waits for its end. `owner` stands in front of complaints. -/
def startProgram (g : Setting) (owner : String) (words : List String) (s : State)
    (next : State → StatusWord → Course) : Course :=
  let p := s.process
  let name := words.headD ""
  match p.files.findProgram p.execution.directory s.places name with
  | .error e =>
    let (text, code) := startFault name e
    next ((s.warn (owner ++ text)).withStatus code) (Termination.exitStatus code)
  | .ok utility =>
    g.start (childProcess s utility words) fun inner status =>
      let files := Process.hideDescriptors inner.files (toString p.execution.pid)
      let s := (s.after { inner with files }).tellEnd status
      let s := if s.disposition Signal.child = .handler then s.mapProcess fun p =>
          { p with received := p.received ++ [Signal.child] }
        else s
      next ({ s with started := s.started + 1 }.withStatus (State.codeOf status)) status

/-! ## Processes in the background -/

/-- What the process has taken over from a stretch of another one's run. -/
def absorb (p : Process) (r : Effect) : Process :=
  { p with
    files := r.files, ahead := r.ahead, output := p.output ++ r.output,
    errors := p.errors ++ r.errors, sent := p.sent ++ r.sent }

def surroundings (p : Process) : Surroundings where
  files := p.files
  ahead := p.ahead
  processes := p.processes
  received := []

def followBackground (pid : Pid) (next : State → Course) (s : State) : Course → Course
  | .ended r status =>
    next { s with process := absorb s.process r, ended := (pid, status) :: s.ended }
  | .asleep r duration resume =>
    (absorb s.process r).pause duration fun p =>
      followBackground pid next { s with process := p } (resume (surroundings p))

def awaitOne (pid : Pid) : Action := fun s next =>
  match s.asleep.find? fun j => j.1 == pid with
  | none => next s
  | some (_, duration, resume) =>
    let s := { s with asleep := s.asleep.filter fun j => j.1 != pid }
    s.process.pause duration fun p =>
      followBackground pid next { s with process := p } (resume (surroundings p))

def awaitEach : List Pid → Action
  | [], s, next => next s
  | pid :: rest, s, next => awaitOne pid s fun s => awaitEach rest s next

/-- `wait`: waits for one process in the background, or for all of them. -/
def waitCommand (words : List String) : Action := fun s next =>
  match words with
  | [] => awaitEach (s.asleep.map fun j => j.1) s fun s => next (s.withStatus 0)
  | word :: _ =>
    match argumentNumber? word with
    | none => next ((s.warn ("wait: " ++ noNumberText word)).withStatus 2)
    | some n =>
      let pid : Pid := n
      awaitOne pid s fun s =>
        match s.ended.find? fun e => e.1 == pid with
        | some (_, status) => next ((s.tellEnd status).withStatus (State.codeOf status))
        | none => next (s.withStatus 127)

/-- Starts something in the background, which runs up to its end or its first sleep before the
script goes on. -/
def startBackground (g : Setting) (run : Frame → Action) : Action := fun s next =>
  let pid := s.nextPid
  let p :=
    match s.process.openRead "/dev/null" with
    | .ok (d, p) => p.connect 0 d
    | .error _ => s.process
  let started := { s with started := s.started + 1, lastBackground := some pid }
  let inner := { s with process := { p with output := [], errors := [], sent := [] } }
  match runBeside g inner run fun inner status => .ended inner.process.effect status with
  | .ended _ _ =>
    runBeside g { s with process := p } run fun inner status =>
      let s := started.after inner.process
      next ({ s with ended := (pid, status) :: s.ended }.withStatus 0)
  | .asleep r duration resume =>
    next ({ started with
      process := absorb s.process r
      asleep := started.asleep ++ [(pid, duration, resume)] }.withStatus 0)

end Script

end Userland

end JobShell
