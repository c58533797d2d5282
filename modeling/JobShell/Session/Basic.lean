import JobShell.Session.Setup
import JobShell.Shell.Interpreter

/-!
# Sessions

A session drives one shell through steps: lines to run, signals, and looks at its state.
`Session.run` is the transcript. Each step has its own standard output and standard error; a
child in the background keeps the standard error of the step that launched it.

The child signal is blocked except while a session waits for children and during a step that
asks for it, so that the shell learns of children that have ended at known points only.
-/

namespace JobShell

inductive Step where
  | run (text : String)
  | file (name : String)
  | input (data : Bytes)
  | source (lines : List String) (failure : Option Failure)
  | editor (data : Bytes) (capacity : Nat)
  | stop (count : Nat)
  | interrupt
  | kill (job signal : Nat)
  | wait (jobs : List Nat)
  | spawn (command : Command) (background : Bool)
  | ignoreChildren
  | guard
  | resetForChild (foreground : Bool)
  | installHandlers
  | debug
  | exit (code : Option Int)
deriving Repr

/-- What a step looked at. -/
inductive Finding where
  | launched (l : Machine.Launched)
  | editor (history capacity : Nat)
  /-- Whether the child signal was blocked before, during and after a guard, and in the mask
  that the guard remembers. -/
  | guard (before during after previous : Bool)
  | reset (before after : SignalSetup)
  | signals (s : SignalSetup)
  | text (s : String)
deriving Repr

/-- What is known after a step. -/
structure Report where
  output : String
  errors : String
  last : Option Termination
  directory : Option String
  failure : Option Failure
  finding : Option Finding
deriving Repr

/-- The result of a step: the shell goes on, or it has left. -/
inductive StepResult where
  | going (r : Report)
  | ended (output errors : String)
deriving Repr

structure Transcript where
  results : List StepResult
  code : Nat
  machine : Machine

namespace Session

def describe (s : Shell) : String :=
  let last :=
    match s.last with
    | none => "None"
    | some t => "Some(" ++ t.shown ++ ")"
  "pid: " ++ s.pidText ++ "\tlast: " ++ last ++ "\n" ++ s.jobs.shown

/-- The n-th background child, counted from 1. -/
def child? (m : Machine) (n : Nat) : Option Pid :=
  if n = 0 then none else m.launched[n - 1]?

def onKernel (s : Shell) (f : Kernel → Kernel) : Shell :=
  s.mapMachine fun m => m.mapKernel f

/-- Standard input is now this data; what the shell has read ahead stays read. -/
def setInput (s : Shell) (data : Bytes) : Shell :=
  s.mapMachine fun m => { m with input := { m.input with ahead := ByteReader.whole data } }

/-- Waits until children have ended, and only then lets a child signal through that waits. So
all that have ended until then are collected at once. -/
def awaitChildren (s : Shell) (jobs : List Nat) : Shell :=
  let s := s.mapMachine fun m => (jobs.filterMap (child? m)).foldl Machine.awaitEnd m
  onKernel s fun k => (k.setChildBlocked false).setChildBlocked true

/-- What a step does: how the shell goes on, what failed and what was found. -/
def perform (host : Host) (s : Shell) : Step → Progress × Option Failure × Option Finding
  | .run text => (s.executeText host text, none, none)
  | .file name =>
    match s.executeFile host name with
    | .ok progress => (progress, none, none)
    | .error f => (.running s, some f, none)
  | .input data => ((setInput s data).executeInput host, none, none)
  | .source lines failure => (s.executeLines host (.listed lines failure), none, none)
  | .editor data capacity =>
    ((setInput s data).executeLines host .editor, none, some (.editor 0 capacity))
  | .stop count =>
    (.running (onKernel s fun k => (List.range count).foldl (fun k _ => k.stop) k), none, none)
  | .interrupt =>
    if s.machine.kernel.signals.interrupt = .default then
      (.left (128 + Signal.interrupt) s.machine, none, none)
    else (.running s, none, none)
  | .kill job signal =>
    match child? s.machine job with
    | none => (.running s, none, none)
    | some pid =>
      let s := onKernel s fun k => (k.kill s.machine.outside.denials pid signal).2
      (.running (s.mapMachine fun m => m.advanceTo m.now), none, none)
  | .wait jobs => (.running (awaitChildren s jobs), none, none)
  | .spawn command background =>
    match s.machine.spawn host command background with
    | (.ok l, machine) => (.running { s with machine }, none, some (.launched l))
    | (.error f, machine) => (.running { s with machine }, some f, none)
  | .ignoreChildren => (.running (onKernel s Kernel.ignoreChildren), none, none)
  | .guard =>
    let before := s.machine.kernel.signals
    let inside := onKernel s fun k => k.setChildBlocked true
    let after := onKernel inside fun k => k.setMask before.mask
    (.running after, none, some (.guard before.childBlocked
      inside.machine.kernel.signals.childBlocked after.machine.kernel.signals.childBlocked
      (before.mask.contains Signal.child)))
  | .resetForChild foreground =>
    let before := s.machine.kernel.signals
    let s := onKernel s fun k =>
      (k.setChildBlocked true).resetForChild foreground before.mask
    (.running s, none, some (.reset before s.machine.kernel.signals))
  | .installHandlers =>
    let s := onKernel s Kernel.installHandlers
    (.running s, none, some (.signals s.machine.kernel.signals))
  | .debug => (.running s, none, some (.text (Label.all s.machine (describe s))))
  | .exit code => (s.exit code, none, none)

/-- New streams. The children in the background keep the standard error that they have. -/
def renewStreams (s : Shell) : Shell :=
  s.mapMachine fun m =>
    let keeping := m.launched.filter fun pid => !m.ownErrors.any fun e => e.1 == pid
    { m with output := [], errors := [], ownErrors := m.ownErrors ++ keeping.map (·, []) }

/-- What children have written to a standard error that they kept. -/
def keptErrors (m : Machine) (pids : List Pid) : Bytes :=
  (m.ownErrors.filter fun e => pids.contains e.1).flatMap Prod.snd

/-- The report on a shell that goes on; `later` is what its standard error has received since. -/
def report (s : Shell) (later : Bytes) (failure : Option Failure) (finding : Option Finding) :
    Report where
  output := Label.shown s.machine s.machine.output
  errors := Label.shown s.machine (s.machine.errors ++ later)
  last := s.last
  directory := s.machine.directory?.map fun path => Label.directory (Path.text path)
  failure := failure
  finding := finding

def ending (m : Machine) : StepResult :=
  .ended (Label.shown m m.output) (Label.shown m m.errors)

/-- Runs steps; after the last one the shell is told to leave. A step that is `live` has the
child signal unblocked. -/
def runSteps (host : Host) (s : Shell) : List (Step × Bool) → Transcript
  | [] =>
    match (renewStreams s).exit none with
    | .running s => ⟨[], 0, s.machine⟩
    | .left code m => ⟨[ending m], code, m⟩
  | (step, live) :: rest =>
    let s := renewStreams s
    let launched := s.machine.launched.length
    let s := if live then onKernel s fun k => k.setChildBlocked false else s
    match perform host s step with
    | (.left code m, _, _) => ⟨[ending m], code, m⟩
    | (.running s, failure, finding) =>
      let s := if live then onKernel s fun k => k.setChildBlocked true else s
      let transcript := runSteps host s rest
      let later := keptErrors transcript.machine (s.machine.launched.drop launched)
      { transcript with
        results := .going (report s later failure finding) :: transcript.results }

def start (setup : SessionSetup) (config : Config) : Shell where
  config := config
  machine :=
    { setup.machine with kernel := {
        signals := SignalSetup.forShell { mask := SignalSet.insert {} Signal.child } } }

def run (setup : SessionSetup) (config : Config) (steps : List (Step × Bool)) : Transcript :=
  runSteps Userland.host (start setup config) steps

end Session

end JobShell
