import JobShell.Userland.Script.Command
import JobShell.Userland.Script.Parser
import JobShell.Userland.Script.Start
import JobShell.Userland.Script.Trap

/-!
# Running statements

What the statements of a script do (`runStatement`). Each goes on with what follows it, so that
a script can sleep wherever a program that it has started sleeps, and go on in what it then
finds.
-/

namespace JobShell

namespace Userland

namespace Script

/-- The greatest number of turns of a loop; a script that goes on longer is not seen to end. -/
def maxTurns : Nat := 10000

/-! ## Loops, functions and commands that change the course -/

def loopTurns (ends : Bool) (condition body : Frame → Action) (f : Frame) :
    Nat → Nat → State → (State → Course) → Course
  | 0, _, s, _ => s.process.pause endless fun p => f.leave { s with process := p } 0
  | turns + 1, last, s, next =>
    let again (s : State) : Course := loopTurns ends condition body f turns s.status s next
    let inner := { f with loops := (next, again) :: f.loops }
    condition { inner with tested := true } s fun s =>
      if (s.status = 0) = !ends then body inner s again
      else next (s.withStatus last)

def eachTurn (parameter : String) (body : Frame → Action) (f : Frame) : List String → Action
  | [], s, next => next s
  | word :: rest, s, next =>
    let again (s : State) : Course := eachTurn parameter body f rest s next
    body { f with loops := (next, again) :: f.loops } (s.assign parameter word) again

def callFunction (g : Setting) (f : Frame) (body : Statement) (words : List String) : Action :=
  fun s next =>
    let back (inner : State) : Course :=
      let restored := inner.saved.foldr (fun (name, v) s =>
        let s := s.forget name
        match v with
        | some v => { s with bindings := v :: s.bindings }
        | none => s) inner
      next { restored with
        parameters := s.parameters, saved := s.saved, inFunction := s.inFunction }
    g.call { f with loops := [], back := some back } body
      { s with parameters := words, saved := [], inFunction := true } back

/-- The number that an argument gives, or the complaint that it gives none. -/
def countOf (usual : Nat) : List String → Except String Nat
  | [] => .ok usual
  | word :: _ =>
    match argumentNumber? word with
    | some n => .ok n
    | none => .error ("Illegal number: " ++ word)

def includeFile (g : Setting) (f : Frame) (name : String) : Action := fun s next =>
  let p := s.process
  let text? : Except String String :=
    if name.contains '/' then
      match p.readFile name with
      | .ok bytes => .ok (Text.decodeLossy bytes)
      | .error e => .error (openFault false name e)
    else
      match s.places.findSome? fun place => (p.readFile (place ++ "/" ++ name)).toOption with
      | some bytes => .ok (Text.decodeLossy bytes)
      | none => .error (name ++ ": not found")
  match text? with
  | .error text => f.fail s (".: " ++ text)
  | .ok text => g.evaluate { f with back := some next } text (s.withStatus 0) next

/-- Commands that change the course of the script or start something. -/
def controlCommand? (g : Setting) (f : Frame) (name : String) (words : List String) :
    Option Action :=
  let counted (usual : Nat) (act : Nat → Action) : Action := fun s next =>
    match countOf usual words with
    | .ok n => act n s next
    | .error text => f.fail s (name ++ ": " ++ text)
  match name with
  | "exit" => some fun s next =>
    counted s.status (fun n s _ =>
      f.leave (s.withStatus (n % 256)) (Termination.exitStatus (n % 256))) s next
  | "return" => some fun s next =>
    counted s.status (fun n s _ =>
      match f.back with
      | some back => back (s.withStatus n)
      | none => f.leave (s.withStatus (n % 256)) (Termination.exitStatus (n % 256))) s next
  | "break" => some (counted 1 fun n s next =>
    match f.loops[min n f.loops.length - 1]? with
    | some (behind, _) => behind (s.withStatus 0)
    | none => next (s.withStatus 0))
  | "continue" => some (counted 1 fun n s next =>
    match f.loops[min n f.loops.length - 1]? with
    | some (_, again) => again (s.withStatus 0)
    | none => next (s.withStatus 0))
  | "eval" => some fun s next => g.evaluate f (spaced words) (s.withStatus 0) next
  | "." => some fun s next =>
    match words with
    | [] => next (s.withStatus 0)
    | file :: _ => includeFile g f file s next
  | "trap" => some fun s next => next (trap words s)
  | "kill" => some (kill g f words)
  | "wait" => some (waitCommand words)
  | _ => none

/-! ## Simple commands -/

/-- Gives variables their values for the time of a command, or for good. -/
def assignAll (s : State) (exporting : Bool) (values : List (String × String)) : State :=
  values.foldl (fun s (name, value) =>
    let s := s.assign name value
    if exporting then s.exportName name else s) s

/-- Fills in the values of assignments and assigns them one after the other. -/
def expandAssignments (g : Setting) (f : Frame) (s : State)
    (next : List (String × String) → State → Course) : List (String × Word) → Course
  | [] => next [] s
  | (name, w) :: rest =>
    expandText g f s w fun value s =>
      if s.fixed.contains name then f.fail s (name ++ ": is read only")
      else
        expandAssignments g f (s.assign name value)
          (fun values s => next ((name, value) :: values) s) rest

/-- The end of a command: a failure that nobody looks at may end the script, and signals that
have come in the meantime are dealt with. -/
def finishCommand (g : Setting) (f : Frame) : Action := fun s next =>
  settle g f s fun s =>
    if s.failsFast ∧ s.status ≠ 0 ∧ !f.tested then
      f.leave s (Termination.exitStatus s.status)
    else next s

/-- The state with no traps left but those of ignored signals. -/
def withoutTraps (s : State) : State :=
  (s.traps.filter fun t => !t.2.isEmpty).foldl (fun s t => s.arrange t.1 none) s

/-- Replaces the script by a program, or keeps its connections for good. -/
def replace (g : Setting) (f : Frame) (words : List String) : Action := fun s next =>
  match words with
  | [] => next (s.withStatus 0)
  | words => startProgram g "exec: " words (withoutTraps s) f.leave

/-- Runs a command that is not `exec`. -/
def runCommand (g : Setting) (f : Frame) (useFunctions : Bool) (name : String)
    (words : List String) : Action := fun s next =>
  let special := specialNames.contains name
  let function? := if special ∨ !useFunctions then none else s.functions.find? fun d => d.1 == name
  match function?, plainCommand? name, controlCommand? g f name words with
  | some (_, body), _, _ => callFunction g f body words s next
  | none, some run, _ =>
    match run words s with
    | .ok s =>
      if s.process.refused.isSome then
        let s := s.mapProcess fun p => { p with refused := none }
        next ((s.warn (name ++ ": " ++ name ++ ": I/O error")).withStatus 1)
      else next s
    | .error text =>
      if special then f.fail s (name ++ ": " ++ text)
      else next ((s.warn (name ++ ": " ++ text)).withStatus 2)
  | none, none, some act => act s next
  | none, none, none => startProgram g "" (name :: words) s fun s _ => next s

/-- Where a command named by another one is found. -/
def describe (s : State) (name : String) : Option String :=
  let own := ["exit", "return", "break", "continue", "eval", ".", "trap", "kill", "wait", "exec",
    "command"]
  if own.contains name ∨ (plainCommand? name).isSome ∨ s.functions.any fun d => d.1 == name then
    some name
  else if name.contains '/' then
    match s.process.files.executable s.process.execution.directory name with
    | .ok _ => some name
    | .error _ => none
  else
    (s.places.map fun place => place ++ "/" ++ name).find? fun path =>
      (s.process.files.executable s.process.execution.directory path).toOption.isSome

def runWords (g : Setting) (f : Frame) : List String → Action
  | [], s, next => next s
  | ["command"], s, next => next (s.withStatus 0)
  | "command" :: "-v" :: name :: _, s, next =>
    match describe s name with
    | some text => next ((s.mapProcess fun p => p.print (text ++ "\n")).withStatus 0)
    | none => next (s.withStatus 127)
  | "command" :: name :: words, s, next => runCommand g f false name words s next
  | "exec" :: words, s, next => replace g f words s next
  | name :: words, s, next => runCommand g f true name words s next

/-- Runs a simple command: its words are filled in, then its redirections and its
assignments. -/
def runSimple (g : Setting) (line : Nat) (assignments : List (String × Word)) (words : List Word)
    (redirects : List Redirect) (f : Frame) : Action := fun s next =>
  expandWords g f { s with line, captured := none } (fun words s =>
    expandRedirects g f s (fun connections s =>
      let descriptors := s.process.descriptors
      let name := words.headD ""
      let special := words.isEmpty ∨ specialNames.contains name
      let keeps := special ∧ !words.isEmpty
      match connectAll s.process connections with
      | .error text =>
        if (keeps ∨ "Syntax".toList.isPrefixOf text.toList) then f.fail s text
        else finishCommand g f ((s.warn text).withStatus 2) next
      | .ok p =>
        let before := s.bindings
        expandAssignments g f { s with process := p } (fun values s =>
          let finish (s : State) : Course :=
            let s := if name = "exec" then s else reconnect s descriptors
            let bindings := if special then s.bindings else restored before values s.bindings
            finishCommand g f { s with bindings } next
          match words with
          | [] => finish (s.withStatus (s.captured.getD 0))
          | words =>
            let s := if special then s else assignAll s true values
            runWords g f words { s with line } finish) assignments) redirects) words
where
  /-- The variables with those that were assigned to as they were before. -/
  restored (before : List Variable) (values : List (String × String)) (now : List Variable) :
      List Variable :=
    values.foldl (fun now (name, _) =>
      let others := now.filter fun v => v.name != name
      match before.find? fun v => v.name == name with
      | some v => v :: others
      | none => others) now

/-! ## Statements -/

/-- The first arm of a choice with a pattern that the subject matches. -/
def chooseArm (g : Setting) (f : Frame) (subject : String) :
    List Word → State → (Bool → State → Course) → Course
  | [], s, next => next false s
  | w :: ws, s, next =>
    expandPattern g f s w fun pattern s =>
      if isMatch pattern subject.toList then next true s
      else chooseArm g f subject ws s next

def runConnected (g : Setting) (line : Nat) (redirects : List Redirect) (run : Frame → Action)
    (f : Frame) : Action := fun s next =>
  expandRedirects g f { s with line } (fun connections s =>
    let descriptors := s.process.descriptors
    match connectAll s.process connections with
    | .error text => finishCommand g f ((s.warn text).withStatus 2) next
    | .ok p =>
      let behind (act : State → Course) : State → Course := fun s => act (reconnect s descriptors)
      let inner := { f with
        loops := f.loops.map fun (behindLoop, again) => (behind behindLoop, behind again)
        back := f.back.map behind }
      run inner { s with process := p } (behind next)) redirects

/-- Runs the parts of a pipeline, the first one to its end before the second one starts. -/
def runPipeline (g : Setting) (first second : Frame → Action) : Action := fun s next =>
  let (d, p) := s.process.opening (.pipe [])
  runBeside g { s with process := p.connect 1 d } first fun inner _ =>
    let s := s.after inner.process
    let input := { s with process := s.process.connect 0 d }
    runBeside g input second fun inner status =>
      next ((s.after inner.process).withStatus (State.codeOf status))

mutual

def runStatement (g : Setting) : Statement → Frame → Action
  | .simple line assignments words redirects, f =>
    runSimple g line assignments words redirects f
  | .both first second, f => fun s next =>
    runStatement g first { f with tested := true } s fun s =>
      if s.status = 0 then runStatement g second f s next else next s
  | .either first second, f => fun s next =>
    runStatement g first { f with tested := true } s fun s =>
      if s.status = 0 then next s else runStatement g second f s next
  | .negated inner, f => fun s next =>
    runStatement g inner { f with tested := true } s fun s =>
      next (s.withStatus (if s.status = 0 then 1 else 0))
  | .pipeline first second, f => fun s next =>
    runPipeline g (fun f => runStatement g first f) (fun f => runStatement g second f) s
      (finishCommand g f · next)
  | .background inner, _ => startBackground g fun f => runStatement g inner f
  | .group body, f => runList g body f
  | .subshell body, f => fun s next =>
    runBeside g s (fun inner => runList g body { inner with tested := f.tested })
      fun inner status =>
        finishCommand g f ((s.after inner.process).withStatus (State.codeOf status)) next
  | .branch condition body otherwise, f => fun s next =>
    runList g condition { f with tested := true } s fun s =>
      if s.status = 0 then runList g body f s next
      else runList g otherwise f (if otherwise.isEmpty then s.withStatus 0 else s) next
  | .loop ends condition body, f =>
    loopTurns ends (fun f => runList g condition f) (fun f => runList g body f) f maxTurns 0
  | .each line parameter items body, f => fun s next =>
    let turns (words : List String) (s : State) : Course :=
      eachTurn parameter (fun f => runList g body f) f words (s.withStatus 0) next
    match items with
    | none => turns s.parameters s
    | some items => expandWords g f { s with line } turns items
  | .choice line subject arms, f => fun s next =>
    expandText g f { s with line } subject fun subject s => runArms g subject arms f s next
  | .define name body, _ => fun s next =>
    next ({ s with
      functions := (name, body) :: s.functions.filter fun d => d.1 != name }.withStatus 0)
  | .redirected line inner redirects, f =>
    runConnected g line redirects (fun f => runStatement g inner f) f

def runList (g : Setting) : List Statement → Frame → Action
  | [], _ => fun s next => next s
  | statement :: rest, f => fun s next =>
    runStatement g statement f s fun s => runList g rest f s next

/-- Runs the first arm that fits the subject of a choice. -/
def runArms (g : Setting) (subject : String) :
    List (List Word × List Statement) → Frame → Action
  | [], _ => fun s next => next (s.withStatus 0)
  | (patterns, body) :: rest, f => fun s next =>
    chooseArm g f subject patterns s fun fits s =>
      if fits then runList g body f (s.withStatus 0) next
      else runArms g subject rest f s next

end

end Script

end Userland

end JobShell
