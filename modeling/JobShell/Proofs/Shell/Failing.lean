import JobShell.Proofs.Command.Settled
import JobShell.Proofs.Kernel.Move
import JobShell.Proofs.Shell.Going

/-!
# Lines that fail

A line can fail when it is parsed, when `cd` finds that a directory cannot be entered, and when
a command is turned into texts for the system. `Shell.FailsAs` lists these cases with what is
reported afterwards. Each of them is found before anything is done: one line goes to standard
error and the rest is as it was (`Shell.failing_line_only_complains`), and the loop goes on from
there.

That it is one line rests on words: neither a word of a line nor a word into which a pid was put
holds a line feed.
-/

namespace JobShell

section Messages

theorem Errno.lineFeed_notMem_message (e : Errno) : '\n' ∉ e.message.toList := by
  cases e <;> decide

theorem Text.IsWord.lineFeed_notMem {word : String} (h : Text.IsWord word) :
    '\n' ∉ word.toList := by
  intro hmem
  exact absurd (h.unbroken '\n' hmem) (by decide)

open Text (notMem_append)

theorem lineFeed_notMem_parseError (e : Command.ParseError) :
    '\n' ∉ e.failure.message.toList := by
  cases e with
  | emptyCommand => decide
  | missingTarget side => cases side <;> decide

/-- The causes for which a line fails, each told in one line. -/
theorem lineFeed_notMem_nulByte (position : Nat) :
    '\n' ∉ (Cause.nulByte position).message.toList :=
  notMem_append (by decide) (Text.lineFeed_notMem_toString position)

end Messages

section Texts

/-- A text that the system cannot be given. -/
def Text.HoldsNul (text : String) : Prop :=
  '\x00' ∈ text.toList

instance : DecidablePred Text.HoldsNul := fun text =>
  inferInstanceAs (Decidable ('\x00' ∈ text.toList))

/-- Some text of the command cannot be given to the system. -/
def Command.HoldsNul (c : Command) : Prop :=
  Text.HoldsNul c.program ∨ (∃ argument ∈ c.arguments, Text.HoldsNul argument) ∨
    (∃ path, c.input = some path ∧ Text.HoldsNul path) ∨
    ∃ path, c.output = some path ∧ Text.HoldsNul path

/-- The image of a command whose texts can all be given to the system. Only in the background
does a side without a target lead away from the descriptor of the shell. -/
def Command.image (c : Command) (background : Bool) : ChildImage where
  program := c.program
  arguments := c.program :: c.arguments
  input := c.input.or (if background then some ChildImage.nullDevice else none)
  output := c.output.or (if background then some ChildImage.nullDevice else none)
  background := background

namespace ChildImage

variable {program : String}

/-- The answer for a text that holds a NUL byte. -/
def RefusesNul {α : Type} (program : String) (answer : Except Failure α) : Prop :=
  ∃ position, answer = .error (.because (.launch program) (.nulByte position))

theorem nulPosition?_eq_none {cs : List Char} : nulPosition? cs = none ↔ '\x00' ∉ cs := by
  induction cs with
  | nil => simp [nulPosition?]
  | cons c cs ih =>
      rw [nulPosition?]
      split
      · next hnul => simp [hnul]
      · next hother => simp [ih, Ne.symm hother]

theorem systemText_cases (program text : String) :
    (¬ Text.HoldsNul text ∧ systemText program text = .ok text) ∨
      (Text.HoldsNul text ∧ RefusesNul program (systemText program text)) := by
  rw [systemText]
  cases hposition : nulPosition? text.toList with
  | none => exact Or.inl ⟨nulPosition?_eq_none.1 hposition, rfl⟩
  | some position =>
      refine Or.inr ⟨?_, position, rfl⟩
      by_contra hnone
      rw [nulPosition?_eq_none.2 hnone] at hposition
      cases hposition

theorem mapM_systemText_cases (program : String) (texts : List String) :
    ((∀ text ∈ texts, ¬ Text.HoldsNul text) ∧ texts.mapM (systemText program) = .ok texts) ∨
      ((∃ text ∈ texts, Text.HoldsNul text) ∧
        RefusesNul program (texts.mapM (systemText program))) := by
  induction texts with
  | nil => exact Or.inl ⟨by simp, rfl⟩
  | cons text texts ih =>
      rw [List.mapM_cons]
      obtain ⟨hnone, hok⟩ | ⟨hnul, position, herror⟩ := systemText_cases program text
      · rw [hok]
        obtain ⟨hrest, hoks⟩ | ⟨⟨other, hmem, hnul⟩, position, herror⟩ := ih
        · rw [hoks]
          exact Or.inl ⟨by simpa [hnone] using hrest, rfl⟩
        · rw [herror]
          exact Or.inr ⟨⟨other, List.mem_cons_of_mem _ hmem, hnul⟩, position, rfl⟩
      · rw [herror]
        exact Or.inr ⟨⟨text, List.mem_cons_self, hnul⟩, position, rfl⟩

theorem target_cases (program : String) (background : Bool) (side : Option String) :
    ((¬ ∃ path, side = some path ∧ Text.HoldsNul path) ∧
        target program background side =
          .ok (side.or (if background then some nullDevice else none))) ∨
      ((∃ path, side = some path ∧ Text.HoldsNul path) ∧
        RefusesNul program (target program background side)) := by
  cases side with
  | none => exact Or.inl ⟨by simp, rfl⟩
  | some path =>
      rw [target]
      obtain ⟨hnone, hok⟩ | ⟨hnul, position, herror⟩ := systemText_cases program path
      · rw [hok]
        exact Or.inl ⟨by simpa using hnone, rfl⟩
      · rw [herror]
        exact Or.inr ⟨⟨path, rfl, hnul⟩, position, rfl⟩

/-- There is an image of a command if and only if no NUL byte stands in it. -/
theorem ofCommand_cases (c : Command) (background : Bool) :
    (¬ c.HoldsNul ∧ ofCommand c background = .ok (c.image background)) ∨
      (c.HoldsNul ∧ RefusesNul c.program (ofCommand c background)) := by
  rw [ofCommand]
  obtain ⟨hprogram, hok⟩ | ⟨hnul, position, herror⟩ := systemText_cases c.program c.program
  · rw [hok]
    obtain ⟨harguments, hoks⟩ | ⟨hnul, position, herror⟩ :=
      mapM_systemText_cases c.program c.arguments
    · obtain ⟨hinput, hin⟩ | ⟨hnul, position, herror⟩ :=
        target_cases c.program background c.input
      · obtain ⟨houtput, hout⟩ | ⟨hnul, position, herror⟩ :=
          target_cases c.program background c.output
        · refine Or.inl ⟨?_, by simp only [hoks, hin, hout]; rfl⟩
          rintro (hnul | ⟨argument, hmem, hnul⟩ | hnul | hnul)
          · exact hprogram hnul
          · exact harguments argument hmem hnul
          · exact hinput hnul
          · exact houtput hnul
        · exact Or.inr ⟨.inr (.inr (.inr hnul)), position, by
            simp only [hoks, hin, herror]; rfl⟩
      · exact Or.inr ⟨.inr (.inr (.inl hnul)), position, by simp only [hoks, herror]; rfl⟩
    · exact Or.inr ⟨.inr (.inl hnul), position, by simp only [herror]; rfl⟩
  · exact Or.inr ⟨.inl hnul, position, by simp only [herror]; rfl⟩

end ChildImage

end Texts

namespace Kernel

/-- All children of a kernel were children of the other one. -/
def NoneNew (k k' : Kernel) : Prop :=
  ∀ c ∈ k'.children, ∃ c' ∈ k.children, c'.pid = c.pid

variable {k k' k'' : Kernel}

theorem NoneNew.of_subset (h : ∀ c ∈ k'.children, c ∈ k.children) : k.NoneNew k' :=
  fun c hc => ⟨c, h c hc, rfl⟩

theorem NoneNew.trans (first : k.NoneNew k') (second : k'.NoneNew k'') : k.NoneNew k'' := by
  intro c hc
  obtain ⟨c', hc', hpid'⟩ := second c hc
  obtain ⟨c'', hc'', hpid''⟩ := first c' hc'
  exact ⟨c'', hc'', hpid''.trans hpid'⟩

theorem noneNew_raiseChild (k : Kernel) : k.NoneNew k.raiseChild := by
  rw [raiseChild]
  split
  · exact .of_subset fun c hc => hc
  · rw [deliverChild]
    split
    · exact .of_subset fun c hc => mem_dropEnded hc
    · exact .of_subset fun c hc => hc

theorem noneNew_endChild (k : Kernel) (pid : Pid) (status : StatusWord) :
    k.NoneNew (k.endChild pid status) := by
  rw [endChild]
  split
  · exact .of_subset fun c hc => hc
  · split
    · exact .of_subset fun c hc => (List.mem_filter.1 hc).1
    · have hmarked : k.NoneNew { k with children := markEnded pid status k.children } := by
        intro c hc
        obtain ⟨c', hc', rfl⟩ := List.mem_map.1 hc
        refine ⟨c', hc', ?_⟩
        split <;> rfl
      exact hmarked.trans (noneNew_raiseChild _)

end Kernel

namespace Machine

/-- What arrives at a pause changes the kernel only, and starts no child. -/
theorem pause_eq (m : Machine) :
    ∃ kernel arrivals, m.kernel.NoneNew kernel ∧
      m.pause = { m with kernel, outside := { m.outside with arrivals } } := by
  have hevents (events : List Arrival) (m : Machine) :
      ∃ kernel, m.kernel.NoneNew kernel ∧ events.foldl receive m = { m with kernel } := by
    induction events generalizing m with
    | nil => exact ⟨m.kernel, .of_subset fun c hc => hc, rfl⟩
    | cons a events ih =>
        have hfirst : m.kernel.NoneNew (m.receive a).kernel ∧
            m.receive a = { m with kernel := (m.receive a).kernel } := by
          cases a with
          | childEnds pid status => exact ⟨m.kernel.noneNew_endChild pid status, rfl⟩
          | stop =>
              refine ⟨.of_subset fun c hc => ?_, rfl⟩
              change c ∈ m.kernel.stop.children at hc
              rw [Kernel.stop] at hc
              split at hc <;> exact hc
          | childSignal => exact ⟨m.kernel.noneNew_raiseChild, rfl⟩
        obtain ⟨hnone, hreceive⟩ := hfirst
        obtain ⟨kernel, hrest, heq⟩ := ih (m.receive a)
        refine ⟨kernel, hnone.trans hrest, ?_⟩
        rw [List.foldl_cons, heq, hreceive]
  rw [pause]
  split
  · exact ⟨m.kernel, m.outside.arrivals, .of_subset fun c hc => hc, rfl⟩
  · next events later _ =>
      obtain ⟨kernel, hnone, heq⟩ :=
        hevents events { m with outside := { m.outside with arrivals := later } }
      exact ⟨kernel, later, hnone, heq⟩

end Machine

namespace Shell

/-- `cd` with this argument leads nowhere: the argument is relative and the current directory is
gone, or the path that it gives is no text for the system, or the system refuses to enter it. -/
def CannotEnter (s : Shell) (argument : String) : Prop :=
  (Path.isAbsolute argument = false ∧ s.machine.files.isDirectory s.machine.directory = false) ∨
    Text.HoldsNul (Path.join s.machine.directory argument) ∨
    ∃ e, s.machine.files.enterDirectory s.machine.directory
      (Path.join s.machine.directory argument) = .error e

/-- How a line fails, and what is reported afterwards. -/
inductive FailsAs (s : Shell) (line : String) : Option Termination → Prop where
  | unparsed {e : Command.ParseError} (hparse : Command.parse line = .error e) :
      FailsAs s line s.last
  | notEntered {c : Command} {argument : String} {rest : List String}
      (hparse : Command.parse line = .ok c) (hprogram : (c.expand s.pidText).program = "cd")
      (harguments : (c.expand s.pidText).arguments = argument :: rest)
      (henter : s.CannotEnter argument) : FailsAs s line s.last
  | unlaunchable {c : Command} (hparse : Command.parse line = .ok c)
      (hprogram : Builtin.named? (c.expand s.pidText).program = none)
      (hnul : (c.expand s.pidText).HoldsNul) : FailsAs s line (some (.exited 1))

/-- Apart from what is reported, nothing has come of a line but one line of complaint. -/
structure OnlyComplained (s t : Shell) : Prop where
  jobs : t.jobs = s.jobs
  announced : t.announced = s.announced
  directory : t.machine.directory = s.machine.directory
  output : t.machine.output = s.machine.output
  errors : ∃ text, '\n' ∉ text.toList ∧
    t.machine.errors = s.machine.errors ++ Text.encode ("smallsh: " ++ text ++ "\n")
  forks : t.machine.outside.forks = s.machine.outside.forks
  lastPid : t.machine.lastPid = s.machine.lastPid
  children : s.machine.kernel.NoneNew t.machine.kernel

variable {host : Host} {s t : Shell} {line : String} {c : Command}

theorem onlyComplained_complain (s : Shell) {text : String} (h : '\n' ∉ text.toList) :
    s.OnlyComplained (s.complain text) :=
  ⟨rfl, rfl, rfl, rfl, ⟨text, h, rfl⟩, rfl, rfl, .of_subset fun _ hc => hc⟩

/-- The words of a command are words after the expansion as well. -/
theorem wellFormed_expand (s : Shell) (hparse : Command.parse line = .ok c) :
    (c.expand s.pidText).WellFormed :=
  (Command.WellFormed.of_parse hparse).expand (Text.isWord_toString _)
    (Text.toString_notMem_operators _)

theorem enterText_eq_error {context : Builtin.Context} {text : String} {cause : Cause}
    (h : Builtin.enterText context text = .error cause) :
    (Text.HoldsNul text ∨
        ∃ e, context.files.enterDirectory context.directory text = .error e) ∧
      '\n' ∉ cause.message.toList := by
  rw [Builtin.enterText] at h
  split at h
  · next hnul =>
      cases h
      exact ⟨Or.inl (List.contains_iff_mem.1 hnul), by decide⟩
  · split at h
    · cases h
    · next e hrefused =>
        cases h
        exact ⟨Or.inr ⟨e, hrefused⟩, Errno.lineFeed_notMem_message e⟩

theorem exists_enterText_error {context : Builtin.Context} {text : String}
    (h : Text.HoldsNul text ∨
      ∃ e, context.files.enterDirectory context.directory text = .error e) :
    ∃ cause, Builtin.enterText context text = .error cause := by
  rw [Builtin.enterText]
  split
  · exact ⟨_, rfl⟩
  · next hnul =>
      obtain hholds | ⟨e, hrefused⟩ := h
      · exact absurd (List.contains_iff_mem.2 hholds) hnul
      · rw [hrefused]
        exact ⟨_, rfl⟩

/-- `cd` fails exactly with the arguments that cannot be entered. -/
theorem cannotEnter_iff {argument : String} {rest : List String} :
    s.CannotEnter argument ↔
      ∃ f, Builtin.changeDirectory s.context (argument :: rest) = .error f := by
  constructor
  · intro h
    rw [Builtin.changeDirectory]
    split
    · exact ⟨_, rfl⟩
    · next hjoined =>
        have hentered : ∃ cause, Builtin.enterText s.context
            (Path.join s.machine.directory argument) = .error cause := by
          rcases h with ⟨habsolute, hgone⟩ | hrefused
          · refine absurd ?_ hjoined
            rw [habsolute]
            simpa [context] using hgone
          · exact exists_enterText_error hrefused
        obtain ⟨cause, hcause⟩ := hentered
        exact ⟨_, by rw [context] at hcause ⊢; rw [hcause]⟩
  · rintro ⟨f, h⟩
    rw [Builtin.changeDirectory] at h
    split at h
    · next hgone => exact Or.inl (by simpa [context] using hgone)
    · split at h
      · cases h
      · next cause hcause => exact Or.inr (enterText_eq_error hcause).1

/-- Whichever step `cd` fails at, it says so in one line. -/
theorem lineFeed_notMem_changeDirectory {context : Builtin.Context} {argument : String}
    {rest : List String} {f : Failure} (hfeed : '\n' ∉ argument.toList)
    (h : Builtin.changeDirectory context (argument :: rest) = .error f) :
    '\n' ∉ f.message.toList := by
  rw [Builtin.changeDirectory] at h
  split at h
  · cases h
    decide
  · split at h
    · cases h
    · next cause hcause =>
        cases h
        exact Text.notMem_append
          (Text.notMem_append (Text.notMem_append (by decide) hfeed)
            (by decide))
          (enterText_eq_error hcause).2

/-- A launch without an image does nothing but complain. -/
theorem launch_of_holdsNul (host : Host) (s : Shell) (line : String) (hnul : c.HoldsNul)
    (hfeed : '\n' ∉ c.program.toList) :
    ∃ text, '\n' ∉ text.toList ∧
      s.launch host line c = { s.complain text with last := some (.exited 1) } := by
  obtain ⟨hnone, -⟩ | ⟨-, position, hrefused⟩ :=
    ChildImage.ofCommand_cases c (c.background && !s.machine.kernel.mode.isForegroundOnly)
  · exact absurd hnul hnone
  refine ⟨(Failure.because (.launch c.program) (.nulByte position)).message, ?_, ?_⟩
  · exact Text.notMem_append
      (Text.notMem_append (Text.notMem_append hfeed (by decide)) (by decide))
      (lineFeed_notMem_nulByte position)
  · rw [launch, Machine.spawn, hrefused]

/-- A `cd` that fails. -/
theorem runBuiltin_cd {arguments : List String} {f : Failure}
    (h : Builtin.changeDirectory s.context arguments = .error f) :
    s.runBuiltin .cd arguments = .running (s.complain f.message) := by
  have hrun : Builtin.run .cd arguments s.context .healthy = (.failed f, .healthy) := by
    rw [Builtin.run, h]
  rw [context] at hrun
  rw [runBuiltin]
  simp only [hrun]
  rw [Sink.healthy, print_empty]

theorem executeLine_of_failsAs (host : Host) {last : Option Termination}
    (hline : isSkippable line = false) (h : s.FailsAs line last) :
    ∃ t, s.executeLine host line = .running t ∧ t.last = last ∧ s.OnlyComplained t := by
  rw [executeLine, hline, if_neg Bool.false_ne_true]
  cases h with
  | unparsed hparse =>
      rw [hparse]
      exact ⟨_, rfl, rfl, s.onlyComplained_complain (lineFeed_notMem_parseError _)⟩
  | notEntered hparse hprogram harguments henter =>
      have hwords := s.wellFormed_expand hparse
      have hfeed := (hwords.arguments _ (harguments ▸ List.mem_cons_self)).1.lineFeed_notMem
      obtain ⟨f, hfailed⟩ := cannotEnter_iff.1 henter
      refine ⟨s.complain f.message, ?_, rfl,
        s.onlyComplained_complain (lineFeed_notMem_changeDirectory hfeed hfailed)⟩
      rw [hparse]
      dsimp only [executeCommand]
      rw [hprogram, harguments]
      exact runBuiltin_cd hfailed
  | unlaunchable hparse hprogram hnul =>
      have hwords := s.wellFormed_expand hparse
      obtain ⟨text, hfeed, hlaunch⟩ :=
        launch_of_holdsNul host s.pause line hnul hwords.program.lineFeed_notMem
      refine ⟨{ s.pause.complain text with last := some (.exited 1) }, ?_, rfl, ?_⟩
      · rw [hparse]
        dsimp only [executeCommand]
        rw [hprogram, hlaunch]
      · obtain ⟨kernel, arrivals, hnone, hpause⟩ := s.machine.pause_eq
        have hpaused : s.pause = { s with machine :=
            { s.machine with kernel, outside := { s.machine.outside with arrivals } } } := by
          rw [pause, mapMachine, hpause]
        rw [hpaused]
        exact ⟨rfl, rfl, rfl, rfl, ⟨text, hfeed, rfl⟩, rfl, rfl, hnone⟩

section Loop

variable {next : LineSource} {machine : Machine}

/-- A line after which the shell goes on is one turn of the loop. -/
theorem executeLinesFrom_succ {r : Shell} {source : LineSource}
    (hread : source.readLine r.greet.config.prompt r.greet.machine =
      (.ok (some line), next, machine))
    (hline : Shell.executeLine host { r.greet with machine }.pause line = .running t)
    (turns : Nat) :
    executeLinesFrom host (turns + 1) r source = executeLinesFrom host turns t next := by
  rw [executeLinesFrom]
  simp only [hread, hline]
  rfl

end Loop

/-- **A line that fails leaves the interpreter as it was.** A line that cannot be parsed, and a
`cd` with an argument that cannot be entered, leave the job table, the last result, the working
directory, the count of announced toggles and standard output as they are; no child is forked,
and exactly one line goes to standard error. A command that is no builtin and holds a NUL byte
in its expanded program, an argument or a target does the same, and its failure counts as an
exit with 1. The loop goes on, and what comes after the line is what comes of the state that it
has left. -/
theorem failing_line_only_complains (host : Host) {s : Shell} {line : String}
    {last : Option Termination} (hline : isSkippable line = false) (h : s.FailsAs line last) :
    ∃ t, s.executeLine host line = .running t ∧ t.last = last ∧ s.OnlyComplained t ∧
      (∀ (r : Shell) (source next : LineSource) (machine : Machine) (turns : Nat),
        source.readLine r.greet.config.prompt r.greet.machine =
            (.ok (some line), next, machine) →
          Shell.pause { r.greet with machine } = s →
            executeLinesFrom host (turns + 1) r source = executeLinesFrom host turns t next) ∧
      ∀ (r : Shell) (rest : List String) (failure : Option Failure), r.greet.pause = s →
        r.executeLines host (.listed (line :: rest) failure) =
          t.executeLines host (.listed rest failure) := by
  obtain ⟨t, hrunning, hlast, honly⟩ := executeLine_of_failsAs host hline h
  refine ⟨t, hrunning, hlast, honly, fun r source next machine turns hread hr => ?_,
    fun r rest failure hr => ?_⟩
  · exact executeLinesFrom_succ hread (hr ▸ hrunning) turns
  · rw [executeLines_cons, hr, hrunning]
    rfl

/-- A redirection without a target, a directory that is not there, and an argument that holds a
NUL byte, which is found before the target of the redirection is opened. -/
theorem failing_line_only_complains_each : ∃ (host : Host) (s : Shell),
    (∃ t, s.executeLine host "p >" = .running t ∧ t.last = none ∧ s.OnlyComplained t) ∧
    (∃ t, s.executeLine host "cd /nowhere" = .running t ∧ t.last = none ∧ s.OnlyComplained t) ∧
    ∃ t, s.executeLine host "p a\x00 > q" = .running t ∧ t.last = some (.exited 1) ∧
      s.OnlyComplained t := by
  let host : Host :=
    { run _ around :=
        .ended ⟨around.files, around.ahead, [], [], [], []⟩ (Termination.exitStatus 0) }
  let s : Shell := { machine := { files := { entries := [([], .directory)] } } }
  have hunparsed : s.FailsAs "p >" none := .unparsed (e := .missingTarget .output) (by decide)
  have hnowhere : s.CannotEnter "/nowhere" := .inr (.inr ⟨.noEntry, by decide⟩)
  have hentered : s.FailsAs "cd /nowhere" none :=
    .notEntered (c := { program := "cd", arguments := ["/nowhere"] }) (by decide) (by decide)
      rfl hnowhere
  have hlaunched : s.FailsAs "p a\x00 > q" (some (.exited 1)) :=
    .unlaunchable (c := { program := "p", arguments := ["a\x00"], output := some "q" })
      (by decide) (by decide) (.inr (.inl ⟨"a\x00", by decide, by decide⟩))
  obtain ⟨t, hrunning, hlast, honly, -⟩ :=
    failing_line_only_complains host (by decide) hunparsed
  obtain ⟨t', hrunning', hlast', honly', -⟩ :=
    failing_line_only_complains host (by decide) hentered
  obtain ⟨t'', hrunning'', hlast'', honly'', -⟩ :=
    failing_line_only_complains host (by decide) hlaunched
  exact ⟨host, s, ⟨t, hrunning, hlast, honly⟩, ⟨t', hrunning', hlast', honly'⟩,
    t'', hrunning'', hlast'', honly''⟩

end Shell

end JobShell
