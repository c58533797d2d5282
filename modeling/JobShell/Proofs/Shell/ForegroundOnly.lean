import JobShell.Proofs.Machine.StopsFirst
import JobShell.Proofs.Shell.Failing
import JobShell.Proofs.Shell.Mode

/-!
# `&` in foreground-only mode

A command and its launch have a background flag each. In foreground-only mode the one of the
launch is down, and nothing else of the launch looks at the one of the command. So a command with
`&` comes to what it comes to without `&` (`Shell.executeCommand_flag`), whatever its child does
and wherever the launch fails.

What is started then is the image that the command itself describes: two hosts that run the
programs of such children alike are not told apart by a launch (`Machine.spawn_congr_host`).

A builtin is handed its arguments only. Neither the flag nor a redirection reaches it, and the
mode is left as it is by all that a builtin does (`Shell.runBuiltin_withMode`).
-/

namespace JobShell

open Machine (Launched)

namespace Kernel

variable (k : Kernel)

theorem raiseChange_mode (mode : ModeSwitch) :
    { k with mode }.raiseChange = { k.raiseChange with mode } := by
  rw [raiseChange, raiseChange]
  split
  · exact k.raiseChild_mode mode
  · rfl

theorem signalChild_mode (pid : Pid) (signal : Nat) (mode : ModeSwitch) :
    { k with mode }.signalChild pid signal = { k.signalChild pid signal with mode } := by
  rw [signalChild, signalChild]
  dsimp only
  cases k.children.find? fun c => c.pid == pid && c.isRunning with
  | none => rfl
  | some c =>
      dsimp only
      cases Signal.reaction signal (c.disposition signal) with
      | ends =>
          dsimp only
          split
          · rfl
          · exact k.endChild_mode pid _ mode
      | stops =>
          dsimp only
          split
          · rfl
          · exact raiseChange_mode (k.updateChild pid fun c => { c with stopped := true }) mode
      | resumes =>
          dsimp only
          split
          · rfl
          · -- a child that goes on can be ended by a signal that has waited for it
            have hchange :=
              raiseChange_mode (k.updateChild pid fun c => { c with stopped := false }) mode
            cases Signal.first? c.waiting with
            | none => exact hchange
            | some fatal =>
                exact (congrArg (fun k => endChild k pid _) hchange).trans
                  (endChild_mode _ pid _ mode)
      | handled => rfl
      | nothing => rfl

theorem kill_mode (denials : Denials) (pid : Pid) (signal : Nat) (mode : ModeSwitch) :
    ({ k with mode }.kill denials pid signal).2 =
      { (k.kill denials pid signal).2 with mode } := by
  have hholds : { k with mode }.holds pid = k.holds pid := rfl
  rw [kill, kill, hholds]
  split
  · rfl
  · cases denials.reason? pid with
    | some e => rfl
    | none => exact signalChild_mode { k with sent := k.sent ++ [(pid, signal)] } pid signal mode

end Kernel

/-- On leaving, the jobs are asked to terminate in every mode. -/
theorem JobTable.terminateAll_mode (t : JobTable) (k : Kernel) (denials : Denials)
    (mode : ModeSwitch) :
    (t.terminateAll { k with mode } denials).2 =
      { (t.terminateAll k denials).2 with mode } := by
  rw [terminateAll, terminateAll]
  dsimp only
  induction t.pids generalizing k with
  | nil => rfl
  | cons pid pids ih =>
      rw [List.foldl_cons, List.foldl_cons, terminate_eq, terminate_eq, k.kill_mode, ih]

/-- In the foreground the sides are those of the command, with a target or without. -/
theorem Command.image_foreground (c : Command) :
    c.image false =
      { program := c.program, arguments := c.program :: c.arguments, input := c.input,
        output := c.output, background := false } := by
  rw [image, if_neg Bool.false_ne_true, Option.or_none, Option.or_none]

namespace ChildImage

variable {image : ChildImage} {m : Machine} {files : FileSystem}

/-- A side without a target, and no other, is connected to what the shell has there. -/
theorem inherited_of_connectInput {input : Endpoint} (h : image.connectInput m = .ok input) :
    input = .inherited ↔ image.input = none := by
  rw [connectInput] at h
  split at h
  · next hnone =>
      cases h
      simp [hnone]
  · next text hsome =>
      split at h <;> cases h <;> simp [hsome]

theorem inherited_of_connectOutput {output : Endpoint}
    (h : image.connectOutput m = .ok (output, files)) :
    output = .inherited ↔ image.output = none := by
  rw [connectOutput] at h
  split at h
  · next hnone =>
      cases h
      simp [hnone]
  · next text hsome =>
      split at h <;> cases h
      simp [hsome]

/-- What a child finds when it sets itself up is not touched by a pause. -/
theorem setUp_pause (image : ChildImage) (m : Machine) (pid : Pid) (mask : SignalSet) :
    image.setUp m.pause pid mask = image.setUp m pid mask := by
  obtain ⟨kernel, arrivals, -, hpause⟩ := m.pause_eq
  rw [hpause]
  rfl

theorem setUp_fork (image : ChildImage) (m : Machine) (pid : Pid) (mask : SignalSet) :
    image.setUp m.fork.2 pid mask = image.setUp m pid mask := by
  rw [Machine.fork]
  split
  · rfl
  · rfl
  · dsimp only
    split <;> rfl

end ChildImage

namespace Machine

variable {host host' : Host} {m : Machine}

theorem foreground_of_spawn {c : Command} {launched : Launched}
    (h : (m.spawn host c false).1 = .ok launched) : ∃ found, launched = .foreground found := by
  obtain ⟨found, hfound, -⟩ := spawn_foreground h
  exact ⟨found, hfound⟩

/-- A host is asked for nothing but the program of a child that has set itself up. -/
theorem runChild_congr_host (m : Machine) (image : ChildImage) (pid : Pid) (mask : SignalSet)
    (h : ∀ e files, image.setUp m pid mask = (.starts e, files) →
      host.run e = host'.run e) :
    m.runChild host image pid mask = m.runChild host' image pid mask := by
  rw [runChild, runChild]
  split
  · rfl
  · next e files hsetUp =>
      rw [execute, execute, h e files hsetUp]

theorem spawn_congr_host {c : Command} {background : Bool}
    (h : ∀ e files, (c.image background).setUp m e.pid m.kernel.signals.mask =
      (.starts e, files) → host.run e = host'.run e) :
    m.spawn host c background = m.spawn host' c background := by
  rw [spawn_eq, spawn_eq]
  obtain ⟨-, himage⟩ | ⟨-, position, hrefused⟩ := ChildImage.ofCommand_cases c background
  · rw [himage]
    -- the child sets itself up on the files and in the directory from before the launch
    have hsetUp (pid : Pid) (mask : SignalSet) :
        (c.image background).setUp m.beforeFork.fork.2 pid mask =
          (c.image background).setUp m pid mask := by
      rw [ChildImage.setUp_fork, beforeFork, ChildImage.setUp_pause]
      rfl
    dsimp only
    rw [← beforeFork, launchImage, launchImage]
    generalize m.beforeFork.fork = forked at hsetUp ⊢
    obtain ⟨answer, m'⟩ := forked
    cases answer with
    | error e => rfl
    | ok pid =>
        have hrun := m'.runChild_congr_host (c.image background) pid
          m.kernel.signals.mask fun e files hstarts => by
            obtain rfl := pid_of_setUp hstarts
            exact h e files (hsetUp _ _ ▸ hstarts)
        dsimp only
        rw [hrun]
  · rw [hrefused]

end Machine

/-- The shell in another mode. -/
def Shell.withMode (s : Shell) (mode : ModeSwitch) : Shell :=
  s.mapMachine fun m => m.mapKernel fun k => { k with mode }

/-- The action has left the mode in this state. -/
def Progress.withMode (mode : ModeSwitch) : Progress → Progress
  | running s => running (s.withMode mode)
  | left code m => left code (m.mapKernel fun k => { k with mode })

namespace Shell

variable {host host' : Host} {s : Shell} {c : Command}

section Builtins

variable (s : Shell) (mode : ModeSwitch)

theorem exit_withMode (code : Option Int) :
    (s.withMode mode).exit code = (s.exit code).withMode mode := by
  have hleave (s : Shell) :
      Progress.left (exitStatus (code.getD 0))
          { (s.withMode mode).machine with
            kernel := (s.jobs.terminateAll (s.withMode mode).machine.kernel
              s.machine.outside.denials).2 } =
        (Progress.left (exitStatus (code.getD 0))
          { s.machine with
            kernel := (s.jobs.terminateAll s.machine.kernel
              s.machine.outside.denials).2 }).withMode mode :=
    congrArg (fun kernel => Progress.left (exitStatus (code.getD 0)) { s.machine with kernel })
      (s.jobs.terminateAll_mode s.machine.kernel s.machine.outside.denials mode)
  have hconfig : (s.withMode mode).config = s.config := rfl
  rw [exit, exit, hconfig]
  dsimp only
  split
  · exact hleave (s.print "exit\n")
  · exact hleave s

theorem runBuiltin_withMode (b : Builtin) (arguments : List String) :
    (s.withMode mode).runBuiltin b arguments = (s.runBuiltin b arguments).withMode mode := by
  have hcontext : (s.withMode mode).context = s.context := rfl
  rw [context, context] at hcontext
  rw [runBuiltin, runBuiltin, hcontext]
  dsimp only
  generalize b.run arguments _ .healthy = answered
  obtain ⟨answer, sink⟩ := answered
  cases answer with
  | done directory => rfl
  | failed f => rfl
  | leave code complaint =>
      cases complaint with
      | none => exact (s.print sink.text).exit_withMode mode code
      | some complaint => exact ((s.print sink.text).complain complaint).exit_withMode mode code

end Builtins

section Launch

/-- A launch of the command in the foreground can come to this execution: the child connects the
sides for which the command itself names targets, and its program is found. -/
def StartsInForeground (s : Shell) (c : Command) (e : Execution) : Prop :=
  ∃ files, (c.image false).setUp s.machine e.pid s.machine.kernel.signals.mask =
    (.starts e, files)

theorem StartsInForeground.execution {e : Execution} (h : s.StartsInForeground c e) :
    e.arguments = c.program :: c.arguments ∧ (e.input = .inherited ↔ c.input = none) ∧
      (e.output = .inherited ↔ c.output = none) ∧
      e.signals = .forChild true s.machine.kernel.signals.mask := by
  obtain ⟨files, hsetUp⟩ := h
  obtain ⟨utility, input, output, hinput, houtput, he⟩ := ChildImage.starts_of_setUp hsetUp
  have hin := ChildImage.inherited_of_connectInput hinput
  have hout := ChildImage.inherited_of_connectOutput houtput
  rw [c.image_foreground] at hin hout
  rw [he, c.image_foreground]
  exact ⟨rfl, hin, hout, rfl⟩

/-- What a launch in the foreground comes to. A child that is killed is told of, and an end that
was not observed leaves the last result as it is. -/
def launchForeground (host : Host) (s : Shell) (c : Command) : Shell :=
  match s.machine.spawn host c false with
  | (.error f, machine) =>
    { { s with machine }.complain f.message with last := some (.exited 1) }
  | (.ok launched, machine) =>
    match launched.observed with
    | none => { s with machine }
    | some (.exited code) => { s with machine, last := some (.exited code) }
    | some (.signaled signal) =>
      { s with machine, last := some (.signaled signal) }.print
        ((Termination.signaled signal).message ++ "\n")

theorem jobs_launchForeground (host : Host) (s : Shell) (c : Command) :
    (s.launchForeground host c).jobs = s.jobs := by
  rw [launchForeground]
  split
  · rfl
  · split <;> rfl

/-- The line is kept for a job only, and the flag of the command is not looked at. -/
theorem launch_of_foregroundOnly (host : Host) (s : Shell) (line : String) (c : Command)
    (hmode : s.machine.kernel.mode.isForegroundOnly = true) :
    s.launch host line c = s.launchForeground host c := by
  have hforeground (launched : Launched)
      (h : (s.machine.spawn host c false).1 = .ok launched) :
      ∃ found, launched = .foreground found := Machine.foreground_of_spawn h
  rw [launch, hmode, Bool.not_true, Bool.and_false, launchForeground]
  dsimp only
  generalize s.machine.spawn host c false = answered at hforeground ⊢
  obtain ⟨answer, m⟩ := answered
  cases answer with
  | error f => rfl
  | ok launched =>
      obtain ⟨found, rfl⟩ := hforeground launched rfl
      cases found with
      | none => rfl
      | some t => cases t <;> rfl

theorem launchForeground_congr_host
    (h : ∀ e, s.StartsInForeground c e → host.run e = host'.run e) :
    s.launchForeground host c = s.launchForeground host' c := by
  have hspawn : s.machine.spawn host c false = s.machine.spawn host' c false :=
    Machine.spawn_congr_host fun e files hsetUp => h e ⟨files, hsetUp⟩
  rw [launchForeground, launchForeground, hspawn]

/-- Nothing that arrives at a pause touches the mode, except terminal stops. -/
theorem mode_pause (hstop : .stop ∉ s.machine.outside.arrivals.headD []) :
    s.pause.machine.kernel.mode = s.machine.kernel.mode := by
  have hmode := Machine.mode_foldl_receive hstop s.machine
  exact (congrArg (fun m => m.kernel.mode) s.machine.pause_eq_awaiting).trans hmode

theorem isForegroundOnly_of_odd (hodd : Odd s.machine.kernel.mode.toggles.toNat) :
    s.machine.kernel.mode.isForegroundOnly = true :=
  s.machine.kernel.mode.isForegroundOnly_iff.2 (Nat.odd_iff.1 hodd)

/-- What a command comes to in foreground-only mode. The line and the flag are gone. -/
theorem executeCommand_of_foregroundOnly
    (hodd : Odd s.pause.machine.kernel.mode.toggles.toNat) (line : String) :
    s.executeCommand host line c =
      match Builtin.named? (c.expand s.pidText).program with
      | some b => s.runBuiltin b (c.expand s.pidText).arguments
      | none => .running (s.pause.launchForeground host (c.expand s.pidText)) := by
  have hlaunch := s.pause.launch_of_foregroundOnly host line (c.expand s.pidText)
    (isForegroundOnly_of_odd hodd)
  rw [executeCommand]
  cases Builtin.named? (c.expand s.pidText).program with
  | some b => rfl
  | none => exact congrArg Progress.running hlaunch

/-- The flag of the command makes no difference to a builtin, and none to a launch in
foreground-only mode. -/
theorem executeCommand_flag (hodd : Odd s.pause.machine.kernel.mode.toggles.toNat)
    (line line' : String) (background background' : Bool) :
    s.executeCommand host line { c with background } =
      s.executeCommand host line' { c with background := background' } := by
  rw [executeCommand_of_foregroundOnly hodd, executeCommand_of_foregroundOnly hodd]
  rfl

end Launch

/-- A builtin is handed the arguments of its command, and nothing else of it. -/
theorem executeCommand_of_named {b : Builtin}
    (hnamed : Builtin.named? (c.expand s.pidText).program = some b) (host : Host)
    (line : String) :
    s.executeCommand host line c = s.runBuiltin b (c.expand s.pidText).arguments := by
  rw [executeCommand, hnamed]

/-- **In foreground-only mode `&` is ignored.** If the number of toggles is odd at the launch, a
command with `&` comes to what it comes to without `&`, from whichever line it was read: the same
is run, waited for, written and reported. Up to the launch only a terminal stop changes the
number. Of a host no more counts than what it runs for the image that the command itself
describes, with the descriptors of the shell wherever the command names no target and with the
signals of a foreground child; what is started is waited for as a launch in the foreground is,
and it is no job.

To a builtin neither the flag nor a redirection makes a difference, nor does the mode, which it
leaves as it is. -/
theorem ampersand_ignored_in_foregroundOnly :
    (∀ (host : Host) (s : Shell) (c : Command), Odd s.pause.machine.kernel.mode.toggles.toNat →
      (∀ line line', s.executeCommand host line { c with background := true } =
        s.executeCommand host line' { c with background := false }) ∧
      ∀ line line', isSkippable line = false → isSkippable line' = false →
        Command.parse line = .ok { c with background := true } →
        Command.parse line' = .ok { c with background := false } →
          s.executeLine host line = s.executeLine host line') ∧
    (∀ s : Shell, .stop ∉ s.machine.outside.arrivals.headD [] →
      s.pause.machine.kernel.mode = s.machine.kernel.mode) ∧
    (∀ (host : Host) (s : Shell) (line : String) (c : Command),
      Odd s.machine.kernel.mode.toggles.toNat →
        (∀ line', s.launch host line { c with background := true } =
          s.launch host line' { c with background := false }) ∧
        s.launch host line c = s.launchForeground host c ∧
        (s.launch host line c).jobs = s.jobs ∧
        (∀ launched, (s.machine.spawn host c
            (c.background && !s.machine.kernel.mode.isForegroundOnly)).1 = .ok launched →
          ∃ found, launched = .foreground found) ∧
        (∀ host' : Host, (∀ e, s.StartsInForeground c e → host.run e = host'.run e) →
          s.launch host line c = s.launch host' line c) ∧
        ∀ e, s.StartsInForeground c e →
          e.arguments = c.program :: c.arguments ∧ (e.input = .inherited ↔ c.input = none) ∧
            (e.output = .inherited ↔ c.output = none) ∧
            e.signals = .forChild true s.machine.kernel.signals.mask) ∧
    ∀ (host : Host) (s : Shell) (line : String) (c : Command) (b : Builtin),
      Builtin.named? (c.expand s.pidText).program = some b →
        (∀ line' input output background,
          s.executeCommand host line' { c with input, output, background } =
            s.executeCommand host line c) ∧
        ∀ mode, (s.withMode mode).executeCommand host line c =
          (s.executeCommand host line c).withMode mode := by
  refine ⟨fun host s c hodd => ⟨fun line line' => ?_, ?_⟩, fun s hstop => mode_pause hstop,
    fun host s line c hodd => ⟨fun line' => ?_, ?_, ?_, fun launched h => ?_, fun host' h => ?_,
      fun e h => h.execution⟩,
    fun host s line c b hnamed => ⟨fun line' input output background => ?_, fun mode => ?_⟩⟩
  · exact executeCommand_flag hodd line line' true false
  · intro line line' hline hline' hparse hparse'
    rw [executeLine, executeLine, hline, hline', hparse, hparse']
    exact executeCommand_flag hodd line line' true false
  · have hmode := isForegroundOnly_of_odd hodd
    rw [launch_of_foregroundOnly _ _ _ _ hmode, launch_of_foregroundOnly _ _ _ _ hmode]
    rfl
  · exact launch_of_foregroundOnly host s line c (isForegroundOnly_of_odd hodd)
  · rw [launch_of_foregroundOnly _ _ _ _ (isForegroundOnly_of_odd hodd), jobs_launchForeground]
  · rw [isForegroundOnly_of_odd hodd, Bool.not_true, Bool.and_false] at h
    exact Machine.foreground_of_spawn h
  · have hmode := isForegroundOnly_of_odd hodd
    rw [launch_of_foregroundOnly _ _ _ _ hmode, launch_of_foregroundOnly _ _ _ _ hmode,
      launchForeground_congr_host h]
  · have hnamed' : Builtin.named?
        (Command.expand s.pidText { c with input, output, background }).program = some b := hnamed
    rw [executeCommand_of_named hnamed, executeCommand_of_named hnamed']
    rfl
  · have hnamed' : Builtin.named? (c.expand (s.withMode mode).pidText).program = some b := hnamed
    rw [executeCommand_of_named hnamed, executeCommand_of_named hnamed', ← runBuiltin_withMode]
    rfl

/-- A program that is killed, in a shell after one toggle: with and without `&` the same comes of
it, and another host gives the same as long as children that can be interrupted do the same on
it. In the other mode the child is a job. The arguments of `exit &` are those of `exit`, in every
mode. -/
theorem ampersand_ignored_in_foregroundOnly_killed : ∃ (host host' : Host) (s : Shell),
    s.executeLine host "p > q &" = s.executeLine host "p > q" ∧
    (s.launch host "p &" { program := "p", background := true }).last = some (.signaled 9) ∧
    s.launch host "p &" { program := "p", background := true } =
      s.launch host' "p &" { program := "p", background := true } ∧
    ((s.withMode {}).launch host "p &" { program := "p", background := true }).jobs.pids = [1] ∧
    (s.withMode {}).executeCommand host "exit 3 &"
        { program := "exit", arguments := ["3"], background := true } =
      (s.executeCommand host "exit 3 > q"
        { program := "exit", arguments := ["3"], output := some "q" }).withMode {} := by
  let killed (around : Surroundings) : Course :=
    .ended ⟨around.files, around.ahead, [], [], [], []⟩ (Termination.signalStatus 9)
  let host : Host := { run _ around := killed around }
  let host' : Host :=
    { run e around :=
        if e.signals.interrupt = .default then killed around
        else .ended ⟨around.files, around.ahead, [], [], [], []⟩ (Termination.exitStatus 0) }
  let s : Shell := { machine := {
    kernel := { signals := .forShell {}, mode := ⟨1⟩ }
    files := { entries := [([], .directory), (["p"], .program "p")] }
    places := ["/"] } }
  obtain ⟨hcommand, -, hlaunch, hbuiltin⟩ := ampersand_ignored_in_foregroundOnly
  obtain ⟨-, hline⟩ := hcommand host s { program := "p", output := some "q" } (by decide)
  obtain ⟨-, -, -, -, hhosts, hstarts⟩ :=
    hlaunch host s "p &" { program := "p", background := true } (by decide)
  obtain ⟨hflag, -⟩ := hbuiltin host s "exit 3 > q"
    { program := "exit", arguments := ["3"], output := some "q" } .exit (by decide)
  obtain ⟨-, hmode⟩ := hbuiltin host s "exit 3 &"
    { program := "exit", arguments := ["3"], background := true } .exit (by decide)
  refine ⟨host, host', s, ?_, by decide +kernel, ?_, by decide +kernel, ?_⟩
  · exact hline "p > q &" "p > q" (by decide) (by decide) (by decide) (by decide)
  · refine hhosts host' fun e he => ?_
    obtain ⟨-, -, -, hsignals⟩ := hstarts e he
    have hdefault : e.signals.interrupt = .default := hsignals ▸ rfl
    funext around
    exact (if_pos hdefault).symm
  · rw [hmode {}]
    exact congrArg (Progress.withMode {}) (hflag "exit 3 &" none none true)

end Shell

end JobShell
