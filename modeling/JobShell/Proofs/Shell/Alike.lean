import JobShell.Proofs.Machine.Alike
import JobShell.Proofs.Shell.Going

/-!
# Shells that go on alike

`Shell.Alike` relates shells over machines that are alike. They write the same, keep the same
jobs and leave in the same way, line after line (`Shell.Alike.runLines`), as long as the same
arrives at their pauses.

`Shell.runLines` is what lines come to that are known beforehand, without what follows the last
of them (`Shell.executeLines_listed`).
-/

namespace JobShell

/-- The machine that an action leaves behind. -/
def Progress.machine : Progress → Machine
  | running s => s.machine
  | left _ m => m

namespace Shell

/-- The shells differ at most in their machines, which are alike. -/
def Alike (R : Schedule → Schedule → Prop) (s t : Shell) : Prop :=
  ∃ machine, s.machine.Alike R machine ∧ t = { s with machine }

/-- What lines come to, one after the other. -/
def runLines (host : Host) : List String → Shell → Progress
  | [], s => .running s
  | line :: lines, s => (s.greet.pause.executeLine host line).andThen (runLines host lines)

end Shell

/-- Both go on alike, or both leave alike. -/
inductive Progress.Alike (R : Schedule → Schedule → Prop) : Progress → Progress → Prop where
  | running {s t : Shell} (h : s.Alike R t) : Alike R (.running s) (.running t)
  | left {m m' : Machine} (code : Nat) (h : m.Alike R m') : Alike R (.left code m) (.left code m')

variable {R R' : Schedule → Schedule → Prop}

namespace Progress

variable {p q r : Progress}

theorem Alike.symm (hR : ∀ {a b}, R a b → R b a) (h : p.Alike R q) : q.Alike R p := by
  cases h with
  | running h =>
      obtain ⟨machine, hmachine, rfl⟩ := h
      exact .running ⟨_, hmachine.symm hR, rfl⟩
  | left code h => exact .left code (h.symm hR)

theorem Alike.trans (hR : ∀ {a b c}, R a b → R b c → R a c) (first : p.Alike R q)
    (second : q.Alike R r) : p.Alike R r := by
  cases first with
  | running h =>
      cases second with
      | running h' =>
          obtain ⟨machine, hmachine, rfl⟩ := h
          obtain ⟨machine', hmachine', rfl⟩ := h'
          exact .running ⟨machine', hmachine.trans hR hmachine', rfl⟩
  | left code h =>
      cases second with
      | left _ h' => exact .left code (h.trans hR h')

end Progress

namespace Shell

variable {s t u : Shell}

namespace Alike

theorem machine (h : s.Alike R t) : s.machine.Alike R t.machine := by
  obtain ⟨machine, hmachine, rfl⟩ := h
  exact hmachine

theorem refl (hlog : s.machine.kernel.log.WellFormed)
    (harrivals : R s.machine.outside.arrivals s.machine.outside.arrivals) : s.Alike R s :=
  ⟨s.machine, .refl hlog harrivals, rfl⟩

theorem symm (hR : ∀ {a b}, R a b → R b a) (h : s.Alike R t) : t.Alike R s := by
  obtain ⟨machine, hmachine, rfl⟩ := h
  exact ⟨s.machine, hmachine.symm hR, rfl⟩

theorem trans (hR : ∀ {a b c}, R a b → R b c → R a c) (first : s.Alike R t)
    (second : t.Alike R u) : s.Alike R u := by
  obtain ⟨machine, hmachine, rfl⟩ := first
  obtain ⟨machine', hmachine', rfl⟩ := second
  exact ⟨machine', hmachine.trans hR hmachine', rfl⟩

theorem mapMachine (h : s.Alike R t) {f : Machine → Machine}
    (hf : (f s.machine).Alike R (f t.machine)) : (s.mapMachine f).Alike R (t.mapMachine f) := by
  obtain ⟨machine, hmachine, rfl⟩ := h
  exact ⟨f machine, hf, rfl⟩

theorem print (h : s.Alike R t) (text : String) : (s.print text).Alike R (t.print text) :=
  h.mapMachine (h.machine.update (fun m => m.print text) fun _ _ _ => rfl)

theorem complain (h : s.Alike R t) (text : String) :
    (s.complain text).Alike R (t.complain text) :=
  h.mapMachine (h.machine.update (fun m => m.printError _) fun _ _ _ => rfl)

theorem pause_of (h : s.Alike R t)
    (hevents : s.machine.outside.arrivals.headD [] = t.machine.outside.arrivals.headD [])
    (hlater : R' s.machine.outside.arrivals.tail t.machine.outside.arrivals.tail) :
    s.pause.Alike R' t.pause := by
  obtain ⟨machine, hmachine, rfl⟩ := h
  exact ⟨_, hmachine.pause_of hevents hlater, rfl⟩

theorem pause (h : s.Alike R t) (hpaced : Machine.Paced R s.pause.machine.outside.arrivals) :
    s.pause.Alike R t.pause :=
  h.mapMachine (h.machine.pause hpaced)

/-- The same is reported. -/
theorem notify (h : s.Alike R t) : s.notify.Alike R t.notify := by
  obtain ⟨machine, ⟨kernel, arrivals, hkernel, harrivals, rfl⟩, rfl⟩ := h
  obtain ⟨kernel', hnotified, heq⟩ := JobTable.notify_alike hkernel s.jobs .healthy
  rw [Shell.notify, Shell.notify]
  dsimp only
  rw [heq]
  exact ⟨_, ⟨kernel', arrivals, hnotified, harrivals, rfl⟩, rfl⟩

/-- The same modes are announced. -/
theorem announce (h : s.Alike R t) : s.announce.Alike R t.announce := by
  have hprint (modes : List Mode) {s t : Shell} (h : s.Alike R t) :
      (modes.foldl (fun s mode => s.print (mode.announcement ++ "\n")) s).Alike R
        (modes.foldl (fun s mode => s.print (mode.announcement ++ "\n")) t) := by
    induction modes generalizing s t with
    | nil => exact h
    | cons mode modes ih => exact ih (h.print _)
  have hmode := h.machine.kernel.mode
  obtain ⟨machine, hmachine, rfl⟩ := h
  rw [Shell.announce, Shell.announce, hmode]
  exact hprint _ ⟨machine, hmachine, rfl⟩

theorem greet (h : s.Alike R t) (hpaced : Machine.Paced R s.greet.machine.outside.arrivals) :
    s.greet.Alike R t.greet := by
  have hlast := Machine.pause_steady False s.pause.notify.pause.announce.machine
  have hsecond := (announce_steady s.pause.notify.pause).trans hlast
  have hfirst := (notify_steady s.pause).trans ((Machine.pause_steady False _).trans hsecond)
  exact ((((h.pause (hfirst.paced hpaced)).notify.pause (hsecond.paced hpaced)).announce).pause
    hpaced)

theorem exit (h : s.Alike R t) (code : Option Int) : (s.exit code).Alike R (t.exit code) := by
  have hkill (denials : Denials) (pids : List Pid) {k k' : Kernel} (h : k.Alike k') :
      (pids.foldl (JobTable.terminate denials) k).Alike
        (pids.foldl (JobTable.terminate denials) k') := by
    induction pids generalizing k k' with
    | nil => exact h
    | cons pid pids ih =>
        rw [List.foldl_cons, List.foldl_cons, JobTable.terminate_eq, JobTable.terminate_eq]
        exact ih (h.kill denials pid _)
  have hleave {s t : Shell} (h : s.Alike R t) :
      Progress.Alike R
        (.left (exitStatus (code.getD 0))
          { s.machine with
            kernel := (s.jobs.terminateAll s.machine.kernel s.machine.outside.denials).2 })
        (.left (exitStatus (code.getD 0))
          { t.machine with
            kernel := (t.jobs.terminateAll t.machine.kernel t.machine.outside.denials).2 }) := by
    obtain ⟨machine, ⟨kernel, arrivals, hkernel, harrivals, rfl⟩, rfl⟩ := h
    exact .left _ ⟨_, arrivals, hkill _ _ hkernel, harrivals, rfl⟩
  have hconfig : t.config = s.config := by
    obtain ⟨machine, hmachine, rfl⟩ := h
    rfl
  rw [Shell.exit, Shell.exit, hconfig]
  dsimp only
  split
  · exact hleave (h.print _)
  · exact hleave h

theorem runBuiltin (h : s.Alike R t) (b : Builtin) (arguments : List String) :
    (s.runBuiltin b arguments).Alike R (t.runBuiltin b arguments) := by
  have hrun : b.run arguments t.context .healthy = b.run arguments s.context .healthy := by
    obtain ⟨machine, ⟨kernel, arrivals, hkernel, harrivals, rfl⟩, rfl⟩ := h
    rfl
  rw [context, context] at hrun
  rw [Shell.runBuiltin, Shell.runBuiltin]
  simp only [hrun]
  have hprinted := h.print (b.run arguments s.context .healthy).2.text
  split
  · next directory _ =>
      exact .running (hprinted.mapMachine
        (hprinted.machine.update (fun m => { m with directory }) fun _ _ _ => rfl))
  · exact .running (hprinted.complain _)
  · exact hprinted.exit _
  · exact (hprinted.complain _).exit _

variable {host : Host}

theorem launch (h : s.Alike R t) (line : String) (c : Command)
    (hpaced : Machine.Paced R (s.launch host line c).machine.outside.arrivals) :
    (s.launch host line c).Alike R (t.launch host line c) := by
  obtain ⟨machine, hmachine, rfl⟩ := h
  have hspawn := hmachine.spawn host c (c.background && !s.machine.kernel.mode.isForegroundOnly)
  rw [Shell.launch] at hpaced ⊢
  rw [Shell.launch, hmachine.kernel.mode]
  dsimp only at hpaced ⊢
  generalize s.machine.spawn host c
    (c.background && !s.machine.kernel.mode.isForegroundOnly) = answered at hpaced hspawn ⊢
  obtain ⟨answer, m⟩ := answered
  cases answer with
  | error f =>
      obtain ⟨m', hspawned, heq⟩ := hspawn hpaced
      rw [heq]
      exact ⟨_, hspawned.update (fun m => m.printError _) fun _ _ _ => rfl, rfl⟩
  | ok launched =>
      cases launched with
      | background pid =>
          obtain ⟨m', hspawned, heq⟩ := hspawn ((Machine.pause_steady False m).paced hpaced)
          rw [heq]
          exact ⟨_, (hspawned.pause hpaced).update (fun m => m.print _) fun _ _ _ => rfl, rfl⟩
      | foreground ended =>
          cases ended with
          | none =>
              obtain ⟨m', hspawned, heq⟩ := hspawn hpaced
              rw [heq]
              exact ⟨m', hspawned, rfl⟩
          | some t =>
              cases t with
              | exited code =>
                  obtain ⟨m', hspawned, heq⟩ := hspawn hpaced
                  rw [heq]
                  exact ⟨m', hspawned, rfl⟩
              | signaled signal =>
                  obtain ⟨m', hspawned, heq⟩ := hspawn hpaced
                  rw [heq]
                  exact ⟨_, hspawned.update (fun m => m.print _) fun _ _ _ => rfl, rfl⟩

theorem executeLine (host : Host) (h : s.Alike R t) (line : String)
    (hpaced : Machine.Paced R (s.executeLine host line).machine.outside.arrivals) :
    (s.executeLine host line).Alike R (t.executeLine host line) := by
  have hpid : t.pidText = s.pidText := by
    rw [pidText, pidText, h.machine.shellPid]
  rw [Shell.executeLine] at hpaced ⊢
  rw [Shell.executeLine]
  split at hpaced
  · next hskip =>
      rw [if_pos hskip, if_pos hskip]
      exact .running h
  · next hskip =>
      rw [if_neg hskip, if_neg hskip]
      cases hparse : Command.parse line with
      | error e => exact .running (h.complain _)
      | ok c =>
          rw [hparse] at hpaced
          dsimp only at hpaced ⊢
          rw [executeCommand] at hpaced ⊢
          rw [executeCommand, hpid]
          cases hnamed : Builtin.named? (c.expand s.pidText).program with
          | some b => exact h.runBuiltin b _
          | none =>
              rw [hnamed] at hpaced
              have hlaunch : s.pause.machine.Steady False
                  (s.pause.launch host line (c.expand s.pidText)).machine :=
                launch_steady False.elim False.elim line _
              exact .running ((h.pause (hlaunch.paced hpaced)).launch line _ hpaced)

end Alike

section Lines

variable {host : Host}

theorem outside_exit (s : Shell) (code : Option Int) :
    (s.exit code).machine.outside = s.machine.outside := by
  rw [exit]
  dsimp only
  split <;> rfl

theorem outside_runBuiltin (s : Shell) (b : Builtin) (arguments : List String) :
    (s.runBuiltin b arguments).machine.outside = s.machine.outside := by
  rw [runBuiltin]
  dsimp only
  split
  · rfl
  · rfl
  · rw [outside_exit]
    rfl
  · rw [outside_exit]
    rfl

/-- Whatever a line comes to, it has only met what was to arrive first. -/
theorem suffix_executeLine (host : Host) (s : Shell) (line : String) :
    (s.executeLine host line).machine.outside.arrivals <:+ s.machine.outside.arrivals := by
  have hdispatch := dispatch_executeLine host s line
  generalize s.fate host line = fate at hdispatch
  generalize s.executeLine host line = answer at hdispatch ⊢
  cases hdispatch with
  | skipped | refused => exact List.suffix_refl _
  | builtin b arguments => exact (s.outside_runBuiltin b arguments) ▸ List.suffix_refl _
  | launched c hmode =>
      have hlaunch : s.pause.machine.Steady False (s.pause.launch host line c).machine :=
        launch_steady False.elim False.elim line c
      exact ((Machine.pause_steady False s.machine).trans hlaunch).suffix

theorem suffix_runLines (host : Host) (lines : List String) (s : Shell) :
    (runLines host lines s).machine.outside.arrivals <:+ s.machine.outside.arrivals := by
  induction lines generalizing s with
  | nil => exact List.suffix_refl _
  | cons line lines ih =>
      have hgreet := ((greet_steady s).trans (Machine.pause_steady False s.greet.machine)).suffix
      refine .trans ?_ ((suffix_executeLine host s.greet.pause line).trans hgreet)
      rw [runLines]
      cases s.greet.pause.executeLine host line with
      | running t => exact ih t
      | left code m => exact List.suffix_refl _

/-- Alike shells go on alike line by line. -/
theorem Alike.runLines (host : Host) (h : s.Alike R t) (lines : List String)
    (hpaced : Machine.Paced R (Shell.runLines host lines s).machine.outside.arrivals) :
    (Shell.runLines host lines s).Alike R (Shell.runLines host lines t) := by
  induction lines generalizing s t with
  | nil => exact .running h
  | cons line lines ih =>
      rw [Shell.runLines] at hpaced ⊢
      rw [Shell.runLines]
      have hlater : ((s.greet.pause.executeLine host line).andThen
            (Shell.runLines host lines)).machine.outside.arrivals <:+
          (s.greet.pause.executeLine host line).machine.outside.arrivals := by
        cases s.greet.pause.executeLine host line with
        | running u => exact suffix_runLines host lines u
        | left code m => exact List.suffix_refl _
      have hline := hpaced.mono hlater
      have hpause := hline.mono (suffix_executeLine host s.greet.pause line)
      have hgreet := (Machine.pause_steady False s.greet.machine).paced hpause
      have hsame := ((h.greet hgreet).pause hpause).executeLine host line hline
      generalize s.greet.pause.executeLine host line = answer at hsame hpaced ⊢
      generalize t.greet.pause.executeLine host line = answer' at hsame ⊢
      cases hsame with
      | running h' => exact ih h' hpaced
      | left code h' => exact .left code h'

/-- What follows the last line that is known beforehand. -/
def finish (failure : Option Failure) (s : Shell) : Progress :=
  match failure with
  | none => .running s.greet
  | some f => .running (s.greet.complain f.message)

theorem Alike.finish (h : s.greet.Alike R t.greet) (failure : Option Failure) :
    (Shell.finish failure s).Alike R (Shell.finish failure t) := by
  cases failure with
  | none => exact .running h
  | some f => exact .running (h.complain _)

end Lines

end Shell

end JobShell
