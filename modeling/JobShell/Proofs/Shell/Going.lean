import JobShell.Proofs.Machine.Steady
import JobShell.Proofs.Shell.Status

/-!
# Where a shell can get

`Shell.Goes` relates a shell to every state that its loop can bring it to: it is interrupted,
reports, announces, reads and complains as it likes, and runs lines. Which lines may be run in
which state is a parameter, in which an assumption on the answers of the system can be written
down (`Shell.ForksUntracked`). All that a source makes of a shell lies on such a way
(`Shell.leadsTo_executeLinesFrom`).

On the way the events of pauses are met one after the other, only terminal stops among them
toggle the mode, and the shell sends nothing (`Shell.Goes.steady`); the jobs are tracked
(`Shell.Goes.traced`).
-/

namespace JobShell

namespace Shell

@[simp] theorem print_empty (s : Shell) : s.print "" = s := by
  have houtput : s.machine.print "" = s.machine := by
    rw [Machine.print]
    exact congrArg (fun output => { s.machine with output }) (List.append_nil _)
  rw [print, mapMachine, houtput]

/-- What builtins see of the shell. -/
def context (s : Shell) : Builtin.Context where
  files := s.machine.files
  directory := s.machine.directory
  home := s.machine.home
  last := s.last

/-- The first of the lines that are known beforehand is one turn of the loop. -/
theorem executeLines_cons (host : Host) (s : Shell) (line : String) (rest : List String)
    (failure : Option Failure) :
    s.executeLines host (.listed (line :: rest) failure) =
      (s.greet.pause.executeLine host line).andThen fun t =>
        t.executeLines host (.listed rest failure) :=
  rfl

/-- The states that the loop can bring a shell to, where only lines that are allowed are run. -/
inductive Goes (host : Host) (allows : Shell → String → Prop) (s : Shell) : Shell → Prop where
  | refl : Goes host allows s s
  | pause {t : Shell} (h : Goes host allows s t) : Goes host allows s t.pause
  | notify {t : Shell} (h : Goes host allows s t) : Goes host allows s t.notify
  | announce {t : Shell} (h : Goes host allows s t) : Goes host allows s t.announce
  | read {t : Shell} (h : Goes host allows s t) (source : LineSource) (prompt : String) :
      Goes host allows s { t with machine := (source.readLine prompt t.machine).2.2 }
  | complain {t : Shell} (h : Goes host allows s t) (text : String) :
      Goes host allows s (t.complain text)
  | line {t u : Shell} {line : String} (h : Goes host allows s t) (hallows : allows t line)
      (hline : t.executeLine host line = .running u) : Goes host allows s u

variable {host : Host} {allows : Shell → String → Prop} {s t : Shell}

theorem Goes.greet (h : Goes host allows s t) : Goes host allows s t.greet :=
  h.pause.notify.pause.announce.pause

section Sources

/-- What the shell has come to lies on its way, or is what an allowed line on it leaves with. -/
def LeadsTo (host : Host) (allows : Shell → String → Prop) (s : Shell) : Progress → Prop
  | .running t => Goes host allows s t
  | .left code m =>
    ∃ t line, Goes host allows s t ∧ allows t line ∧ t.executeLine host line = .left code m

theorem LeadsTo.andThen {p : Progress} (h : LeadsTo host allows s p) {next : Shell → Progress}
    (hnext : ∀ t, Goes host allows s t → LeadsTo host allows s (next t)) :
    LeadsTo host allows s (p.andThen next) := by
  cases p with
  | running t => exact hnext t h
  | left code m => exact h

/-- Whatever a source yields, running its lines leads along the way of the shell, if every line
is allowed wherever the shell can get. -/
theorem leadsTo_executeLinesFrom (hallows : ∀ t line, Goes host allows s t → allows t line)
    (turns : Nat) (source : LineSource) (h : Goes host allows s t) :
    LeadsTo host allows s (executeLinesFrom host turns t source) := by
  induction turns generalizing t source with
  | zero => exact h
  | succ turns ih =>
      have hread := h.greet.read source t.greet.config.prompt
      rw [executeLinesFrom]
      generalize source.readLine t.greet.config.prompt t.greet.machine = answer at hread ⊢
      obtain ⟨answer, source, machine⟩ := answer
      cases answer with
      | error f => exact hread.complain _
      | ok read =>
          cases read with
          | none => exact hread
          | some line =>
              have hpause := hread.pause
              refine LeadsTo.andThen ?_ fun u hu => ih source hu
              cases hline : executeLine host { t.greet with machine }.pause line with
              | running u => exact hpause.line (hallows _ _ hpause) hline
              | left code m => exact ⟨_, line, hpause, hallows _ _ hpause, hline⟩

end Sources

section Steady

/-- Reading takes input and may write a prompt. -/
theorem readLine_machine (source : LineSource) (prompt : String) (m : Machine) :
    ∃ input output, (source.readLine prompt m).2.2 = { m with input, output } := by
  cases source with
  | listed lines failure =>
      cases lines with
      | nil => cases failure <;> exact ⟨m.input, m.output, rfl⟩
      | cons line rest => exact ⟨m.input, m.output, rfl⟩
  | plain =>
      rw [LineSource.readLine]
      split <;> exact ⟨_, _, rfl⟩
  | editor =>
      have hprompt : ∃ output,
          (if m.atTerminal = true then m.print prompt else m) = { m with output } := by
        split
        · exact ⟨_, rfl⟩
        · exact ⟨m.output, rfl⟩
      obtain ⟨output, houtput⟩ := hprompt
      rw [LineSource.readLine]
      simp only [houtput]
      split
      · split <;> exact ⟨_, output, rfl⟩
      · exact ⟨_, output, rfl⟩
      · exact ⟨_, output, rfl⟩

/-- What is written when modes are announced. -/
def announcements (modes : List Mode) : Bytes :=
  modes.flatMap fun mode => Text.encode (mode.announcement ++ "\n")

/-- Announcing writes to standard output and keeps the new count. -/
theorem announce_eq (s : Shell) :
    s.announce = { s with
      announced := s.machine.kernel.mode.toggles
      machine := { s.machine with
        output := s.machine.output ++
          announcements (s.machine.kernel.mode.takeChanges s.announced).1 } } := by
  have hprint (modes : List Mode) (s : Shell) :
      modes.foldl (fun s mode => s.print (mode.announcement ++ "\n")) s =
        { s with machine :=
          { s.machine with output := s.machine.output ++ announcements modes } } := by
    induction modes generalizing s with
    | nil => rw [announcements, List.flatMap_nil, List.append_nil]; rfl
    | cons mode modes ih =>
        have houtput : s.machine.output ++ announcements (mode :: modes) =
            s.machine.output ++ Text.encode (mode.announcement ++ "\n") ++ announcements modes :=
          (List.append_assoc ..).symm
        rw [List.foldl_cons, ih, houtput]
        rfl
  exact hprint _ _

variable {spared : Prop}

theorem announce_steady (s : Shell) : s.machine.Steady spared s.announce.machine := by
  rw [announce_eq]
  exact .of_kernel (.refl _) rfl (fun _ hs => hs) rfl

theorem notify_steady (s : Shell) : s.machine.Steady spared s.notify.machine := by
  have hkernel := Kernel.drainBatches_steady JobTable.maxDrainPasses s.machine.kernel
  refine .of_kernel ?_ rfl (fun _ hs => hs) rfl
  change s.machine.kernel.Steady 0 (s.jobs.notify .healthy s.machine.kernel).2.2
  rw [JobTable.notify, JobTable.drain_eq]
  exact hkernel

theorem greet_steady (s : Shell) : s.machine.Steady spared s.greet.machine := by
  have hnotified := (Machine.pause_steady spared s.machine).trans (notify_steady s.pause)
  have hannounced := (hnotified.trans (Machine.pause_steady spared _)).trans
    (announce_steady s.pause.notify.pause)
  exact hannounced.trans (Machine.pause_steady spared _)

theorem runBuiltin_steady {b : Builtin} {arguments : List String}
    (h : s.runBuiltin b arguments = .running t) : s.machine.Steady spared t.machine := by
  rw [runBuiltin] at h
  dsimp only at h
  split at h
  · cases h
    exact .of_kernel (.refl _) rfl (fun _ hs => hs) rfl
  · cases h
    exact .of_kernel (.refl _) rfl (fun _ hs => hs) rfl
  · cases h
  · cases h

variable (hhost : spared → host.SparesParents)
include hhost

theorem launch_steady (h : spared → s.machine.Spared) (line : String) (c : Command) :
    s.machine.Steady spared (s.launch host line c).machine := by
  have hspawn := Machine.spawn_steady hhost h c
    (c.background && !s.machine.kernel.mode.isForegroundOnly)
  rw [launch]
  generalize s.machine.spawn host c
    (c.background && !s.machine.kernel.mode.isForegroundOnly) = answered at hspawn ⊢
  obtain ⟨answer, m⟩ := answered
  have hwrite (m m' : Machine) (hkernel : m'.kernel = m.kernel)
      (hpid : m'.shellPid = m.shellPid) (hsleepers : m'.sleepers = m.sleepers)
      (houtside : m'.outside = m.outside) : m.Steady spared m' :=
    .of_kernel (hkernel ▸ .refl _) hpid (fun _ hs => hsleepers ▸ hs) (houtside ▸ rfl)
  cases answer with
  | error f => exact hspawn.trans (hwrite _ _ rfl rfl rfl rfl)
  | ok launched =>
      cases launched with
      | background pid =>
          exact (hspawn.trans (Machine.pause_steady spared m)).trans (hwrite _ _ rfl rfl rfl rfl)
      | foreground ended =>
          cases ended with
          | none => exact hspawn
          | some t =>
              cases t with
              | exited code => exact hspawn
              | signaled signal => exact hspawn.trans (hwrite _ _ rfl rfl rfl rfl)

theorem executeLine_steady (h : spared → s.machine.Spared) {line : String}
    (hline : s.executeLine host line = .running t) : s.machine.Steady spared t.machine := by
  have hdispatch := dispatch_executeLine host s line
  rw [hline] at hdispatch
  generalize s.fate host line = fate at hdispatch
  generalize hanswer : Progress.running t = answer at hdispatch
  cases hdispatch with
  | skipped => cases hanswer; exact .refl spared _
  | refused e => cases hanswer; exact .of_kernel (.refl _) rfl (fun _ hs => hs) rfl
  | builtin b arguments => exact runBuiltin_steady hanswer.symm
  | launched c hmode =>
      cases hanswer
      have hpause := Machine.pause_steady spared s.machine
      exact hpause.trans
        (launch_steady (s := s.pause) hhost (Machine.Spared.of_steady h hpause) line c)

/-- The way of the shell is a stretch of the life of its machine. -/
theorem Goes.steady (h : spared → s.machine.Spared) (goes : Goes host allows s t) :
    s.machine.Steady spared t.machine := by
  induction goes with
  | refl => exact .refl spared _
  | pause _ ih => exact ih.trans (Machine.pause_steady spared _)
  | notify _ ih => exact ih.trans (notify_steady _)
  | announce _ ih => exact ih.trans (announce_steady _)
  | @read t _ source prompt ih =>
      obtain ⟨input, output, hread⟩ := readLine_machine source prompt t.machine
      rw [hread]
      exact ih.trans (.of_kernel (.refl _) rfl (fun _ hs => hs) rfl)
  | complain _ text ih => exact ih.trans (.of_kernel (.refl _) rfl (fun _ hs => hs) rfl)
  | line _ hallows hline ih =>
      exact ih.trans (executeLine_steady hhost (Machine.Spared.of_steady h ih) hline)

end Steady

end Shell

end JobShell
