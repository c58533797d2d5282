import JobShell.Proofs.Launch.Refused
import JobShell.Proofs.Shell.ForegroundOnly
import JobShell.Proofs.Shell.ReadFailure
import JobShell.Proofs.Shell.Reuse

/-!
# Commands whose child fails

A child that is refused its input, its output or its program ends before anything else, so a launch
in the foreground is an exit with 1, and a launch in the background becomes a job that is to be
reported as an exit with 1 (`Shell.WillReport`).

Facts are matched with jobs by their pids. So this is what the job is reported as if the log holds
no fact of its pid when it is launched, whatever pids later children get. If it holds one, the job
is reported as the child that the fact is of (`Shell.notify_reports_failed_as_successful`).
-/

namespace JobShell

namespace Shell

variable {s : Shell}

section Report

/-- Whatever happens from here on and whatever pids the system gives to new children, the first
report of this pid is that its job has ended like this. Until then the job is tracked, its end is
outstanding before all other ends of the pid, and a notification that takes all that is outstanding
shows the report. What the loop does is among what may happen (`Goes.continues`). -/
structure WillReport (s : Shell) (pid : Pid) (termination : Termination) : Prop where
  first : ∀ {later : List Event} {t : Tracking}, Tracking.Run .unheld s.tracking later t →
    ∀ told, Event.firstReport? pid later = some told → told = termination
  kept : ∀ {later : List Event} {t : Shell}, Tracking.Run .unheld s.tracking later t.tracking →
    Event.firstReport? pid later = none →
      pid ∈ t.jobs.pids ∧ ∃ status, Termination.ofStatus? status = some termination ∧
        (statusesOf pid t.machine.kernel.outstanding).head? = some status
  shown : ∀ {later : List Event} {t : Shell}, Tracking.Run .unheld s.tracking later t.tracking →
    Event.firstReport? pid later = none → t.machine.kernel.signals.childBlocked = false →
      t.machine.kernel.childPending = false →
        t.machine.kernel.outstanding.length ≤ 16 * 64 →
          ∃ before after, t.notify.machine.output = t.machine.output ++ Text.encode
            (before ++ ("background pid " ++ toString pid ++ " is done: " ++
              termination.message ++ "\n") ++ after)

theorem willReport_of_due {pid : Pid} {status : StatusWord} {termination : Termination}
    (hsound : s.machine.kernel.Sound) (hdue : s.tracking.Due pid status)
    (hend : Termination.ofStatus? status = some termination) : s.WillReport pid termination := by
  have hstill {later : List Event} {t : Tracking} (run : Tracking.Run .unheld s.tracking later t)
      (hnone : Event.firstReport? pid later = none) : t.Due pid status := by
    obtain ⟨-, hdue'⟩ | htold := run.due hdue hsound hend
    · exact hdue'
    · cases hnone.symm.trans htold
  refine ⟨fun run told htold => ?_, fun {later t} run hnone => ?_,
    fun {later t} run hnone hblocked hpending hfits => ?_⟩
  · obtain ⟨hnone, -⟩ | hfirst := run.due hdue hsound hend
    · cases hnone.symm.trans htold
    · exact Option.some.inj (htold.symm.trans hfirst)
  · have hdue' := hstill run hnone
    have htracked : pid ∈ t.tracking.jobs.pids := hdue'.tracked nofun
    exact ⟨htracked, status, hend, hdue'.first⟩
  · obtain ⟨kernel, hnotify⟩ := t.notify_eq
    have hlookup : (t.jobs.reports t.noticed).lookup pid = some termination :=
      (hstill run hnone).lookup_reports (run.sound hsound) rfl hend hblocked hpending hfits
    obtain ⟨front, rest, hsplit, -⟩ := List.lookup_eq_some_iff.1 hlookup
    refine ⟨JobTable.reportText front, JobTable.reportText rest, ?_⟩
    rw [hnotify, hsplit, JobTable.reportText_append, JobTable.reportText, ← String.append_assoc]
    rfl

end Report

section Refused

variable {c : Command} {pid : Pid} {request : Request} {e : Errno} {files : FileSystem}
  (host : Host) (line : String) (hnul : ¬ c.HoldsNul)
  (hfork : s.machine.beforeFork.fork.1 = .ok pid)
include hnul hfork

theorem launch_foreground_of_refused (h : s.machine.Orderly)
    (hkind : (c.background && !s.machine.kernel.mode.isForegroundOnly) = false)
    (hrefused : (c.image false).perform s.machine = (some (request, e), files)) :
    ∃ kernel outside lastPid,
      s.launch host line c = { s with
        last := some (.exited 1)
        machine := { s.machine with
          kernel, outside, lastPid, files
          errors := s.machine.errors ++ Text.encode (request.complaint e) } } := by
  obtain ⟨kernel, outside, lastPid, hspawn⟩ :=
    Machine.spawn_foreground_of_refused host hnul hfork h hrefused
  rw [launch, hkind, hspawn]
  exact ⟨kernel, outside, lastPid, rfl⟩

variable (hkind : (c.background && !s.machine.kernel.mode.isForegroundOnly) = true)
  (hrefused : (c.image true).perform s.machine = (some (request, e), files))
include hkind hrefused

theorem launch_background_of_refused :
    ∃ kernel outside lastPid,
      s.launch host line c = { s with
        jobs := s.jobs.create pid line
        machine := { s.machine with
          kernel, outside, lastPid, files
          launched := s.machine.launched ++ [pid]
          output := s.machine.output ++
            Text.encode ("background pid is " ++ toString pid ++ "\n")
          errors := s.machine.errors ++ Text.encode (request.complaint e) } } := by
  obtain ⟨kernel, outside, lastPid, hspawn⟩ :=
    Machine.spawn_background_of_refused host hnul hfork hrefused
  rw [launch, hkind, hspawn]
  obtain ⟨kernel', arrivals, hpause⟩ := Shell.pause_eq { s with machine := _ }
  dsimp only
  rw [hpause]
  exact ⟨_, _, _, rfl⟩

theorem willReport_launch_of_refused (h : s.machine.Orderly) (hsound : s.machine.kernel.Sound)
    (hlog : pid ∉ s.machine.kernel.log.waiting.map Fact.pid) :
    (s.launch host line c).WillReport pid (.exited 1) := by
  obtain ⟨horderly, hsound', hdue⟩ := Machine.due_spawn_of_refused host hnul hfork h hsound hlog
    hrefused s.jobs
  have hpause := (Machine.pause_drifts horderly).kernel
  obtain ⟨kernel, outside, lastPid, hspawn⟩ :=
    Machine.spawn_background_of_refused host hnul hfork hrefused
  have htracking : (s.launch host line c).tracking =
      { jobs := s.jobs.create pid line
        kernel := (s.machine.spawn host c true).2.pause.kernel
        stage := .idle } := by
    rw [launch, hkind, hspawn]
    rfl
  have hkernel := congrArg Tracking.kernel htracking
  have hregistered := (hdue.drifts hsound' hpause).register line rfl
  rw [← htracking] at hregistered
  refine willReport_of_due ?_ hregistered (by decide)
  rw [show (s.launch host line c).machine.kernel = _ from hkernel]
  exact hpause.sound hsound'

end Refused

/-- **A child that fails touches no more than it must.** A child asks for its input, then for its
output, then for its program; in the background a side without a target is the null device. If all
is granted, it runs its program under the name of the command and its arguments, in their order. If
something is refused, nothing behind it is asked for, so an output is neither created nor emptied
unless the input and the output were granted. Whatever the programs do, this one does not run; one
line names what was refused, and the child exits with 1.

A launch in the foreground then sets the last result to an exit with 1. A launch in the background
leaves the last result as it is, says its pid, and makes a job, which is reported as an exit with 1
if the log holds no fact of its pid. Apart from this and from what the child has done only the
kernel has changed, and what has come from outside and which pids were given. -/
theorem failed_child_touches_least (c : Command) (hnul : ¬ c.HoldsNul) :
    (∀ background,
      ChildImage.ofCommand c background = .ok (c.image background) ∧
      (c.image background).requests =
        (c.input.or (if background then some "/dev/null" else none)).toList.map .openInput ++
          (c.output.or (if background then some "/dev/null" else none)).toList.map .openOutput ++
            [.execute c.program] ∧
      ∀ (host : Host) (m : Machine) (pid : Pid) (mask : SignalSet),
        -- all is granted
        (∀ files, (c.image background).perform m = (none, files) →
          ∃ execution : Execution, execution.arguments = c.program :: c.arguments ∧
            (c.image background).connectInput m = .ok execution.input ∧
            (c.image background).connectOutput m = .ok (execution.output, files) ∧
            files.findProgram m.directory m.places c.program = .ok execution.utility ∧
            m.runChild host (c.image background) pid mask =
              Machine.execute host { m with
                files
                kernel := m.kernel.start pid (.forChild (!background) mask) }
                execution) ∧
        -- something is refused
        ∀ request e files, (c.image background).perform m = (some (request, e), files) →
          (c.image background).StopsAt m request e files ∧
          m.runChild host (c.image background) pid mask = { m with
            files
            errors := m.errors ++
              Text.encode ("smallsh: " ++ request.name ++ ": " ++ e.description ++ "\n")
            kernel := (m.kernel.start pid (.forChild (!background) mask)).endChild pid
              (Termination.exitStatus 1) }) ∧
    ∀ (host : Host) (s : Shell) (line : String) (pid : Pid) (request : Request) (e : Errno)
      (files : FileSystem), s.machine.beforeFork.fork.1 = .ok pid →
      -- in the foreground
      ((c.background && !s.machine.kernel.mode.isForegroundOnly) = false → s.machine.Orderly →
        (c.image false).perform s.machine = (some (request, e), files) →
          ∃ kernel outside lastPid, s.launch host line c = { s with
            last := some (.exited 1)
            machine := { s.machine with
              kernel, outside, lastPid, files
              errors := s.machine.errors ++
                Text.encode ("smallsh: " ++ request.name ++ ": " ++ e.description ++ "\n") } }) ∧
      -- in the background
      ((c.background && !s.machine.kernel.mode.isForegroundOnly) = true →
        (c.image true).perform s.machine = (some (request, e), files) →
          (∃ kernel outside lastPid, s.launch host line c = { s with
            jobs := s.jobs.create pid line
            machine := { s.machine with
              kernel, outside, lastPid, files
              launched := s.machine.launched ++ [pid]
              output := s.machine.output ++
                Text.encode ("background pid is " ++ toString pid ++ "\n")
              errors := s.machine.errors ++
                Text.encode ("smallsh: " ++ request.name ++ ": " ++ e.description ++ "\n") } }) ∧
          (s.machine.Orderly → s.machine.kernel.Sound →
            pid ∉ s.machine.kernel.log.waiting.map Fact.pid →
              (s.launch host line c).WillReport pid (.exited 1))) := by
  refine ⟨fun background => ⟨?_, rfl, fun host m pid mask => ⟨?_, ?_⟩⟩,
    fun host s line pid request e files hfork => ⟨?_, ?_⟩⟩
  · obtain ⟨-, himage⟩ | ⟨hholds, -⟩ := ChildImage.ofCommand_cases c background
    · exact himage
    · exact absurd hholds hnul
  · intro files hgranted
    obtain ⟨execution, hstarts, harguments, hinput, houtput, hprogram⟩ :=
      ChildImage.setUp_of_granted hgranted pid mask
    exact ⟨execution, harguments, hinput, houtput, hprogram,
      Machine.runChild_of_starts host hstarts⟩
  · intro request e files hrefused
    exact ⟨ChildImage.stopsAt_of_perform hrefused,
      Machine.runChild_of_refused host hrefused pid mask⟩
  · intro hkind horderly hrefused
    exact launch_foreground_of_refused host line hnul hfork horderly hkind hrefused
  · intro hkind hrefused
    refine ⟨launch_background_of_refused host line hnul hfork hkind hrefused, ?_⟩
    intro horderly hsound hlog
    exact willReport_launch_of_refused host line hnul hfork hkind hrefused horderly hsound hlog

/-- A program that is granted its output runs. With an input that is missing it leaves the file that
it was to write as it is, and exits with 1. A program that is missing does the same in the
background, where the report follows. -/
theorem failed_child_touches_least_missing : ∃ (host : Host) (s : Shell) (e : Execution)
    (files : FileSystem) (p q missing : Command),
    p = { program := "p", arguments := ["a"], output := some "r" } ∧
    q = { p with input := some "q" } ∧ missing = { program := "q", background := true } ∧
    -- all is granted
    e.arguments = ["p", "a"] ∧
    s.machine.runChild host (p.image false) 1 {} =
      Machine.execute host { s.machine with
        files, kernel := s.machine.kernel.start 1 (.forChild true {}) } e ∧
    (s.launch host "p a > r" p).machine.files.node? ["r"] = some (.file (Text.encode "p a")) ∧
    (s.launch host "p a > r" p).last = some (.exited 0) ∧
    -- the input is missing
    (s.launch host "p a < q > r" q).last = some (.exited 1) ∧
    (s.launch host "p a < q > r" q).machine.files.node? ["r"] = some (.file [104]) ∧
    -- the program is missing
    (s.launch host "q &" missing).last = some (.signaled 9) ∧
    (s.launch host "q &" missing).machine.errors =
      Text.encode "smallsh: q: No such file or directory\n" ∧
    (s.launch host "q &" missing).WillReport 1 (.exited 1) := by
  let host : Host := {
    run e around := .ended
      ⟨around.files.put ["r"] (.file (Text.encode (" ".intercalate e.arguments))), around.ahead,
        [], [], [], []⟩ (Termination.exitStatus 0) }
  let s : Shell := {
    last := some (.signaled 9)
    machine := {
      kernel := { signals := .forShell {} }
      files := { entries := [([], .directory), (["p"], .program "p"), (["r"], .file [104]),
        (["dev"], .directory), (["dev", "null"], .device false)] }
      places := ["/"] } }
  let p : Command := { program := "p", arguments := ["a"], output := some "r" }
  have htraced : s.Traced {} [] := traced_start rfl rfl rfl nofun nofun
  obtain ⟨hchild, -⟩ := failed_child_touches_least p (by simp [p, Command.HoldsNul, Text.HoldsNul])
  obtain ⟨-, hforeground⟩ := failed_child_touches_least { p with input := some "q" }
    (by simp [p, Command.HoldsNul, Text.HoldsNul])
  obtain ⟨-, hbackground⟩ := failed_child_touches_least { program := "q", background := true }
    (by simp [Command.HoldsNul, Text.HoldsNul])
  obtain ⟨-, -, hrun⟩ := hchild false
  obtain ⟨hgranted, -⟩ := hrun host s.machine 1 {}
  obtain ⟨e, harguments, -, -, -, hexecute⟩ :=
    hgranted (s.machine.files.put ["r"] (.file [])) (by decide +kernel)
  have hfork : s.machine.beforeFork.fork.1 = .ok 1 := by decide +kernel
  obtain ⟨hfirst, -⟩ := hforeground host s "p a < q > r" 1 (.openInput "q") .noEntry
    s.machine.files hfork
  obtain ⟨-, hsecond⟩ := hbackground host s "q &" 1 (.execute "q") .noEntry s.machine.files hfork
  obtain ⟨kernel, outside, lastPid, hlaunch⟩ := hfirst rfl htraced.orderly (by decide +kernel)
  obtain ⟨⟨kernel', outside', lastPid', hlaunch'⟩, hreport⟩ := hsecond rfl (by decide +kernel)
  refine ⟨host, s, e, _, p, _, _, rfl, rfl, rfl, harguments, hexecute, ?_, ?_, ?_, ?_, ?_, ?_,
    hreport htraced.orderly htraced.run.balanced.sound List.not_mem_nil⟩
  · decide +kernel
  · decide +kernel
  · rw [hlaunch]
  · rw [hlaunch]
    rfl
  · rw [hlaunch']
  · rw [hlaunch']
    rfl

/-- The system gives the pid of a child that was collected to a child whose program is missing,
before the end of the first one was reported. The report is then that the second one was
successful, and its own end is dropped. -/
theorem notify_reports_failed_as_successful :
    ∃ (host : Host) (s t u : Shell), host.Ends ∧ s.Follows {} [] {} ∧
      s.executeLine host "p &" = .running t ∧ t.executeLine host "q &" = .running u ∧
      u.machine.errors = Text.encode "smallsh: q: No such file or directory\n" ∧
      u.jobs.jobs = [{ pid := 7, input := "q &" }] ∧
      u.machine.kernel.outstanding =
        [⟨7, Termination.exitStatus 0⟩, ⟨7, Termination.exitStatus 1⟩] ∧
      u.notify.jobs = {} ∧ u.notify.machine.kernel.outstanding = [] ∧
      u.notify.machine.output = u.machine.output ++
        Text.encode "background pid 7 is done: exit value 0\n" := by
  let host : Host :=
    { run _ around :=
        .ended ⟨around.files, around.ahead, [], [], [], []⟩ (Termination.exitStatus 0) }
  let s : Shell := { machine := {
    kernel := { signals := .forShell {} }
    files := { entries := [([], .directory), (["p"], .program "p"), (["dev"], .directory),
      (["dev", "null"], .device false)] }
    places := ["/"]
    outside := { forks := [.preferring 7, .preferring 7] } } }
  refine ⟨host, s, _, _, fun _ _ => .ended rfl, ?_, rfl, rfl, ?_, ?_, ?_, ?_, ?_, ?_⟩
  · exact follows_start rfl rfl ⟨rfl, nofun, nofun, nofun, nofun⟩
  all_goals decide +kernel

end Shell

end JobShell
