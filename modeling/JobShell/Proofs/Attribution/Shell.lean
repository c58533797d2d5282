import JobShell.Proofs.Attribution.Exactness
import JobShell.Proofs.Launch.Spawning

/-!
# What the shell does is attributed

The steps of `Attribution.Step` are those that the shell really takes: a notification takes the
log and applies the facts one by one (`Attribution.Run.of_drain`), and a launch goes by the steps
of `Launching.Step`. So as long as it does not leave, some run leads to the shell whatever pids
its children get, and what `Attribution.attributed_iff` says of runs holds of it.
-/

namespace JobShell

theorem Notice.report?_verdict (jobs : JobTable) (job : Pid → Nat) (fact : Fact) (teller : Nat) :
    (verdict jobs job fact teller).report? = jobs.report? fact := by
  rw [verdict]
  cases jobs.report? fact <;> rfl

/-- Incidents report nothing. -/
theorem Ledger.filterMap_report?_notices (l : Ledger) (incidents : List Incident) :
    (l.notices incidents).filterMap Notice.report? = [] := by
  induction incidents generalizing l with
  | nil => rfl
  | cons incident incidents ih =>
      rw [notices, List.filterMap_append, ih, List.append_nil]
      cases incident <;> rfl

namespace Attribution

variable {history : List Notice}

/-- What was taken is applied one by one. -/
theorem Run.of_settleAll (entries : List (Fact × Nat)) (jobs : JobTable) (k : Kernel)
    (phase : Phase) (l : Ledger) :
    ∃ notices,
      Run ⟨jobs, k, phase, { l with taken := entries }⟩ notices
        ⟨jobs.settleAll (entries.map Prod.fst), k, phase, { l with taken := [] }⟩ ∧
      notices.filterMap Notice.report? = jobs.reports (entries.map Prod.fst) := by
  induction entries generalizing jobs with
  | nil => exact ⟨[], .nil, rfl⟩
  | cons entry entries ih =>
      obtain ⟨fact, teller⟩ := entry
      obtain ⟨notices, run, hreports⟩ := ih (jobs.settle fact)
      have first : Run ⟨jobs, k, phase, { l with taken := (fact, teller) :: entries }⟩ _ _ :=
        .of_step (.settle _ fact teller entries rfl)
      refine ⟨_, first.append run, ?_⟩
      rw [List.filterMap_append, hreports, List.map_cons, JobTable.reports]
      congr 1
      rw [List.filterMap_cons, Notice.report?_verdict]
      cases jobs.report? fact <;> rfl

/-- A notification is a run that gives its reports. -/
theorem Run.of_drain (passes : Nat) {jobs : JobTable} {k : Kernel} {l : Ledger}
    (h : Kept history ⟨jobs, k, .idle, l⟩) (hempty : l.taken = []) :
    ∃ notices l',
      Run ⟨jobs, k, .idle, l⟩ notices
        ⟨jobs.settleAll (Kernel.drainBatches passes k).1.flatten,
          (Kernel.drainBatches passes k).2, .idle, l'⟩ ∧
      l'.taken = [] ∧
      notices.filterMap Notice.report? =
        jobs.reports (Kernel.drainBatches passes k).1.flatten := by
  induction passes generalizing history jobs k l with
  | zero => exact ⟨[], l, .nil, hempty, rfl⟩
  | succ passes ih =>
      have taken := Run.of_step (.take ⟨jobs, k, .idle, l⟩ rfl hempty)
      obtain ⟨applied, run, happlied⟩ :=
        Run.of_settleAll l.logged jobs k.takeLog .idle { l with logged := [] }
      rw [h.books.logged] at run happlied
      rw [Kernel.drainBatches]
      cases hmark : k.log.active.saturated with
      | false =>
          rw [if_neg Bool.false_ne_true, List.flatten_singleton]
          exact ⟨applied, _, taken.append run, rfl, happlied⟩
      | true =>
          -- what the raised signal brings into the log is left to the passes that remain
          have raised := (taken.append run).snoc (.move _ rfl (.signal _))
          obtain ⟨rest, l', hrest, hempty', hreports⟩ :=
            ih (raised.kept_of h) (Ledger.taken_noteAll _ _)
          rw [if_pos rfl]
          dsimp only
          rw [List.flatten_cons, JobTable.settleAll_append, JobTable.reports_append]
          refine ⟨_, l', raised.append hrest, hempty', ?_⟩
          rw [List.filterMap_append, List.filterMap_append, List.filterMap_append,
            Ledger.filterMap_report?_notices, hreports, happlied]
          simp

/-- Whatever happens by itself is a run. -/
theorem Run.of_drift {jobs : JobTable} {k k' : Kernel} {l : Ledger} {facts : List Fact}
    (drift : k.Drift facts k') :
    ∃ notices l', Run ⟨jobs, k, .idle, l⟩ notices ⟨jobs, k', .idle, l'⟩ ∧
      l'.taken = l.taken ∧ notices.filterMap Notice.report? = [] := by
  induction drift with
  | refl => exact ⟨[], l, .nil, rfl, rfl⟩
  | tail drift move ih =>
      obtain ⟨notices, l', run, htaken, hnone⟩ := ih
      refine ⟨_, _, run.snoc (.move _ rfl move), (Ledger.taken_noteAll ..).trans htaken, ?_⟩
      rw [List.filterMap_append, hnone, Ledger.filterMap_report?_notices]
      rfl

end Attribution

namespace Machine

section Orderly

variable {m : Machine} (h : m.Orderly)
include h

theorem Orderly.waitWith_nil (pid : Pid) : (m.waitWith pid []).2.Orderly := by
  rw [waitWith]
  split
  · exact h
  · next status k hreap =>
      have hk : k = (m.kernel.reap pid).2 := by rw [hreap]
      exact hk ▸ h.reap pid

theorem Orderly.waitForeground (pid : Pid) : (m.waitForeground pid).2.Orderly := by
  have hawaited := (h.of_drifts (pause_drifts h)).of_drifts
    (awaitEnd_drifts (h.of_drifts (pause_drifts h)) pid)
  have hwait : Orderly ({ m.pause.awaitEnd pid with
      outside := { (m.pause.awaitEnd pid).outside with waitErrors := [] } }.waitWith pid
        (m.pause.awaitEnd pid).outside.waitErrors).2 := by
    have hcleared : Orderly { m.pause.awaitEnd pid with
        outside := { (m.pause.awaitEnd pid).outside with waitErrors := [] } } :=
      ⟨hawaited.handler, hawaited.known, hawaited.sleepers, hawaited.arrivals, nofun⟩
    rw [waitWith_eq _ pid hawaited.waits]
    exact hcleared.waitWith_nil pid
  rw [Machine.waitForeground]
  dsimp only
  split
  · next t m' hanswer =>
      rw [hanswer] at hwait
      split
      · exact hwait
      · exact hwait.reap pid
  · exact hwait

/-- No launch upsets what is still to come. -/
theorem Orderly.spawn {host : Host} (hhost : host.Ends) (c : Command) (background : Bool) :
    (m.spawn host c background).2.Orderly := by
  rw [Machine.spawn]
  split
  · exact h
  · next image himage =>
      have hasked := h.beforeFork.of_drifts m.beforeFork.fork_drifts
      rw [Machine.beforeFork] at hasked
      dsimp only
      split
      · next e m' hfork =>
          rw [hfork] at hasked
          exact hasked.setMask _
      · next pid m' hfork =>
          rw [hfork] at hasked
          have hchild := (runChild_drifts hhost hasked pid image
            m.kernel.signals.mask).1
          have hstarted := (hasked.start pid _).of_drifts hchild
          have hpaused := hstarted.of_drifts (pause_drifts hstarted)
          split
          · have hlisted : Orderly
                { (m'.runChild host image pid m.kernel.signals.mask).pause with
                  launched :=
                    (m'.runChild host image pid m.kernel.signals.mask).pause.launched ++
                      [pid] } :=
              hpaused.of_drifts (.of_kernel (.refl _) rfl rfl)
            exact hlisted.setMask _
          · have hwaited := hpaused.waitForeground pid
            split
            · next f m'' hanswer =>
                rw [hanswer] at hwaited
                exact hwaited.setMask _
            · next t m'' hanswer =>
                rw [hanswer] at hwaited
                exact hwaited.setMask _

end Orderly

/-- Some run leads to the machine, with this history, this job table, this phase and this ledger;
no facts are at hand. -/
structure Follows (m : Machine) (signals : SignalSetup) (history : List Notice) (jobs : JobTable)
    (phase : Phase) (l : Ledger) : Prop where
  orderly : m.Orderly
  run : Attribution.Run (.start signals) history ⟨jobs, m.kernel, phase, l⟩
  hands : l.taken = []

section Follows

variable {m m' : Machine} {signals : SignalSetup} {history : List Notice} {jobs : JobTable}
  {phase : Phase} {l : Ledger}

theorem Follows.drifts (h : m.Follows signals history jobs .idle l) (hdrifts : m.Drifts m') :
    ∃ notices l', m'.Follows signals (history ++ notices) jobs .idle l' ∧
      notices.filterMap Notice.report? = [] := by
  obtain ⟨facts, drift⟩ := hdrifts.kernel
  obtain ⟨notices, l', run, htaken, hnone⟩ := Attribution.Run.of_drift drift
  exact ⟨notices, l', ⟨h.orderly.of_drifts hdrifts, h.run.append run, htaken.trans h.hands⟩,
    hnone⟩

/-- Where neither the kernel nor what is still to come has changed, the same run leads. -/
theorem Follows.same (h : m.Follows signals history jobs phase l) (hkernel : m'.kernel = m.kernel)
    (hsleepers : m'.sleepers = m.sleepers) (houtside : m'.outside = m.outside) :
    m'.Follows signals history jobs phase l where
  orderly := h.orderly.of_drifts (.of_kernel (hkernel ▸ .refl _) hsleepers houtside)
  run := by
    rw [hkernel]
    exact h.run
  hands := h.hands

theorem Follows.conclude {c : Command} {background : Bool} {line : String}
    {answer : Except Failure Launched}
    (h : m.Follows signals history jobs (.launching c background line (.returned answer)) l)
    (hnone : ∀ pid, answer ≠ .ok (.background pid)) : m.Follows signals history jobs .idle l where
  orderly := h.orderly
  run := by
    have concluded := h.run.snoc (.conclude _ rfl hnone)
    rwa [List.append_nil] at concluded
  hands := h.hands

/-- A launch goes on. -/
theorem Follows.launching {c : Command} {background : Bool} {line : String}
    {stage stage' : LaunchStage} {incidents : List Incident}
    (h : m.Follows signals history jobs (.launching c background line stage) l)
    (horderly : m'.Orderly)
    (run : Launching.Run .absent c background ⟨stage, m.kernel⟩ incidents ⟨stage', m'.kernel⟩) :
    ∃ notices l', m'.Follows signals (history ++ notices) jobs
        (.launching c background line stage') l' ∧ notices.filterMap Notice.report? = [] := by
  have launched := Attribution.Run.of_launching
    (a := ⟨jobs, m.kernel, .launching c background line stage, l⟩) rfl run
  exact ⟨_, _, ⟨horderly, h.run.append launched, (Ledger.taken_noteAll ..).trans h.hands⟩,
    l.filterMap_report?_notices incidents⟩

theorem Follows.register {c : Command} {background : Bool} {line : String} {pid : Pid}
    (h : m.Follows signals history jobs
      (.launching c background line (.returned (.ok (.background pid)))) l) :
    ∃ notices l', m.Follows signals (history ++ notices) (jobs.create pid line) .idle l' ∧
      notices.filterMap Notice.report? = [] := by
  refine ⟨_, _, ⟨h.orderly, h.run.snoc (.register _ rfl), h.hands⟩, ?_⟩
  rw [Notice.replacing]
  split <;> rfl

/-- A launch is a run up to its answer, whatever pid its child gets. -/
theorem Follows.spawn {host : Host} (hhost : host.Ends)
    (h : m.Follows signals history jobs .idle l) (c : Command) (background : Bool)
    (line : String) :
    ∃ notices l', (m.spawn host c background).2.Follows signals (history ++ notices) jobs
        (.launching c background line (.returned (m.spawn host c background).1)) l' ∧
      notices.filterMap Notice.report? = [] := by
  have hready : m.kernel.Ready := h.run.kept.books.ready
  obtain ⟨incidents, run, -⟩ := run_spawn hhost h.orderly hready c background
  have hbegun : m.Follows signals history jobs (.launching c background line .entering) l := by
    refine ⟨h.orderly, ?_, h.hands⟩
    have begun := h.run.snoc (.begin _ c background line rfl h.hands)
    rwa [List.append_nil] at begun
  exact hbegun.launching (h.orderly.spawn hhost c background) run

end Follows

end Machine

namespace Shell

/-- Some run leads to the shell at the head of its loop, with this history and this ledger. -/
def Follows (s : Shell) (signals : SignalSetup) (history : List Notice) (l : Ledger) : Prop :=
  s.machine.Follows signals history s.jobs .idle l

variable {s : Shell} {signals : SignalSetup} {history : List Notice} {l : Ledger}

/-- A shell that has only installed its handlers. -/
theorem follows_start (hkernel : s.machine.kernel = { signals := signals.forShell })
    (hjobs : s.jobs = {}) (horderly : s.machine.Orderly) : s.Follows signals [] {} where
  orderly := horderly
  run := by
    rw [hkernel, hjobs]
    exact .nil
  hands := rfl

theorem follows_pause (h : s.Follows signals history l) :
    ∃ notices l', s.pause.Follows signals (history ++ notices) l' ∧
      notices.filterMap Notice.report? = [] :=
  h.drifts (Machine.pause_drifts h.orderly)

/-- A notification is a run that gives the reports that the user sees. -/
theorem follows_notify (h : s.Follows signals history l) :
    ∃ notices l', s.notify.Follows signals (history ++ notices) l' ∧
      s.notify.machine.output = s.machine.output ++
        Text.encode (JobTable.reportText (notices.filterMap Notice.report?)) := by
  obtain ⟨notices, l', run, hempty, hreports⟩ :=
    Attribution.Run.of_drain JobTable.maxDrainPasses h.run.kept h.hands
  have hjobs := s.tracking.jobs_notified .healthy
  have hkernel := s.tracking.kernel_notified .healthy
  have htext := s.tracking.text_notified .healthy fun _ _ => rfl
  have hrun := h.run.append run
  refine ⟨notices, l', ⟨⟨?_, ?_, h.orderly.sleepers, h.orderly.arrivals, h.orderly.waits⟩, ?_,
    hempty⟩, ?_⟩
  · change (s.tracking.notified .healthy).kernel.signals.child = _
    rw [hkernel]
    exact hrun.kept.books.ready.handler
  · change (s.tracking.notified .healthy).kernel.Known
    rw [hkernel]
    exact h.orderly.known.drainBatches _
  · change Attribution.Run _ _
      ⟨(s.tracking.notified .healthy).jobs, (s.tracking.notified .healthy).kernel, .idle, l'⟩
    rw [hjobs, hkernel]
    exact hrun
  · change s.machine.output ++ Text.encode (s.jobs.notify .healthy _).2.1.text = _
    rw [hreports]
    exact congrArg (fun text => s.machine.output ++ Text.encode text)
      (htext.trans String.empty_append)

/-- A launch is a run, whatever pid its child gets. -/
theorem follows_launch {host : Host} (hhost : host.Ends) (h : s.Follows signals history l)
    (line : String) (c : Command) :
    ∃ notices l', (s.launch host line c).Follows signals (history ++ notices) l' ∧
      notices.filterMap Notice.report? = [] := by
  obtain ⟨notices, l', hspawned, hnone⟩ := Machine.Follows.spawn hhost h c
    (c.background && !s.machine.kernel.mode.isForegroundOnly) line
  rw [launch]
  cases hspawn : s.machine.spawn host c
      (c.background && !s.machine.kernel.mode.isForegroundOnly) with
  | mk answer m =>
      rw [hspawn] at hspawned
      dsimp only at hspawned ⊢
      cases answer with
      | error f =>
          have hconcluded := hspawned.conclude fun pid h => by cases h
          exact ⟨notices, l', hconcluded.same rfl rfl rfl, hnone⟩
      | ok launched =>
          cases launched with
          | foreground ended =>
              have hconcluded := hspawned.conclude fun pid h => by cases h
              refine ⟨notices, l', ?_, hnone⟩
              cases ended with
              | none => exact hconcluded.same rfl rfl rfl
              | some t => cases t <;> exact hconcluded.same rfl rfl rfl
          | background pid =>
              -- the handler may run once more before the pid is registered
              have hpause := Machine.pause_drifts hspawned.orderly
              obtain ⟨incidents, run⟩ := Launching.Run.of_drifts .absent c
                (c.background && !s.machine.kernel.mode.isForegroundOnly)
                (.returned (.ok (.background pid))) hpause.kernel
              obtain ⟨later, l'', hpaused, hnone'⟩ :=
                hspawned.launching (hspawned.orderly.of_drifts hpause) run
              obtain ⟨last, l₃, hregistered, hnone''⟩ := hpaused.register
              refine ⟨notices ++ later ++ last, l₃, ?_, ?_⟩
              · rw [← List.append_assoc, ← List.append_assoc]
                exact hregistered.same rfl rfl rfl
              · rw [List.filterMap_append, List.filterMap_append, hnone, hnone', hnone'']
                rfl

/-- The system gives the pid of a child that was collected to the next child, before the end of
the first one was reported. The report is then the one of the second child, which still runs and
is tracked no longer. -/
theorem notify_reports_running_child :
    ∃ (host : Host) (s t u : Shell), host.Ends ∧ s.Follows {} [] {} ∧
      s.executeLine host "p &" = .running t ∧ t.executeLine host "q &" = .running u ∧
      u.jobs.jobs = [{ pid := 7, input := "q &" }] ∧ u.machine.kernel.isRunning 7 = true ∧
      u.notify.jobs = {} ∧ u.notify.machine.kernel.isRunning 7 = true ∧
      u.notify.machine.output = u.machine.output ++
        Text.encode "background pid 7 is done: exit value 0\n" := by
  let host : Host :=
    { run e around :=
        if e.arguments = ["p"] then
          .ended ⟨around.files, around.ahead, [], [], [], []⟩ (Termination.exitStatus 0)
        else
          .asleep ⟨around.files, around.ahead, [], [], [], []⟩ 1000 fun around =>
            .ended ⟨around.files, around.ahead, [], [], [], []⟩ (Termination.exitStatus 3) }
  let s : Shell := { machine := {
    kernel := { signals := .forShell {} }
    files := { entries :=
      [([], .directory), (["p"], .program "p"), (["q"], .program "q"),
        (["dev"], .directory), (["dev", "null"], .file [])] }
    places := ["/"]
    outside := { forks := [.preferring 7, .preferring 7] } } }
  refine ⟨host, s, _, _, ?_, ?_, rfl, rfl, ?_, ?_, ?_, ?_, ?_⟩
  · intro e around
    dsimp only [host]
    split
    · exact .ended rfl
    · exact .asleep fun around => .ended rfl
  · exact follows_start rfl rfl ⟨rfl, nofun, nofun, nofun, nofun⟩
  all_goals decide +kernel

end Shell

end JobShell
