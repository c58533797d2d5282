import JobShell.Proofs.Machine.Launch
import JobShell.Proofs.Tracking.Accounting
import JobShell.Shell.Interpreter

/-!
# What the shell does is a run

The steps of `Tracking.Step` are those that the shell really takes. `Machine.Traced` says of a
machine, with a job table and a stage, that some run leads there; pauses, launches, waits and
notifications go on from traced machines to traced machines (`Shell.traced_notify`,
`Shell.traced_launch`), and the history grows by what the shell has done (`Event.ofShell`) and
by the ends of children in between.

What is assumed is what the system promises: a new child gets no pid that is still tracked,
children are collected for ends only, and a wait is at most interrupted.
-/

namespace JobShell

namespace Event

/-- Whether an event is an end, which comes about without the shell. -/
def isEnd : Event → Bool
  | ended _ _ => true
  | _ => false

/-- The events that the shell itself has brought about. -/
def ofShell (events : List Event) : List Event :=
  events.filter fun event => !event.isEnd

theorem ofShell_append (events later : List Event) :
    ofShell (events ++ later) = ofShell events ++ ofShell later :=
  List.filter_append ..

theorem ofShell_map_ofFact (facts : List Fact) : ofShell (facts.map ofFact) = [] := by
  rw [ofShell, List.filter_eq_nil_iff]
  intro event hevent
  obtain ⟨fact, -, rfl⟩ := List.mem_map.1 hevent
  exact Bool.false_ne_true

end Event

theorem Event.ofShell_map_ofReport (reports : List (Pid × Termination)) :
    ofShell (reports.map ofReport) = reports.map ofReport := by
  rw [ofShell, List.filter_eq_self]
  intro event hevent
  rcases List.mem_map.1 hevent with ⟨report, -, rfl⟩
  rfl

theorem Tracking.Run.of_drift {supply : PidSupply} {s : Tracking} {facts : List Fact} {k : Kernel}
    (drift : s.kernel.Drift facts k) :
    Run supply s (facts.map Event.ofFact) { s with kernel := k } := by
  induction drift with
  | refl => exact .nil
  | tail drift move ih =>
      rw [List.map_append]
      exact ih.snoc (.move { s with kernel := _ } move)

/-- A wait finds the first status word that is left of a pid. -/
theorem Kernel.reap_fst (k : Kernel) (pid : Pid) :
    (k.reap pid).1 = (statusesOf pid k.reapable).head? := by
  rw [statusesOf, List.head?_map, List.head?_filter, reap]
  split <;> simp only [*] <;> rfl

/-- In a balanced state a foreground child that has ended is found by the wait for it. -/
theorem Tracking.Balanced.reap_of_ended {s : Tracking} {history : List Event}
    (h : s.Balanced history) {pid : Pid} (hstage : s.stage = .waiting pid)
    (hended : s.kernel.isRunning pid = false) :
    ∃ status t, (s.kernel.reap pid).1 = some status ∧
      Termination.ofStatus? status = some t := by
  obtain ⟨fate, -, hagrees⟩ := h.accounted pid
  cases fate with
  | free =>
      have hnone : s.stage.launching pid = none := hagrees.2.2.2
      rw [hstage, Stage.launching, if_pos rfl] at hnone
      cases hnone
  | running background =>
      have hmem : pid ∈ s.kernel.runningPids :=
        List.count_pos_iff.1 (Nat.lt_of_lt_of_eq Nat.zero_lt_one hagrees.1.symm)
      rw [Kernel.mem_runningPids, hended] at hmem
      cases hmem
  | ended background status =>
      rcases hagrees with ⟨-, hone, hend, -⟩
      have hlog : statusesOf pid s.kernel.log.waiting = [] := by
        rw [List.eq_nil_iff_forall_not_mem]
        intro other hother
        exact (h.withheld pid hstage).2 (List.mem_map.2 ⟨_, mem_statusesOf.1 hother, rfl⟩)
      have hleft : statusesOf pid s.kernel.reapable = [status] := by
        change statusesOf pid (s.kernel.log.waiting ++ s.kernel.reapable) = [status] at hone
        rwa [statusesOf_append, hlog, List.nil_append] at hone
      obtain ⟨t, ht⟩ := Option.isSome_iff_exists.1 hend
      exact ⟨status, t, by rw [s.kernel.reap_fst, hleft]; rfl, ht⟩

/-- No notification makes a child keep a signal that there is not. -/
theorem Kernel.Known.drainBatches {k : Kernel} (h : k.Known) (passes : Nat) :
    (Kernel.drainBatches passes k).2.Known := by
  induction passes generalizing k with
  | zero => exact h
  | succ passes ih =>
      rw [Kernel.drainBatches]
      split
      · exact ih (Known.raiseChild (k := k.takeLog) h)
      · exact h

/-- Asking the tracked jobs to terminate is what can happen by itself. -/
theorem JobTable.terminateAll_drifts {k : Kernel} (hhandler : k.signals.child = .handler)
    (hknown : k.Known) (jobs : JobTable) (denials : Denials) :
    k.Drifts (jobs.terminateAll k denials).2 := by
  change k.Drifts (jobs.pids.foldl (terminate denials) k)
  induction jobs.pids generalizing k with
  | nil => exact .refl k
  | cons pid pids ih =>
      have hfirst := Kernel.kill_drifts hhandler hknown denials pid Signal.terminate
      rw [List.foldl_cons, terminate_eq]
      refine hfirst.trans (ih ?_ (hfirst.known hknown))
      rw [hfirst.signals_eq, hhandler]

/-- Some run leads to the machine, with this history, this job table and this stage. -/
structure Machine.Traced (m : Machine) (signals : SignalSetup) (history : List Event)
    (jobs : JobTable) (stage : Stage) : Prop where
  orderly : m.Orderly
  run :
    Tracking.Run .untracked (Tracking.start signals) history { jobs, kernel := m.kernel, stage }

namespace Machine

section Traced

variable {m m' : Machine} {signals : SignalSetup} {history : List Event} {jobs : JobTable}
  {stage : Stage}

theorem Traced.drifts (h : m.Traced signals history jobs stage) (hdrifts : m.Drifts m') :
    ∃ events, m'.Traced signals (history ++ events) jobs stage ∧ Event.ofShell events = [] := by
  rcases hdrifts.kernel with ⟨facts, drift⟩
  refine ⟨facts.map Event.ofFact, ⟨h.orderly.of_drifts hdrifts, ?_⟩, ?_⟩
  · exact h.run.append (.of_drift drift)
  · exact Event.ofShell_map_ofFact facts

/-- Where neither the kernel nor what is still to come has changed, the same run leads. -/
theorem Traced.same (h : m.Traced signals history jobs stage) (hkernel : m'.kernel = m.kernel)
    (hsleepers : m'.sleepers = m.sleepers) (houtside : m'.outside = m.outside) :
    m'.Traced signals history jobs stage where
  orderly := h.orderly.of_drifts (.of_kernel (hkernel ▸ .refl _) hsleepers houtside)
  run := by
    rw [hkernel]
    exact h.run

theorem Traced.mask (h : m.Traced signals history jobs stage) (mask : SignalSet)
    (hheld : ∀ pid, stage = .waiting pid → mask.contains Signal.child = true) :
    (m.mapKernel fun k => k.setMask mask).Traced signals history jobs stage where
  orderly := h.orderly.setMask mask
  run := by
    have hmask := h.run.snoc (.mask _ mask hheld)
    rwa [List.append_nil] at hmask

theorem Traced.launched (h : m.Traced signals history jobs .idle) {pid : Pid}
    (setup : SignalSetup) (background : Bool) (hfree : pid ∉ jobs.pids)
    (hblocked : m.kernel.signals.childBlocked = true) :
    (m.mapKernel fun k => k.start pid setup).Traced signals
      (history ++ [.launched pid background]) jobs (.ofLaunch pid background) where
  orderly := h.orderly.start pid setup
  run := by
    cases background with
    | true => exact h.run.snoc (.launchBackground _ pid setup rfl hfree)
    | false => exact h.run.snoc (.launchForeground _ pid setup rfl hblocked hfree)

theorem Traced.registered {pid : Pid} (h : m.Traced signals history jobs (.handed pid))
    (line : String) : m.Traced signals history (jobs.create pid line) .idle where
  orderly := h.orderly
  run := by
    have hregister := h.run.snoc (.register _ pid line rfl)
    rwa [List.append_nil] at hregister

theorem Traced.waited {pid : Pid} (h : m.Traced signals history jobs (.waiting pid))
    (hended : m.kernel.isRunning pid = false) :
    ∃ status t, (m.kernel.reap pid).1 = some status ∧ Termination.ofStatus? status = some t ∧
      Traced { m with kernel := (m.kernel.reap pid).2 } signals (history ++ [.waited pid t])
        jobs .idle := by
  obtain ⟨status, t, hreap, hend⟩ := h.run.balanced.reap_of_ended rfl hended
  refine ⟨status, t, hreap, hend, h.orderly.reap pid, ?_⟩
  exact h.run.snoc (.wait _ pid status t rfl hreap hend)

end Traced

section Spawn

variable {m : Machine} {signals : SignalSetup} {history : List Event} {jobs : JobTable}

/-- The machine at the moment at which a launch asks for a pid. -/
def beforeFork (m : Machine) : Machine :=
  (m.mapKernel fun k => k.setChildBlocked true).pause

theorem Traced.beforeFork (h : m.Traced signals history jobs .idle) :
    m.beforeFork.kernel.signals.childBlocked = true ∧
      ∃ events, m.beforeFork.Traced signals (history ++ events) jobs .idle ∧
        Event.ofShell events = [] := by
  have hmask : (m.mapKernel fun k => k.setChildBlocked true).Traced signals history jobs .idle :=
    h.mask (m.kernel.signals.mask.insert Signal.child) nofun
  have hpause := pause_drifts hmask.orderly
  refine ⟨?_, hmask.drifts hpause⟩
  rw [Machine.beforeFork, hpause.kernel.signals_eq]
  exact Kernel.childBlocked_setChildBlocked _ _

/-- A child starts up and runs by itself until the shell goes on. -/
theorem Traced.runChild {host : Host} (hhost : host.Ends)
    (h : m.Traced signals history jobs .idle) {pid : Pid} (image : ChildImage)
    (before : SignalSet) (background : Bool) (hfree : pid ∉ jobs.pids)
    (hblocked : m.kernel.signals.childBlocked = true) :
    (m.runChild host image pid before).pause.Wakes pid ∧
      ∃ events, (m.runChild host image pid before).pause.Traced signals
          (history ++ events) jobs (.ofLaunch pid background) ∧
        Event.ofShell events = [.launched pid background] := by
  rcases runChild_drifts hhost h.orderly pid image before with ⟨hchild, hwakes⟩
  have hstart := h.launched (.forChild (!image.background) before) background hfree
    hblocked
  have hpause := pause_drifts (hstart.orderly.of_drifts hchild)
  refine ⟨hwakes.pause (hstart.orderly.of_drifts hchild), ?_⟩
  obtain ⟨events, htraced, hevents⟩ := hstart.drifts (hchild.trans hpause)
  refine ⟨_, List.append_assoc .. ▸ htraced, ?_⟩
  rw [Event.ofShell_append, hevents]
  rfl

/-- The wait for a foreground child that goes on by itself finds out how it has ended. -/
theorem Traced.waitForeground {pid : Pid} (h : m.Traced signals history jobs (.waiting pid))
    (hwakes : m.Wakes pid) :
    ∃ t m' events, m.waitForeground pid = (.ok (some t), m') ∧
      m'.Traced signals (history ++ events) jobs .idle ∧
        Event.ofShell events = [.waited pid t] := by
  have hpause := pause_drifts h.orderly
  have horderly := h.orderly.of_drifts hpause
  rcases h.drifts (hpause.trans (awaitEnd_drifts horderly pid)) with ⟨events, htraced, hevents⟩
  have hended := isRunning_awaitEnd horderly pid (hwakes.pause h.orderly)
  obtain ⟨status, t, hreap, hend, hwaited⟩ := htraced.waited hended
  have hover : Drifts
      { m.pause.awaitEnd pid with kernel := ((m.pause.awaitEnd pid).kernel.reap pid).2 }
      { m.pause.awaitEnd pid with
        kernel := ((m.pause.awaitEnd pid).kernel.reap pid).2
        outside := { (m.pause.awaitEnd pid).outside with waitErrors := [] } } :=
    ⟨.refl _, fun _ hs => Or.inl hs, fun _ hevents => hevents, nofun⟩
  rcases hwaited.drifts hover with ⟨later, hlast, hlater⟩
  refine ⟨t, _, events ++ [.waited pid t] ++ later,
    waitForeground_eq htraced.orderly hreap hend, ?_, ?_⟩
  · simpa only [List.append_assoc] using hlast
  · rw [Event.ofShell_append, Event.ofShell_append, hevents, hlater]
    rfl

/-- How far the main loop is after a launch with this answer. -/
def stageAfter : Except Failure Launched → Stage
  | .ok (.background pid) => .handed pid
  | .ok (.foreground _) => .idle
  | .error _ => .idle

/-- What the shell has done in a launch with this answer. -/
def Did (answer : Except Failure Launched) (events : List Event) : Prop :=
  match answer with
  | .ok (.background pid) => events = [.launched pid true]
  | .ok (.foreground ended) =>
    ∃ pid t, ended = some t ∧ events = [.launched pid false, .waited pid t]
  | .error _ => events = []

/-- A launch is a run: of a child that is waited for, of one that is handed on, or of nothing
at all if it fails. -/
theorem Traced.spawn {host : Host} (hhost : host.Ends)
    (h : m.Traced signals history jobs .idle) (c : Command) (background : Bool)
    (hfree : ∀ pid, m.beforeFork.fork.1 = .ok pid → pid ∉ jobs.pids) :
    ∃ events,
      (m.spawn host c background).2.Traced signals (history ++ events) jobs
          (stageAfter (m.spawn host c background).1) ∧
        Did (m.spawn host c background).1 (Event.ofShell events) := by
  rw [Machine.spawn]
  split
  · exact ⟨[], by rwa [List.append_nil], rfl⟩
  · next image himage =>
      obtain ⟨hblocked, before, hbefore, hbeforeNone⟩ := h.beforeFork
      have hasks := fork_drifts m.beforeFork
      rcases hbefore.drifts hasks with ⟨asked, hasked, haskedNone⟩
      have hkept : m.beforeFork.fork.2.kernel.signals.childBlocked = true := by
        rw [hasks.kernel.signals_eq, hblocked]
      cases hfork : m.beforeFork.fork with
      | mk answer m' =>
          rw [hfork] at hasked hkept hfree
          rw [Machine.beforeFork] at hfork
          dsimp only
          rw [hfork]
          cases answer with
          | error e =>
              refine ⟨before ++ asked, ?_, ?_⟩
              · have hmask := hasked.mask m.kernel.signals.mask nofun
                rwa [List.append_assoc] at hmask
              · rw [Event.ofShell_append, hbeforeNone, haskedNone]
                exact rfl
          | ok pid =>
              obtain ⟨hwakes, child, hchild, hchildShell⟩ := hasked.runChild hhost image
                m.kernel.signals.mask background (hfree pid rfl) hkept
              cases background with
              | true =>
                  refine ⟨before ++ asked ++ child, ?_, ?_⟩
                  · have hmask := hchild.mask m.kernel.signals.mask nofun
                    simp only [List.append_assoc] at hmask ⊢
                    exact hmask.same rfl rfl rfl
                  · rw [Event.ofShell_append, Event.ofShell_append, hbeforeNone, haskedNone,
                      hchildShell]
                    exact rfl
              | false =>
                  obtain ⟨t, last, waited, hwait, hlast, hwaitedShell⟩ :=
                    hchild.waitForeground hwakes
                  dsimp only
                  rw [if_neg Bool.false_ne_true, hwait]
                  refine ⟨before ++ asked ++ child ++ waited, ?_, pid, t, rfl, ?_⟩
                  · have hmask := hlast.mask m.kernel.signals.mask nofun
                    simp only [List.append_assoc] at hmask ⊢
                    exact hmask
                  · rw [Event.ofShell_append, Event.ofShell_append, Event.ofShell_append,
                      hbeforeNone, haskedNone, hchildShell, hwaitedShell]
                    rfl

end Spawn

end Machine

namespace Shell

/-- Some run leads to the shell at the head of its loop, with this history. -/
def Traced (s : Shell) (signals : SignalSetup) (history : List Event) : Prop :=
  s.machine.Traced signals history s.jobs .idle

/-- The tracked jobs and what the shell shares with its handlers. -/
def tracking (s : Shell) : Tracking where
  jobs := s.jobs
  kernel := s.machine.kernel

variable {s : Shell} {signals : SignalSetup} {history : List Event}

/-- A shell that has only installed its handlers has no history. -/
theorem traced_start (hkernel : s.machine.kernel = { signals := signals.forShell })
    (hjobs : s.jobs = {}) (hsleepers : s.machine.sleepers = [])
    (harrivals : ∀ events ∈ s.machine.outside.arrivals, ∀ a ∈ events, Arrival.Ends a)
    (hwaits : ∀ e ∈ s.machine.outside.waitErrors, e = .interrupted) :
    s.Traced signals [] where
  orderly :=
    { handler := by rw [hkernel]; rfl
      known := by rw [hkernel]; nofun
      sleepers := by rw [hsleepers]; nofun
      arrivals := harrivals
      waits := hwaits }
  run := by
    rw [hkernel, hjobs]
    exact .nil

theorem traced_pause (h : s.Traced signals history) :
    ∃ events, s.pause.Traced signals (history ++ events) ∧ Event.ofShell events = [] :=
  h.drifts (Machine.pause_drifts h.orderly)

/-- A notification is a run, and shows what it reports. -/
theorem traced_notify (h : s.Traced signals history) :
    s.notify.Traced signals (history ++ s.tracking.reports.map Event.ofReport) ∧
      s.notify.machine.output =
        s.machine.output ++ Text.encode (JobTable.reportText s.tracking.reports) := by
  have hbalanced : s.tracking.Balanced history := h.run.balanced
  have hkernel := s.tracking.kernel_notified .healthy
  obtain ⟨-, -, hsignals, -⟩ :=
    Kernel.drainBatches_conserves JobTable.maxDrainPasses hbalanced.sound
  refine ⟨⟨⟨?_, ?_, h.orderly.sleepers, h.orderly.arrivals, h.orderly.waits⟩, ?_⟩, ?_⟩
  · change (s.tracking.notified .healthy).kernel.signals.child = _
    rw [hkernel, hsignals]
    exact h.orderly.handler
  · change (s.tracking.notified .healthy).kernel.Known
    rw [hkernel]
    exact h.orderly.known.drainBatches _
  · exact h.run.snoc (.notify _ .healthy rfl)
  · have htext : (s.jobs.notify .healthy s.machine.kernel).2.1.text =
        "" ++ JobTable.reportText s.tracking.reports :=
      s.tracking.text_notified .healthy fun _ _ => rfl
    change s.machine.output ++ Text.encode (s.jobs.notify .healthy _).2.1.text = _
    rw [htext, String.empty_append]

theorem traced_announce (h : s.Traced signals history) : s.announce.Traced signals history := by
  have hprint (modes : List Mode) (s : Shell) (h : s.Traced signals history) :
      (modes.foldl (fun s mode => s.print (mode.announcement ++ "\n")) s).Traced signals
        history := by
    induction modes generalizing s with
    | nil => exact h
    | cons mode modes ih => exact ih _ (h.same rfl rfl rfl)
  exact hprint _ _ h

/-- What happens before a line is read is a run; reports are all that the shell does. -/
theorem traced_greet (h : s.Traced signals history) :
    ∃ events, s.greet.Traced signals (history ++ events) ∧
      Event.ofShell events = s.pause.tracking.reports.map Event.ofReport := by
  obtain ⟨first, hfirst, hnone⟩ := traced_pause h
  rcases traced_pause (traced_notify hfirst).1 with ⟨second, hsecond, hnone'⟩
  obtain ⟨third, hthird, hnone''⟩ := traced_pause (traced_announce hsecond)
  simp only [List.append_assoc] at hthird
  refine ⟨_, hthird, ?_⟩
  rw [Event.ofShell_append, Event.ofShell_append, Event.ofShell_append,
    Event.ofShell_map_ofReport, hnone, hnone', hnone'']
  simp

/-- A launch is a run. -/
theorem traced_launch {host : Host} (hhost : host.Ends) (h : s.Traced signals history)
    (line : String) (c : Command)
    (hfree : ∀ pid, s.machine.beforeFork.fork.1 = .ok pid → pid ∉ s.jobs.pids) :
    ∃ events, (s.launch host line c).Traced signals (history ++ events) ∧
      Machine.Did
        (s.machine.spawn host c
          (c.background && !s.machine.kernel.mode.isForegroundOnly)).1
        (Event.ofShell events) := by
  obtain ⟨events, htraced, hdid⟩ := Machine.Traced.spawn hhost h c
    (c.background && !s.machine.kernel.mode.isForegroundOnly) hfree
  rw [launch]
  cases hspawn : s.machine.spawn host c
      (c.background && !s.machine.kernel.mode.isForegroundOnly) with
  | mk answer m =>
      rw [hspawn] at htraced hdid
      dsimp only
      match answer with
      | .error f => exact ⟨events, htraced.same rfl rfl rfl, hdid⟩
      | .ok (.foreground ended) =>
          rcases hdid with ⟨pid, t, rfl, hevents⟩
          refine ⟨events, ?_, pid, t, rfl, hevents⟩
          cases t <;> exact htraced.same rfl rfl rfl
      | .ok (.background pid) =>
          obtain ⟨later, hpause, hlater⟩ :=
            htraced.drifts (Machine.pause_drifts htraced.orderly)
          have hregister := Machine.Traced.registered hpause line
          rw [List.append_assoc] at hregister
          refine ⟨events ++ later, hregister.same rfl rfl rfl, ?_⟩
          rw [Event.ofShell_append, hlater, List.append_nil]
          exact hdid

/-- Leaving is a run up to the last moment, in which nothing is launched, waited for or
reported. -/
theorem traced_exit (h : s.Traced signals history) (code : Option Int) :
    ∃ status m events, s.exit code = .left status m ∧
      m.Traced signals (history ++ events) s.jobs .idle ∧ Event.ofShell events = [] := by
  have hprint : ∃ s', (if s.config.showMessages = true then s.print "exit\n" else s) = s' ∧
      s'.Traced signals history ∧ s'.jobs = s.jobs := by
    split
    · exact ⟨_, rfl, h.same rfl rfl rfl, rfl⟩
    · exact ⟨_, rfl, h, rfl⟩
  obtain ⟨s', hs', htraced, hjobs⟩ := hprint
  have hkill := s'.jobs.terminateAll_drifts htraced.orderly.handler htraced.orderly.known
    s'.machine.outside.denials
  have hdrifts : s'.machine.Drifts
      { s'.machine with
        kernel := (s'.jobs.terminateAll s'.machine.kernel s'.machine.outside.denials).2 } :=
    .of_kernel hkill rfl rfl
  rcases Machine.Traced.drifts htraced hdrifts with ⟨events, hlast, hevents⟩
  rw [exit, hs']
  exact ⟨_, _, events, rfl, hjobs ▸ hlast, hevents⟩

end Shell

end JobShell
