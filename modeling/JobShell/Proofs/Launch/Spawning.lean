import JobShell.Proofs.Launch.Attending
import JobShell.Proofs.Tracking.Shell

/-!
# Launches of the machine

What the machine does to launch a command is a run in which a wait is refused only where there is
no child (`Machine.run_spawn`), so what holds of every such run holds of it.
-/

namespace JobShell

namespace Machine

open Launching

variable {m m' : Machine} {c : Command} {background : Bool} {pid : Pid}

theorem le_foldl_max {pids : List Pid} (h : pid ∈ pids) (least : Pid) :
    pid ≤ pids.foldl max least := by
  have hleast (pids : List Pid) (least : Pid) : least ≤ pids.foldl max least := by
    induction pids generalizing least with
    | nil => exact Int.le_refl least
    | cons other pids ih => exact Int.le_trans (Int.le_max_left least other) (ih _)
  induction pids generalizing least with
  | nil => cases h
  | cons other pids ih =>
      cases h with
      | head => exact Int.le_trans (Int.le_max_right least pid) (hleast pids _)
      | tail _ h => exact ih h _

/-- No uncollected child holds a fresh pid. -/
theorem holds_freshPid (m : Machine) : m.kernel.holds m.freshPid = false := by
  rw [Kernel.holds_eq_false_iff]
  intro hmem
  have hle : m.freshPid ≤ m.kernel.childPids.foldl max m.lastPid := le_foldl_max hmem m.lastPid
  exact absurd hle (Int.not_le.2 (Int.lt_add_one_iff.2 (Int.le_refl _)))

theorem kernel_fork (m : Machine) : m.fork.2.kernel = m.kernel := by
  rw [fork]
  split
  · rfl
  · rfl
  · dsimp only
    split <;> rfl

theorem holds_of_fork (h : m.fork.1 = .ok pid) : m.kernel.holds pid = false := by
  rw [fork] at h
  split at h
  · cases h
    exact m.holds_freshPid
  · cases h
  · next preferred later hforks =>
      dsimp only at h
      split at h
      · cases h
        exact holds_freshPid { m with outside := { m.outside with forks := later } }
      · next hfree =>
          cases h
          exact Bool.eq_false_iff.2 hfree

section Run

theorem Orderly.guarded (h : m.Orderly) : (m.mapKernel fun k => k.setChildBlocked true).Orderly :=
  h.setMask (m.kernel.signals.mask.insert Signal.child)

theorem Orderly.beforeFork (h : m.Orderly) : m.beforeFork.Orderly :=
  h.guarded.of_drifts (pause_drifts h.guarded)

/-- A launch blocks the child signal and asks for a child. -/
theorem run_beforeFork (h : m.Orderly) {image : ChildImage}
    (himage : ChildImage.ofCommand c background = .ok image) :
    ∃ history, Run .absent c background ⟨.entering, m.kernel⟩ history
      ⟨.guarded m.kernel.signals.mask, m.beforeFork.kernel⟩ := by
  have hguard : Run .absent c background ⟨.entering, m.kernel⟩ _
      ⟨.guarded m.kernel.signals.mask, m.kernel.setChildBlocked true⟩ :=
    .of_step (.guard m.kernel image himage)
  obtain ⟨later, hlater⟩ := Run.of_drifts .absent c background
    (.guarded m.kernel.signals.mask) (pause_drifts h.guarded).kernel
  exact ⟨_, hguard.append hlater⟩

/-- A wait that finds the child ended is the last one that collects. -/
theorem run_wait {k : Kernel} (before : SignalSet) {status : StatusWord} {t : Termination}
    (hreap : (k.reap pid).1 = some status) (hend : Termination.ofStatus? status = some t) :
    ∃ history, Run .absent c background ⟨.waiting before pid, k⟩ history
      ⟨.leaving before (.ok (.foreground (some t))), (k.reap pid).2⟩ := by
  have hwait : Run .absent c background ⟨.waiting before pid, k⟩
      [.collected .launcher ⟨pid, status⟩] ⟨.waited before pid t, (k.reap pid).2⟩ := by
    have step : Step .absent c background _ _ _ := .wait k before pid status hreap
    rw [afterWait, hend] at step
    exact .of_step step
  cases hsuccess : t.isSuccess with
  | true => exact ⟨_, hwait.snoc (.succeed _ before pid t hsuccess)⟩
  | false =>
      have step : Step .absent c background _ _ _ := .ensure (k.reap pid).2 before pid t hsuccess
      rw [Kernel.reap_reap] at step
      exact ⟨_, hwait.snoc step⟩

/-- A foreground child that goes on by itself is waited for. -/
theorem run_waitForeground (h : m.Orderly) (hwakes : m.Wakes pid) {before : SignalSet}
    {k : Kernel} (hready : k.Ready) (hfree : k.holds pid = false)
    (hblocked : k.signals.childBlocked = true) {signals : SignalSetup} {since : List Incident}
    (hsince : Run .absent c background ⟨.waiting before pid, k.start pid signals⟩ since
      ⟨.waiting before pid, m.kernel⟩) :
    ∃ t m' history, m.waitForeground pid = (.ok (some t), m') ∧
      Run .absent c background ⟨.waiting before pid, m.kernel⟩ history
        ⟨.leaving before (.ok (.foreground (some t))), m'.kernel⟩ := by
  have hpause := pause_drifts h
  have horderly := h.of_drifts hpause
  have hawait := hpause.trans (awaitEnd_drifts horderly pid)
  obtain ⟨waiting, hwaiting⟩ :=
    Run.of_drifts .absent c background (.waiting before pid) hawait.kernel
  have hended := isRunning_awaitEnd horderly pid (hwakes.pause h)
  have hfound : ∃ status t, ((m.pause.awaitEnd pid).kernel.reap pid).1 = some status ∧
      Termination.ofStatus? status = some t := by
    cases (hsince.append hwaiting).attended hready hfree hblocked with
    | waiting _ _ present => exact present.reap_of_ended hended
  obtain ⟨status, t, hreap, hend⟩ := hfound
  obtain ⟨waited, hwaited⟩ := run_wait before hreap hend
  exact ⟨t, _, _, waitForeground_eq (h.of_drifts hawait) hreap hend, hwaiting.append hwaited⟩

/-- A child starts under a pid that the system has given, and runs by itself until the shell goes
on. -/
theorem run_runChild (c : Command) (background : Bool) {host : Host} (hhost : host.Ends)
    (h : m.Orderly) (pid : Pid) (image : ChildImage) (before : SignalSet) :
    (m.runChild host image pid before).pause.Orderly ∧
      (m.runChild host image pid before).pause.Wakes pid ∧
        ∃ since, Run .absent c background
          ⟨afterFork background before pid,
            m.kernel.start pid (.forChild (!image.background) before)⟩ since
          ⟨afterFork background before pid, (m.runChild host image pid before).pause.kernel⟩ := by
  obtain ⟨hchild, hwakes⟩ := runChild_drifts hhost h pid image before
  have horderly := (h.start pid (.forChild (!image.background) before)).of_drifts hchild
  have hpause := pause_drifts horderly
  exact ⟨horderly.of_drifts hpause, hwakes.pause horderly,
    Run.of_drifts .absent c background _ (hchild.trans hpause).kernel⟩

/-- A launch to which the system has given a child runs to its end: the child is handed on, or
waited for. -/
theorem run_spawn_of_fork {host : Host} (hhost : host.Ends) {image : ChildImage}
    (himage : ChildImage.ofCommand c background = .ok image)
    (hfork : m.beforeFork.fork = (.ok pid, m')) (h : m'.Orderly) (hready : m'.kernel.Ready)
    (hblocked : m'.kernel.signals.childBlocked = true) (hfree : m'.kernel.holds pid = false) :
    ∃ since, Run .absent c background ⟨.guarded m.kernel.signals.mask, m'.kernel⟩
      (.forked pid :: since)
      ⟨.returned (m.spawn host c background).1, (m.spawn host c background).2.kernel⟩ := by
  rw [beforeFork] at hfork
  rw [spawn, himage]
  dsimp only
  rw [hfork]
  generalize m.kernel.signals.mask = before
  have hforked : Run .absent c background ⟨.guarded before, m'.kernel⟩ [.forked pid]
      ⟨afterFork background before pid,
        m'.kernel.start pid (.forChild (!image.background) before)⟩ :=
    .of_step (.fork m'.kernel before pid _ hfree)
  obtain ⟨horderly, hwakes, since, hsince⟩ :=
    run_runChild c background hhost h pid image before
  cases background with
  | true => exact ⟨_, hforked.append (hsince.snoc (.leave ..))⟩
  | false =>
      obtain ⟨t, m'', waited, hwait, hwaited⟩ :=
        run_waitForeground horderly hwakes hready hfree hblocked hsince
      dsimp only
      rw [if_neg Bool.false_ne_true, hwait]
      exact ⟨_, hforked.append ((hsince.append hwaited).snoc (.leave ..))⟩

/-- A launch to which the system gives no child goes back to the mask. -/
theorem run_spawn_of_refused (host : Host) {image : ChildImage}
    (himage : ChildImage.ofCommand c background = .ok image) {e : Errno}
    (hfork : m.beforeFork.fork = (.error e, m')) :
    ∃ history, Run .absent c background ⟨.guarded m.kernel.signals.mask, m'.kernel⟩ history
      ⟨.returned (m.spawn host c background).1, (m.spawn host c background).2.kernel⟩ := by
  rw [beforeFork] at hfork
  rw [spawn, himage]
  dsimp only
  rw [hfork]
  have hrefuse : Run .absent c background ⟨.guarded m.kernel.signals.mask, m'.kernel⟩ [] _ :=
    .of_step (.refuseFork m'.kernel _ e)
  exact ⟨_, hrefuse.snoc (.leave ..)⟩

/-- What the machine does to launch a command is a run, and a child that the system gives has
started in it. -/
theorem run_spawn {host : Host} (hhost : host.Ends) (h : m.Orderly) (hready : m.kernel.Ready)
    (c : Command) (background : Bool) :
    ∃ history, Run .absent c background ⟨.entering, m.kernel⟩ history
        ⟨.returned (m.spawn host c background).1, (m.spawn host c background).2.kernel⟩ ∧
      ∀ pid image, ChildImage.ofCommand c background = .ok image →
        m.beforeFork.fork.1 = .ok pid → .forked pid ∈ history := by
  cases himage : ChildImage.ofCommand c background with
  | error f =>
      refine ⟨[], ?_, fun _ _ hok => by cases hok⟩
      rw [spawn, himage]
      exact .of_step (.refuse m.kernel f himage)
  | ok image =>
      obtain ⟨first, hfirst⟩ := run_beforeFork h himage
      have horderly := h.beforeFork.of_drifts m.beforeFork.fork_drifts
      have hkernel := m.beforeFork.kernel_fork
      cases hfork : m.beforeFork.fork with
      | mk answer m' =>
          rw [hfork] at horderly hkernel
          dsimp only at horderly hkernel
          rw [← hkernel] at hfirst
          cases answer with
          | error e =>
              obtain ⟨later, hlater⟩ := run_spawn_of_refused host himage hfork
              exact ⟨_, hfirst.append hlater, fun _ _ _ hok => by cases hok⟩
          | ok pid =>
              have hfree : m'.kernel.holds pid = false := by
                rw [hkernel]
                exact holds_of_fork (congrArg Prod.fst hfork)
              obtain ⟨since, hsince⟩ := run_spawn_of_fork hhost himage hfork horderly
                (hfirst.account hready).ready ((hfirst.masked rfl).childBlocked rfl) hfree
              refine ⟨_, hfirst.append hsince, fun other _ _ hother => ?_⟩
              cases hother
              exact List.mem_append_right _ List.mem_cons_self

/-- On every path out of a launch, whatever happens in it, the mask is the one that was in force
before. -/
theorem mask_spawn (host : Host) (m : Machine) (c : Command) (background : Bool) :
    (m.spawn host c background).2.kernel.signals.mask = m.kernel.signals.mask := by
  have hrestored (m' : Machine) :
      (m'.kernel.setMask m.kernel.signals.mask).signals.mask = m.kernel.signals.mask := by
    rw [Kernel.signals_setMask]
  rw [spawn]
  split
  · rfl
  · dsimp only
    split
    · exact hrestored _
    · split
      · exact hrestored _
      · split <;> exact hrestored _

end Run

end Machine

namespace Launching

open Incident

/-- **Every child is collected once and by the right party**, whatever ends and whenever the
handler runs in the course of a launch. The launch collects its own foreground child and nothing
else; the handler collects all the others. If the system refuses to wait only where it is
documented to, which is where there is no such child, then the answer of the launch is how its
foreground child has ended, and the handler never records this child. On every path out of a
launch, whatever the system refuses, the whole mask is the one that was in force before. -/
theorem children_collected_once (c : Command) (background : Bool) :
    -- what the machine does is a run, and a foreground child that the system gives is waited for
    (∀ (host : Host) (m : Machine), host.Ends → m.Orderly → m.kernel.Ready →
      ∃ history, Run .absent c background ⟨.entering, m.kernel⟩ history
          ⟨.returned (m.spawn host c background).1, (m.spawn host c background).2.kernel⟩ ∧
        ∀ pid image, ChildImage.ofCommand c background = .ok image →
          m.beforeFork.fork.1 = .ok pid → .forked pid ∈ history ∧
            (background = false →
              ∃ t, (m.spawn host c background).1 = .ok (.foreground (some t)))) ∧
    (∀ (host : Host) (m : Machine),
      (m.spawn host c background).2.kernel.signals.mask = m.kernel.signals.mask) ∧
    ∀ (refuses : WaitRefusals) (k : Kernel) (history : List Incident) (s : Launching), k.Ready →
      Run refuses c background ⟨.entering, k⟩ history s →
      (refuses.Documented → background = false →
        ∀ earlier pid later, history = earlier ++ .forked pid :: later →
          -- the foreground child is never recorded in the log
          (∀ fact, .collected .handler fact ∈ later → fact.pid ≠ pid) ∧
          -- the answer is how this child has ended
          ∀ answer, s.stage = .returned answer →
            ∃ status t, answer = .ok (.foreground (some t)) ∧
              Termination.ofStatus? status = some t ∧ .ended ⟨pid, status⟩ ∈ later ∧
                collectedBy .launcher history = [⟨pid, status⟩]) ∧
      -- the waits collect nothing but this child
      (∀ fact, .collected .launcher fact ∈ history →
        background = false ∧ ∃ earlier later, history = earlier ++ .forked fact.pid :: later ∧
          .ended fact ∈ later ∧ .collected .launcher fact ∈ later) ∧
      -- the mask is put back
      (∀ answer, s.stage = .returned answer → s.kernel.signals.mask = k.signals.mask) ∧
      -- and nothing is collected twice or lost
      (k.reapable ++ endedIn history).Perm (collectedIn history ++ s.kernel.reapable) ∧
      s.kernel.log.waiting = k.log.waiting ++ collectedBy .handler history := by
  refine ⟨?_, fun host m => Machine.mask_spawn host m c background, ?_⟩
  · intro host m hhost h hready
    obtain ⟨history, run, hforked⟩ := Machine.run_spawn hhost h hready c background
    refine ⟨history, run, fun pid image himage hpid => ⟨hforked pid image himage hpid, ?_⟩⟩
    rintro rfl
    obtain ⟨earlier, later, rfl⟩ := List.append_of_mem (hforked pid image himage hpid)
    rcases run.concluded hready with ⟨t, hanswer, -⟩ | ⟨e, hrefused, -⟩
    · exact ⟨t, hanswer⟩
    · exact absurd hrefused (run.calm WaitRefusals.documented_absent hready e)
  intro refuses k history s hready run
  have account := run.account hready
  refine ⟨?_, fun fact hfact => run.own hready hfact, ?_, account.once, account.logged⟩
  · rintro hrefuses rfl earlier pid later rfl
    have hcalm := run.calm hrefuses hready
    refine ⟨fun fact hfact => ?_, fun answer hstage => ?_⟩
    · exact (run.attended_of_fork hready).spared hcalm fact (mem_collectedBy.2 hfact)
    · obtain ⟨stage, kernel⟩ := s
      obtain rfl : stage = .returned answer := hstage
      rcases run.concluded hready with ⟨t, hanswer, settled⟩ | ⟨e, hrefused, -⟩
      · obtain ⟨status, hend, hended, hown⟩ := settled.own
        refine ⟨status, t, hanswer, hend, hended, ?_⟩
        rw [collectedBy_append, run.launcher_earlier rfl]
        exact hown
      · exact absurd hrefused (hcalm e)
  · intro answer hstage
    have hmasked : s.Masked k.signals.mask := run.masked rfl
    rwa [Masked, hstage] at hmasked

/-- A background child and the foreground child both end while the child signal is blocked, and a
signal that has nothing to do with children was blocked before. The launch collects the second
child, and then the handler the first. -/
theorem children_collected_once_both_ended :
    (∃ (host : Host) (m : Machine) (history : List Incident),
      Run .absent { program := "false" } false ⟨.entering, m.kernel⟩ history
        ⟨.returned (m.spawn host { program := "false" } false).1,
          (m.spawn host { program := "false" } false).2.kernel⟩ ∧ .forked 1 ∈ history ∧
        ∃ t, (m.spawn host { program := "false" } false).1 = .ok (.foreground (some t))) ∧
    WaitRefusals.absent.Documented ∧
    ∃ (k : Kernel) (history : List Incident) (s : Launching),
      Run .absent { program := "false" } false ⟨.entering, k⟩ history s ∧
      history =
        [.forked 8, .ended ⟨7, Termination.exitStatus 3⟩, .ended ⟨8, Termination.signalStatus 9⟩,
          .collected .launcher ⟨8, Termination.signalStatus 9⟩,
          .collected .handler ⟨7, Termination.exitStatus 3⟩] ∧
      s.stage = .returned (.ok (.foreground (some (.signaled 9)))) ∧
      s.kernel.signals.mask = SignalSet.insert {} Signal.terminate ∧
      (∀ fact, .collected .handler fact ∈ history → fact.pid ≠ 8) ∧
      s.kernel.log.waiting = [⟨7, Termination.exitStatus 3⟩] := by
  let k : Kernel :=
    { children := [{ pid := 7 }]
      signals := .forShell { mask := SignalSet.insert {} Signal.terminate } }
  have hready : k.Ready := ⟨rfl, .empty, List.nodup_singleton 7⟩
  have guarded : Run .absent { program := "false" } false ⟨.entering, k⟩ _ _ :=
    .of_step (.guard k _ rfl)
  rw [Kernel.setChildBlocked_true] at guarded
  have forked := guarded.snoc (.fork _ k.signals.mask 8 (.forChild true k.signals.mask) rfl)
  have ended := forked.snoc (.move _ (.ends _ 7 (Termination.exitStatus 3) _ rfl rfl))
  have ended' := ended.snoc (.move _ (.ends _ 8 (Termination.signalStatus 9) _ rfl rfl))
  have waited := ended'.snoc (.wait _ k.signals.mask 8 (Termination.signalStatus 9) rfl)
  have ensured := waited.snoc (.ensure _ k.signals.mask 8 (.signaled 9) rfl)
  obtain ⟨history, s, left, hhistory, hstage⟩ :
      ∃ history s, Run .absent { program := "false" } false ⟨.entering, k⟩ history s ∧
        history =
          [.forked 8, .ended ⟨7, Termination.exitStatus 3⟩,
            .ended ⟨8, Termination.signalStatus 9⟩,
            .collected .launcher ⟨8, Termination.signalStatus 9⟩,
            .collected .handler ⟨7, Termination.exitStatus 3⟩] ∧
        s.stage = .returned (.ok (.foreground (some (.signaled 9)))) :=
    ⟨_, _, ensured.snoc (.leave _ k.signals.mask _), by decide +kernel, rfl⟩
  subst hhistory
  obtain ⟨hmachine, -, hrun⟩ := children_collected_once { program := "false" } false
  refine ⟨?_, WaitRefusals.documented_absent, ?_⟩
  · let host : Host :=
      { run _ around := .ended ⟨around.files, around.ahead, [], [], [], []⟩ 256 }
    let m : Machine := { kernel := { signals := .forShell {} } }
    have hends : host.Ends := fun _ _ => .ended rfl
    have horderly : m.Orderly := ⟨rfl, nofun, nofun, nofun, nofun⟩
    obtain ⟨history, run, hforked⟩ := hmachine host m hends horderly ⟨rfl, .empty, .nil⟩
    obtain ⟨hstarted, hanswer⟩ := hforked 1 _ rfl (by decide +kernel)
    exact ⟨host, m, history, run, hstarted, hanswer rfl⟩
  · obtain ⟨hown, -, hmask, -, hlog⟩ := hrun .absent k _ s hready left
    obtain ⟨hspared, -⟩ := hown WaitRefusals.documented_absent rfl [] 8 _ rfl
    refine ⟨k, _, s, left, rfl, hstage, hmask _ hstage, fun fact hfact => ?_, hlog⟩
    exact hspared fact ((List.mem_cons.1 hfact).resolve_left nofun)

end Launching

end JobShell
