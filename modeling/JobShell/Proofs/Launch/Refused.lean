import JobShell.Proofs.Launch.Requests
import JobShell.Proofs.Launch.Spawning
import JobShell.Proofs.Tracking.Due

/-!
# Launches of children that fail

A child that is refused a request has ended before the shell goes on, and the child signal is
blocked. So the end is left for the shell, whatever else happens: the wait for a foreground child
finds an exit with 1, and of a background child the shell has still to hear
(`Machine.due_spawn_of_refused`).
-/

namespace JobShell

namespace Machine

variable {m : Machine} {c : Command} {pid : Pid} {request : Request} {e : Errno}
  {files : FileSystem}

section Wait

theorem awaitEnd_of_ended (h : m.kernel.isRunning pid = false) : m.awaitEnd pid = m := by
  rw [awaitEnd, h]

/-- The wait for a child that is left finds out how it has ended, and changes nothing but the kernel
and what comes from outside. -/
theorem waitForeground_of_left (h : m.Orderly) (hblocked : m.kernel.signals.childBlocked = true)
    {status : StatusWord} {t : Termination} (hleft : m.kernel.Left pid status)
    (hend : Termination.ofStatus? status = some t) :
    ∃ kernel outside, m.waitForeground pid = (.ok (some t), { m with kernel, outside }) := by
  have hpause := pause_drifts h
  have hpaused := hleft.drifts hblocked hpause.kernel
  have hawait := awaitEnd_of_ended hpaused.ended
  have hreap : ((m.pause.awaitEnd pid).kernel.reap pid).1 = some status := by
    rw [hawait]
    exact hpaused.reap
  rw [waitForeground_eq (hawait.symm ▸ h.of_drifts hpause) hreap hend, hawait]
  obtain ⟨kernel, arrivals, -, heq⟩ := m.pause_eq
  rw [heq]
  exact ⟨_, _, rfl⟩

end Wait

section Fork

theorem holds_afterFork (hfork : m.beforeFork.fork.1 = .ok pid) :
    m.beforeFork.fork.2.kernel.holds pid = false := by
  rw [kernel_fork]
  exact holds_of_fork hfork

theorem Orderly.afterFork (h : m.Orderly) : m.beforeFork.fork.2.Orderly :=
  h.beforeFork.of_drifts m.beforeFork.fork_drifts

theorem Orderly.blocked_afterFork (h : m.Orderly) :
    m.beforeFork.fork.2.kernel.signals.childBlocked = true := by
  rw [kernel_fork, Machine.beforeFork, (pause_drifts h.guarded).kernel.signals_eq]
  exact m.kernel.childBlocked_setChildBlocked true

theorem Orderly.sound_afterFork (h : m.Orderly) (hsound : m.kernel.Sound) :
    m.beforeFork.fork.2.kernel.Sound := by
  rw [kernel_fork]
  exact (pause_drifts h.guarded).kernel.sound (hsound.setChildBlocked true)

theorem Orderly.log_afterFork (h : m.Orderly) (hsound : m.kernel.Sound) :
    m.beforeFork.fork.2.kernel.log = m.kernel.log := by
  have hblocked := m.kernel.childBlocked_setChildBlocked true
  rw [kernel_fork]
  refine ((pause_drifts h.guarded).kernel.log_eq (hsound.setChildBlocked true) hblocked).trans ?_
  change (m.kernel.setChildBlocked true).log = m.kernel.log
  rw [Kernel.setChildBlocked_true]

/-- Asking for a child changes nothing but the kernel, what comes from outside and the last pid. -/
theorem afterFork_eq (m : Machine) :
    ∃ kernel outside lastPid, m.beforeFork.fork.2 = { m with kernel, outside, lastPid } := by
  obtain ⟨kernel, arrivals, -, hpause⟩ :=
    (m.mapKernel fun k => k.setChildBlocked true).pause_eq
  rw [beforeFork, hpause, fork]
  split
  · exact ⟨_, _, _, rfl⟩
  · exact ⟨_, _, _, rfl⟩
  · dsimp only
    split <;> exact ⟨_, _, _, rfl⟩

theorem perform_afterFork (image : ChildImage) (m : Machine) :
    image.perform m.beforeFork.fork.2 = image.perform m := by
  obtain ⟨kernel, outside, lastPid, heq⟩ := m.afterFork_eq
  rw [heq]
  rfl

end Fork

section FailChild

variable (h : m.Orderly) (image : ChildImage) (mask : SignalSet) (request : Request)
  (e : Errno) (files : FileSystem)
include h

theorem Orderly.failChild (pid : Pid) :
    (m.failChild image pid mask request e files).Orderly := by
  have hstart := h.start pid (.forChild (!image.background) mask)
  exact hstart.of_drifts
    (.of_kernel (Kernel.endChild_drifts hstart.handler pid (by decide)) rfl rfl)

/-- A child that has failed is left at the next pause. -/
theorem left_failChild (hblocked : m.kernel.signals.childBlocked = true)
    (hfree : m.kernel.holds pid = false) :
    (m.failChild image pid mask request e files).pause.kernel.signals.childBlocked =
        true ∧
      (m.failChild image pid mask request e files).pause.kernel.Left pid
        (Termination.exitStatus setupFailureCode) := by
  have hpause := (pause_drifts (h.failChild image mask request e files pid)).kernel
  have hkernel : (m.failChild image pid mask request e files).kernel =
      (m.kernel.start pid (.forChild (!image.background) mask)).terminate pid
        (Termination.exitStatus setupFailureCode) :=
    Kernel.endChild_start_of_blocked h.handler hblocked _
  rw [hkernel] at hpause
  rw [hpause.signals_eq]
  exact ⟨hblocked, (Kernel.left_terminate_start hfree _).drifts hblocked hpause⟩

theorem sound_failChild (pid : Pid) (hsound : m.kernel.Sound)
    (hblocked : m.kernel.signals.childBlocked = true) :
    (m.failChild image pid mask request e files).kernel.Sound := by
  rw [failChild, Kernel.endChild_start_of_blocked h.handler hblocked]
  exact (hsound.start pid _).terminate pid _

theorem log_failChild (pid : Pid) (hsound : m.kernel.Sound)
    (hblocked : m.kernel.signals.childBlocked = true) :
    (m.failChild image pid mask request e files).pause.kernel.log = m.kernel.log := by
  have hfailed := sound_failChild h image mask request e files pid hsound hblocked
  have hkernel : (m.failChild image pid mask request e files).kernel =
      (m.kernel.start pid (.forChild (!image.background) mask)).terminate pid
        (Termination.exitStatus setupFailureCode) :=
    Kernel.endChild_start_of_blocked h.handler hblocked _
  refine ((pause_drifts (h.failChild image mask request e files pid)).kernel.log_eq hfailed
    ?_).trans ?_
  · rw [hkernel]
    exact hblocked
  · rw [hkernel]
    rfl

end FailChild

section Spawn

variable (host : Host) (hnul : ¬ c.HoldsNul) (hfork : m.beforeFork.fork.1 = .ok pid)
include hnul hfork

/-- A launch whose child is refused something. Nothing of it depends on the host. -/
theorem spawn_of_refused {background : Bool}
    (hrefused : (c.image background).perform m = (some (request, e), files)) :
    m.spawn host c background =
      (m.beforeFork.fork.2.failChild (c.image background) pid m.kernel.signals.mask
        request e files).pause.attend pid background m.kernel.signals.mask := by
  obtain ⟨-, himage⟩ | ⟨hholds, -⟩ := ChildImage.ofCommand_cases c background
  · have hchild := perform_afterFork (c.image background) m
    rw [spawn_eq, himage]
    dsimp only
    rw [← beforeFork, launchImage]
    generalize m.beforeFork.fork = forked at hfork hchild ⊢
    obtain ⟨answer, m'⟩ := forked
    obtain rfl : answer = .ok pid := hfork
    dsimp only
    rw [runChild_of_refused host (hchild.trans hrefused)]
  · exact absurd hholds hnul

theorem spawn_foreground_of_refused (h : m.Orderly)
    (hrefused : (c.image false).perform m = (some (request, e), files)) :
    ∃ kernel outside lastPid,
      m.spawn host c false = (.ok (.foreground (some (.exited 1))),
        { m with
          kernel, outside, lastPid, files
          errors := m.errors ++ Text.encode (request.complaint e) }) := by
  have hchild := h.afterFork.failChild (c.image false) m.kernel.signals.mask request e files
    pid
  obtain ⟨hblocked, hleft⟩ := left_failChild h.afterFork (c.image false)
    m.kernel.signals.mask request e files h.blocked_afterFork (holds_afterFork hfork)
  obtain ⟨kernel, outside, hwait⟩ := waitForeground_of_left (t := .exited 1)
    (hchild.of_drifts (pause_drifts hchild)) hblocked hleft (by decide)
  rw [spawn_of_refused host hnul hfork hrefused, attend, if_neg Bool.false_ne_true, hwait]
  obtain ⟨kernel', arrivals, -, hpause⟩ := (m.beforeFork.fork.2.failChild (c.image false) pid
    m.kernel.signals.mask request e files).pause_eq
  obtain ⟨kernel'', outside', lastPid, hafter⟩ := m.afterFork_eq
  rw [hpause, hafter]
  exact ⟨_, _, _, rfl⟩

theorem spawn_background_of_refused
    (hrefused : (c.image true).perform m = (some (request, e), files)) :
    ∃ kernel outside lastPid,
      m.spawn host c true = (.ok (.background pid),
        { m with
          kernel, outside, lastPid, files
          launched := m.launched ++ [pid]
          errors := m.errors ++ Text.encode (request.complaint e) }) := by
  rw [spawn_of_refused host hnul hfork hrefused, attend, if_pos rfl]
  obtain ⟨kernel, arrivals, -, hpause⟩ := (m.beforeFork.fork.2.failChild (c.image true) pid
    m.kernel.signals.mask request e files).pause_eq
  obtain ⟨kernel', outside, lastPid, hafter⟩ := m.afterFork_eq
  rw [hpause, hafter]
  exact ⟨_, _, _, rfl⟩

/-- The shell has still to hear of a background child that has failed, and before all others of its
pid unless the log held a fact of the pid before. -/
theorem due_spawn_of_refused (h : m.Orderly) (hsound : m.kernel.Sound)
    (hlog : pid ∉ m.kernel.log.waiting.map Fact.pid)
    (hrefused : (c.image true).perform m = (some (request, e), files)) (jobs : JobTable) :
    (m.spawn host c true).2.Orderly ∧ (m.spawn host c true).2.kernel.Sound ∧
      Tracking.Due { jobs, kernel := (m.spawn host c true).2.kernel, stage := .handed pid } pid
        (Termination.exitStatus setupFailureCode) := by
  obtain ⟨-, hleft⟩ := left_failChild h.afterFork (c.image true) m.kernel.signals.mask request e
    files h.blocked_afterFork (holds_afterFork hfork)
  have horderly := h.afterFork.failChild (c.image true) m.kernel.signals.mask request e files pid
  have hpause := pause_drifts horderly
  have hpaused := hpause.kernel.sound (sound_failChild h.afterFork (c.image true)
    m.kernel.signals.mask request e files pid (h.sound_afterFork hsound) h.blocked_afterFork)
  have hkept := log_failChild h.afterFork (c.image true) m.kernel.signals.mask request e files pid
    (h.sound_afterFork hsound) h.blocked_afterFork
  rw [← h.log_afterFork hsound, ← hkept] at hlog
  rw [spawn_of_refused host hnul hfork hrefused, attend, if_pos rfl]
  generalize (m.beforeFork.fork.2.failChild (c.image true) pid m.kernel.signals.mask request e
    files).pause = failed at hleft hpause hpaused hlog ⊢
  have hlisted : Orderly { failed with launched := failed.launched ++ [pid] } :=
    (horderly.of_drifts hpause).of_drifts (.of_kernel (.refl _) rfl rfl)
  have hdue : Tracking.Due { jobs, kernel := failed.kernel, stage := .handed pid } pid
      (Termination.exitStatus setupFailureCode) := .of_left rfl hleft hlog
  exact ⟨hlisted.setMask _, hpaused.setMask _,
    hdue.quiet (.setMask hpaused.log _) (.setMask hpaused _)⟩

end Spawn

end Machine

end JobShell
