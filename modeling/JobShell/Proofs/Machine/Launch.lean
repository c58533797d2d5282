import JobShell.Launch
import JobShell.Proofs.Machine.Drift

/-!
# What a launch does on the machine

From the moment at which a child has started up to the wait for it, a launch is nothing but
what happens by itself (`runChild_drifts`). The child has then ended or sleeps, and in the
second case it will go on (`Machine.Wakes`), so that waiting for it leads to its end.
-/

namespace JobShell

/-- A program starts once both sides are connected, and is given what the image says. -/
theorem ChildImage.starts_of_setUp {image : ChildImage} {m : Machine} {pid : Pid}
    {mask : SignalSet} {e : Execution} {files : FileSystem}
    (h : image.setUp m pid mask = (.starts e, files)) :
    ∃ utility input output, image.connectInput m = .ok input ∧
      image.connectOutput m = .ok (output, files) ∧
      e = {
        utility, arguments := image.arguments, pid, parent := m.shellPid,
        directory := m.directory, places := m.places, environment := m.environment,
        input, output, signals := .forChild (!image.background) mask } := by
  rw [setUp] at h
  split at h
  · cases h
  · next input hinput =>
      split at h
      · cases h
      · next output opened houtput =>
          split at h
          · cases h
          · next utility _ =>
              cases h
              exact ⟨utility, input, output, hinput, houtput, rfl⟩

namespace Machine

variable {m m' : Machine}

/-- As long as the child runs it sleeps, and will go on. -/
def Wakes (m : Machine) (pid : Pid) : Prop :=
  m.kernel.isRunning pid = true → ∃ s ∈ m.sleepers, s.pid = pid

section Orderly

variable (h : m.Orderly)
include h

theorem Orderly.setMask (mask : SignalSet) :
    (m.mapKernel fun k => k.setMask mask).Orderly where
  handler := by
    change (m.kernel.setMask mask).signals.child = _
    rw [Kernel.signals_setMask, h.handler]
  known := h.known.setMask mask
  sleepers := h.sleepers
  arrivals := h.arrivals
  waits := h.waits

theorem Orderly.start (pid : Pid) (signals : SignalSetup) :
    (m.mapKernel fun k => k.start pid signals).Orderly where
  handler := h.handler
  known := h.known.start pid signals
  sleepers := h.sleepers
  arrivals := h.arrivals
  waits := h.waits

theorem Orderly.reap (pid : Pid) : Orderly { m with kernel := (m.kernel.reap pid).2 } where
  handler := by
    change (m.kernel.reap pid).2.signals.child = _
    rw [Kernel.signals_reap, h.handler]
  known := h.known.reap pid
  sleepers := h.sleepers
  arrivals := h.arrivals
  waits := h.waits

end Orderly

/-- Asking for a pid changes nothing that has to do with children. -/
theorem fork_drifts (m : Machine) : m.Drifts m.fork.2 := by
  rw [fork]
  split
  · exact ⟨.refl _, fun _ hs => Or.inl hs, fun _ hevents => hevents, fun _ he => he⟩
  · exact ⟨.refl _, fun _ hs => Or.inl hs, fun _ hevents => hevents, fun _ he => he⟩
  · dsimp only
    split <;> exact ⟨.refl _, fun _ hs => Or.inl hs, fun _ hevents => hevents, fun _ he => he⟩

theorem sleepers_foldl_receive (m : Machine) (events : List Arrival) :
    (events.foldl receive m).sleepers = m.sleepers := by
  induction events generalizing m with
  | nil => rfl
  | cons a events ih =>
      rw [List.foldl_cons, ih]
      cases a <;> rfl

theorem sleepers_pause (m : Machine) : m.pause.sleepers = m.sleepers := by
  rw [pause]
  split
  · rfl
  · exact sleepers_foldl_receive _ _

/-- A pause does not wake anyone. -/
theorem Wakes.pause {pid : Pid} (h : m.Orderly) (hwakes : m.Wakes pid) : m.pause.Wakes pid := by
  intro hrunning
  rw [sleepers_pause]
  exact hwakes ((pause_drifts h).kernel.isRunning_of_isRunning hrunning)

section Child

variable {pid : Pid}

theorem pid_of_setUp {image : ChildImage} {mask : SignalSet} {e : Execution}
    {files : FileSystem} (h : image.setUp m pid mask = (.starts e, files)) :
    e.pid = pid := by
  obtain ⟨utility, input, output, -, -, rfl⟩ := ChildImage.starts_of_setUp h
  rfl

theorem wakes_proceed (h : m.Orderly) {course : Course} : (m.proceed pid course).Wakes pid := by
  intro hrunning
  cases course with
  | ended r status =>
      rw [isRunning_proceed_ended h] at hrunning
      exact absurd hrunning Bool.false_ne_true
  | asleep r duration resume => exact ⟨_, mem_insertSleeper.2 (Or.inl rfl), rfl⟩

/-- A child that has started up sets itself up and runs by itself, and it sleeps if it has not
ended. -/
theorem runChild_drifts {host : Host} (hhost : host.Ends) (h : m.Orderly) (pid : Pid)
    (image : ChildImage) (mask : SignalSet) :
    (m.mapKernel fun k => k.start pid (.forChild (!image.background) mask)).Drifts
        (m.runChild host image pid mask) ∧
      (m.runChild host image pid mask).Wakes pid := by
  have hstart := h.start pid (.forChild (!image.background) mask)
  rw [runChild]
  split
  · refine ⟨.of_kernel (Kernel.endChild_drifts hstart.handler pid (by decide)) rfl rfl, ?_⟩
    intro hrunning
    have hended := Kernel.isRunning_endChild hstart.handler pid
      (Termination.exitStatus setupFailureCode)
    exact absurd (hended.symm.trans hrunning) Bool.false_ne_true
  · next e files hsetUp =>
      obtain rfl := pid_of_setUp hsetUp
      have hfiles : (m.mapKernel fun k => k.start e.pid
          (.forChild (!image.background) mask)).Drifts
          { m.mapKernel fun k => k.start e.pid (.forChild (!image.background) mask) with
            files } := .of_kernel (.refl _) rfl rfl
      have hproceed := hstart.of_drifts hfiles
      exact ⟨hfiles.trans (proceed_drifts hproceed e.pid (hhost e _)), wakes_proceed hproceed⟩

end Child

section Wait

/-- Disturbed waits are taken up again. -/
theorem waitWith_eq (m : Machine) (pid : Pid) {errors : List Errno}
    (h : ∀ e ∈ errors, e = .interrupted) : m.waitWith pid errors = m.waitWith pid [] := by
  induction errors with
  | nil => rfl
  | cons e errors ih =>
      obtain rfl := h e List.mem_cons_self
      rw [waitWith]
      exact ih fun e' he' => h e' (List.mem_cons_of_mem _ he')

theorem waitWith_nil {pid : Pid} {status : StatusWord}
    (h : (m.kernel.reap pid).1 = some status) :
    m.waitWith pid [] =
      (.ok (Termination.ofStatus? status), { m with kernel := (m.kernel.reap pid).2 }) := by
  rw [waitWith]
  cases hreap : m.kernel.reap pid with
  | mk found k =>
      rw [hreap] at h
      obtain rfl : found = some status := h
      rfl

/-- Waiting once more for a child that was collected changes nothing. -/
theorem ensureReaped_reap (m : Machine) (pid : Pid) :
    ensureReaped { m with kernel := (m.kernel.reap pid).2 } pid =
      { m with kernel := (m.kernel.reap pid).2 } := by
  rw [ensureReaped, Kernel.reap_reap]

/-- The wait for a foreground child that has ended and is not collected finds out how it has
ended, and collects it. -/
theorem waitForeground_eq {pid : Pid} {status : StatusWord} {t : Termination}
    (h : (m.pause.awaitEnd pid).Orderly)
    (hreap : ((m.pause.awaitEnd pid).kernel.reap pid).1 = some status)
    (hend : Termination.ofStatus? status = some t) :
    m.waitForeground pid =
      (.ok (some t), { m.pause.awaitEnd pid with
        kernel := ((m.pause.awaitEnd pid).kernel.reap pid).2
        outside := { (m.pause.awaitEnd pid).outside with waitErrors := [] } }) := by
  rw [waitForeground]
  generalize m.pause.awaitEnd pid = m' at h hreap ⊢
  have hwait := waitWith_nil
    (m := { m' with outside := { m'.outside with waitErrors := [] } }) hreap
  dsimp only
  rw [waitWith_eq _ pid h.waits, hwait, hend]
  dsimp only
  split
  · rfl
  · rw [ensureReaped_reap { m' with outside := { m'.outside with waitErrors := [] } }]

end Wait

end Machine

end JobShell
