import JobShell.Proofs.Kernel.Steady

/-!
# Logs of which the same is read

An extra taking leaves its trace in a log: another buffer is active, and the slots that are not
read hold other facts. `TerminationLog.Alike` relates well-formed logs that differ in nothing
else. Whatever happens to the kernel, it answers the same and stays alike (`Kernel.Alike`), and
so do the takings of a notification (`JobTable.notify_alike`).

A notification that can hand over all that is outstanding leaves a log from which nothing is
read (`JobTable.told_notify`), and on such a log another notification does nothing
(`JobTable.notify_of_told`).
-/

namespace JobShell

namespace TerminationLog

/-- The same is read from either log, whatever happens to both. -/
structure Alike (log log' : TerminationLog) : Prop where
  waiting : log'.waiting = log.waiting
  saturated : log'.active.saturated = log.active.saturated
  left : log.WellFormed
  right : log'.WellFormed

namespace Alike

variable {log log' log'' : TerminationLog}

theorem refl (h : log.WellFormed) : log.Alike log :=
  ⟨rfl, rfl, h, h⟩

theorem symm (h : log.Alike log') : log'.Alike log :=
  ⟨h.waiting.symm, h.saturated.symm, h.right, h.left⟩

theorem trans (first : log.Alike log') (second : log'.Alike log'') : log.Alike log'' :=
  ⟨second.waiting.trans first.waiting, second.saturated.trans first.saturated, first.left,
    second.right⟩

theorem pending (h : log.Alike log') : log'.pending = log.pending := by
  rw [← h.left.length_waiting, ← h.right.length_waiting, h.waiting]

theorem room (h : log.Alike log') : log'.room = log.room := by
  rw [TerminationLog.room, TerminationLog.room, h.pending]

theorem collect (h : log.Alike log') (supply : List Fact) :
    (log.collect supply).2.Alike (log'.collect supply).2 where
  waiting := by
    rw [waiting_collect _ _ h.right.pending_le, waiting_collect _ _ h.left.pending_le, h.waiting,
      h.room]
  saturated := by
    rw [saturated_collect _ _ h.right.pending_le, saturated_collect _ _ h.left.pending_le,
      h.saturated, h.pending]
  left := h.left.collect supply
  right := h.right.collect supply

theorem take (h : log.Alike log') : log.take.2.Alike log'.take.2 where
  waiting := by rw [h.left.waiting_take, h.right.waiting_take]
  saturated := by rw [h.left.saturated_take, h.right.saturated_take]
  left := h.left.take
  right := h.right.take

end Alike

end TerminationLog

namespace Kernel

/-- The kernels differ in their logs at most, and those are alike. -/
def Alike (k k' : Kernel) : Prop :=
  ∃ log, k.log.Alike log ∧ k' = { k with log }

namespace Alike

variable {k k' k'' : Kernel}

theorem log (h : k.Alike k') : k.log.Alike k'.log := by
  obtain ⟨log, hlog, rfl⟩ := h
  exact hlog

theorem refl (h : k.log.WellFormed) : k.Alike k :=
  ⟨k.log, .refl h, rfl⟩

theorem symm (h : k.Alike k') : k'.Alike k := by
  obtain ⟨log, hlog, rfl⟩ := h
  exact ⟨k.log, hlog.symm, rfl⟩

theorem trans (first : k.Alike k') (second : k'.Alike k'') : k.Alike k'' := by
  obtain ⟨log, hlog, rfl⟩ := first
  obtain ⟨log', hlog', rfl⟩ := second
  exact ⟨log', hlog.trans hlog', rfl⟩

theorem children (h : k.Alike k') : k'.children = k.children := by
  obtain ⟨log, hlog, rfl⟩ := h
  rfl

theorem signals (h : k.Alike k') : k'.signals = k.signals := by
  obtain ⟨log, hlog, rfl⟩ := h
  rfl

theorem mode (h : k.Alike k') : k'.mode = k.mode := by
  obtain ⟨log, hlog, rfl⟩ := h
  rfl

theorem isRunning (h : k.Alike k') (pid : Pid) : k'.isRunning pid = k.isRunning pid := by
  rw [Kernel.isRunning, Kernel.isRunning, h.children]

theorem isStopped (h : k.Alike k') (pid : Pid) : k'.isStopped pid = k.isStopped pid := by
  rw [Kernel.isStopped, Kernel.isStopped, h.children]

theorem holds (h : k.Alike k') (pid : Pid) : k'.holds pid = k.holds pid := by
  rw [Kernel.holds, Kernel.holds, h.children]

theorem handleChild (h : k.Alike k') : k.handleChild.Alike k'.handleChild := by
  obtain ⟨log, hlog, rfl⟩ := h
  have hleft : (log.collect k.reapable).1 = (k.log.collect k.reapable).1 := by
    rw [TerminationLog.collect_fst, TerminationLog.collect_fst, hlog.room]
  refine ⟨(log.collect k.reapable).2, hlog.collect _, ?_⟩
  change { k with
      log := (log.collect k.reapable).2
      children := dropEnded (k.reapable.length - (log.collect k.reapable).1.length) k.children } =
    _
  rw [hleft]
  rfl

theorem deliverChild (h : k.Alike k') : k.deliverChild.Alike k'.deliverChild := by
  rw [Kernel.deliverChild, Kernel.deliverChild, h.signals]
  split
  · exact h.handleChild
  · exact h

theorem raiseChild (h : k.Alike k') : k.raiseChild.Alike k'.raiseChild := by
  rw [Kernel.raiseChild, Kernel.raiseChild, h.signals]
  split
  · obtain ⟨log, hlog, rfl⟩ := h
    exact ⟨log, hlog, rfl⟩
  · exact h.deliverChild

theorem setMask (h : k.Alike k') (mask : SignalSet) : (k.setMask mask).Alike (k'.setMask mask) := by
  obtain ⟨log, hlog, rfl⟩ := h
  rw [setMask_eq, setMask_eq]
  split
  · exact deliverChild ⟨log, hlog, rfl⟩
  · exact ⟨log, hlog, rfl⟩

theorem setChildBlocked (h : k.Alike k') (blocked : Bool) :
    (k.setChildBlocked blocked).Alike (k'.setChildBlocked blocked) := by
  rw [Kernel.setChildBlocked, Kernel.setChildBlocked, h.signals]
  exact h.setMask _

theorem start (h : k.Alike k') (pid : Pid) (signals : SignalSetup) :
    (k.start pid signals).Alike (k'.start pid signals) := by
  obtain ⟨log, hlog, rfl⟩ := h
  exact ⟨log, hlog, rfl⟩

theorem endChild (h : k.Alike k') (pid : Pid) (status : StatusWord) :
    (k.endChild pid status).Alike (k'.endChild pid status) := by
  rw [Kernel.endChild, Kernel.endChild, h.isRunning, h.signals]
  obtain ⟨log, hlog, rfl⟩ := h
  split
  · exact ⟨log, hlog, rfl⟩
  · split
    · exact ⟨log, hlog, rfl⟩
    · exact raiseChild ⟨log, hlog, rfl⟩

/-- A wait finds the same child. -/
theorem reap (h : k.Alike k') (pid : Pid) :
    ∃ kernel, (k.reap pid).2.Alike kernel ∧ k'.reap pid = ((k.reap pid).1, kernel) := by
  have hreapable : k'.reapable = k.reapable := by
    rw [Kernel.reapable, Kernel.reapable, h.children]
  rw [Kernel.reap, Kernel.reap, hreapable]
  obtain ⟨log, hlog, rfl⟩ := h
  split <;> exact ⟨_, ⟨log, hlog, rfl⟩, rfl⟩

theorem updateChild (h : k.Alike k') (pid : Pid) (f : Child → Child) :
    (k.updateChild pid f).Alike (k'.updateChild pid f) := by
  obtain ⟨log, hlog, rfl⟩ := h
  exact ⟨log, hlog, rfl⟩

theorem raiseChange (h : k.Alike k') : k.raiseChange.Alike k'.raiseChange := by
  rw [Kernel.raiseChange, Kernel.raiseChange, h.signals]
  split
  · exact h.raiseChild
  · exact h

theorem signalChild (h : k.Alike k') (pid : Pid) (signal : Nat) :
    (k.signalChild pid signal).Alike (k'.signalChild pid signal) := by
  have hchange (f : Child → Child) := (h.updateChild pid f).raiseChange
  rw [Kernel.signalChild, Kernel.signalChild, h.children]
  split
  · exact h
  · split
    · split
      · exact h.updateChild pid _
      · exact h.endChild pid _
    · split
      · exact h
      · exact hchange _
    · split
      · exact h
      · dsimp only
        split
        · exact (hchange _).endChild pid _
        · exact hchange _
    · exact h.updateChild pid _
    · exact h

theorem kill (h : k.Alike k') (denials : Denials) (pid : Pid) (signal : Nat) :
    (k.kill denials pid signal).2.Alike (k'.kill denials pid signal).2 := by
  have hholds : k'.holds pid = k.holds pid := by
    rw [Kernel.holds, Kernel.holds, h.children]
  have hasked : { k with sent := k.sent ++ [(pid, signal)] }.Alike
      { k' with sent := k'.sent ++ [(pid, signal)] } := by
    obtain ⟨log, hlog, rfl⟩ := h
    exact ⟨log, hlog, rfl⟩
  rw [Kernel.kill, Kernel.kill, hholds]
  split
  · exact hasked
  · split
    · exact hasked
    · exact hasked.signalChild pid signal

theorem stop (h : k.Alike k') : k.stop.Alike k'.stop := by
  rw [Kernel.stop, Kernel.stop, h.signals]
  obtain ⟨log, hlog, rfl⟩ := h
  split <;> exact ⟨log, hlog, rfl⟩

theorem signalShell (h : k.Alike k') (signal : Nat) :
    (k.signalShell signal).Alike (k'.signalShell signal) := by
  rw [Kernel.signalShell, Kernel.signalShell]
  split
  · exact h.stop
  · split
    · exact h.raiseChild
    · exact h

theorem takeLog (h : k.Alike k') : k.takeLog.Alike k'.takeLog := by
  obtain ⟨log, hlog, rfl⟩ := h
  exact ⟨log.take.2, hlog.take, rfl⟩

/-- The same facts are taken. -/
theorem drainBatches (h : k.Alike k') (passes : Nat) :
    (Kernel.drainBatches passes k').1 = (Kernel.drainBatches passes k).1 ∧
      (Kernel.drainBatches passes k).2.Alike (Kernel.drainBatches passes k').2 := by
  induction passes generalizing k k' with
  | zero => exact ⟨rfl, h⟩
  | succ passes ih =>
      rw [Kernel.drainBatches, Kernel.drainBatches, h.log.saturated, h.log.waiting]
      split
      · obtain ⟨hbatches, hkernel⟩ := ih h.takeLog.raiseChild
        exact ⟨congrArg (k.log.waiting :: ·) hbatches, hkernel⟩
      · exact ⟨rfl, h.takeLog⟩

end Alike

/-- The shell has been told of everything that its log could hold. -/
structure Told (k : Kernel) : Prop where
  log : k.log.WellFormed
  waiting : k.log.waiting = []
  saturated : k.log.active.saturated = false

variable {k : Kernel}

/-- Takings that have room for all that is outstanding hand over all that the log holds. -/
theorem Told.of_drainBatches (passes : Nat) (h : k.log.WellFormed)
    (hroom : k.outstanding.length ≤ passes * FactBuffer.capacity) :
    (drainBatches passes k).2.Told := by
  induction passes generalizing k with
  | zero =>
      have hwaiting : k.log.waiting = [] := by
        rw [Nat.zero_mul, outstanding, List.length_append] at hroom
        exact List.length_eq_zero_iff.1 (by omega)
      refine ⟨h, hwaiting, ?_⟩
      rw [← Bool.not_eq_true]
      intro hmark
      have hfull := h.full_of_saturated hmark
      rw [← h.length_waiting, hwaiting] at hfull
      cases hfull
  | succ passes ih =>
      rw [drainBatches]
      split
      · next hmark =>
          -- a marked log is full, so one buffer less is left to hand over
          have hfull := h.full_of_saturated hmark
          rw [outstanding, List.length_append, h.length_waiting, hfull] at hroom
          refine ih (k.takeLog.raiseChild_steady.log h.take) ?_
          rw [outstanding_raiseChild h.take, outstanding_takeLog h]
          rw [Nat.succ_mul] at hroom
          omega
      · exact ⟨h.take, h.waiting_take, h.saturated_take⟩

theorem Alike.told {k' : Kernel} (h : k.Alike k') (htold : k.Told) : k'.Told :=
  ⟨h.log.right, h.log.waiting.trans htold.waiting, h.log.saturated.trans htold.saturated⟩

end Kernel

namespace JobTable

variable {k k' : Kernel}

/-- Notifications on alike logs report and forget the same. -/
theorem notify_alike (h : k.Alike k') (t : JobTable) (sink : Sink) :
    ∃ kernel, (t.notify sink k).2.2.Alike kernel ∧
      t.notify sink k' = ((t.notify sink k).1, (t.notify sink k).2.1, kernel) := by
  obtain ⟨hbatches, hkernel⟩ := h.drainBatches maxDrainPasses
  refine ⟨(Kernel.drainBatches maxDrainPasses k').2, ?_, ?_⟩
  · rw [notify, drain_eq]
    exact hkernel
  · rw [notify, notify, drain_eq, drain_eq, hbatches]

theorem told_notify (h : k.log.WellFormed)
    (hroom : k.outstanding.length ≤ maxDrainPasses * FactBuffer.capacity) (t : JobTable)
    (sink : Sink) : (t.notify sink k).2.2.Told := by
  rw [notify, drain_eq]
  exact .of_drainBatches maxDrainPasses h hroom

end JobTable

end JobShell
