import JobShell.Proofs.Job.Draining
import JobShell.Proofs.Kernel.Move

/-!
# What toggles the mode

`Kernel.Steady` says that the kernel has become another one while so many terminal stops reached
the shell: each of them has toggled the mode, nothing has been sent, the arrangement for terminal
stops is as before, and a well-formed log has stayed one. Whatever becomes of children is steady
without a stop. Only a request to send adds to the list of what the shell has sent
(`Kernel.sent_kill`).
-/

namespace JobShell

namespace Kernel

/-- The shell has met so many terminal stops and sent nothing. -/
structure Steady (stops : Nat) (k k' : Kernel) : Prop where
  toggles : k.signals.stop = .handler → k'.mode.toggles = k.mode.toggles + .ofNat stops
  stop : k'.signals.stop = k.signals.stop
  sent : k'.sent = k.sent
  log : k.log.WellFormed → k'.log.WellFormed

variable {k k' k'' : Kernel} {stops later : Nat}

theorem Steady.of_mode (hmode : k'.mode = k.mode) (hstop : k'.signals.stop = k.signals.stop)
    (hsent : k'.sent = k.sent) (hlog : k.log.WellFormed → k'.log.WellFormed) : k.Steady 0 k' :=
  ⟨fun _ => by rw [hmode]; exact (UInt64.add_zero _).symm, hstop, hsent, hlog⟩

theorem Steady.refl (k : Kernel) : k.Steady 0 k :=
  .of_mode rfl rfl rfl id

theorem Steady.trans (first : k.Steady stops k') (second : k'.Steady later k'') :
    k.Steady (stops + later) k'' where
  toggles h := by
    rw [second.toggles (first.stop.trans h), first.toggles h, UInt64.ofNat_add, UInt64.add_assoc]
  stop := second.stop.trans first.stop
  sent := second.sent.trans first.sent
  log := second.log ∘ first.log

section Children

theorem handleChild_steady (k : Kernel) : k.Steady 0 k.handleChild :=
  .of_mode rfl rfl rfl fun h => h.collect _

theorem deliverChild_steady (k : Kernel) : k.Steady 0 k.deliverChild := by
  rw [deliverChild]
  split
  · exact k.handleChild_steady
  · exact .refl k

theorem raiseChild_steady (k : Kernel) : k.Steady 0 k.raiseChild := by
  rw [raiseChild]
  split
  · exact .of_mode rfl rfl rfl id
  · exact k.deliverChild_steady

theorem setMask_steady (k : Kernel) (mask : SignalSet) : k.Steady 0 (k.setMask mask) := by
  rw [setMask]
  dsimp only
  split
  · refine .trans ?_ (deliverChild_steady _)
    exact .of_mode rfl rfl rfl id
  · exact .of_mode rfl rfl rfl id

theorem start_steady (k : Kernel) (pid : Pid) (signals : SignalSetup) :
    k.Steady 0 (k.start pid signals) :=
  .of_mode rfl rfl rfl id

theorem endChild_steady (k : Kernel) (pid : Pid) (status : StatusWord) :
    k.Steady 0 (k.endChild pid status) := by
  rw [endChild]
  split
  · exact .refl k
  · split
    · exact .of_mode rfl rfl rfl id
    · refine .trans ?_ (raiseChild_steady _)
      exact .of_mode rfl rfl rfl id

theorem reap_steady (k : Kernel) (pid : Pid) : k.Steady 0 (k.reap pid).2 := by
  rw [reap]
  split <;> exact .of_mode rfl rfl rfl id

theorem updateChild_steady (k : Kernel) (pid : Pid) (f : Child → Child) :
    k.Steady 0 (k.updateChild pid f) :=
  .of_mode rfl rfl rfl id

theorem raiseChange_steady (k : Kernel) : k.Steady 0 k.raiseChange := by
  rw [raiseChange]
  split
  · exact k.raiseChild_steady
  · exact .refl k

theorem signalChild_steady (k : Kernel) (pid : Pid) (signal : Nat) :
    k.Steady 0 (k.signalChild pid signal) := by
  rw [signalChild]
  split
  · exact .refl k
  · split
    · split
      · exact k.updateChild_steady pid _
      · exact k.endChild_steady pid _
    · split
      · exact .refl k
      · exact (k.updateChild_steady pid _).trans (raiseChange_steady _)
    · split
      · exact .refl k
      · have hresumed :=
          (k.updateChild_steady pid fun c => { c with stopped := false }).trans
            (raiseChange_steady _)
        dsimp only
        split
        · exact hresumed.trans (endChild_steady _ pid _)
        · exact hresumed
    · exact k.updateChild_steady pid _
    · exact .refl k

end Children

theorem drainBatches_steady (passes : Nat) (k : Kernel) :
    k.Steady 0 (drainBatches passes k).2 := by
  induction passes generalizing k with
  | zero => exact .refl k
  | succ passes ih =>
      have htake : k.Steady 0 k.takeLog := .of_mode rfl rfl rfl fun h => h.take
      rw [drainBatches]
      split
      · exact (htake.trans k.takeLog.raiseChild_steady).trans (ih _)
      · exact htake

/-- A terminal stop that reaches the shell. -/
theorem stop_steady (k : Kernel) : k.Steady 1 k.stop := by
  rw [Kernel.stop]
  split
  · exact ⟨fun _ => rfl, rfl, rfl, id⟩
  · next hstop => exact ⟨fun h => absurd h hstop, rfl, rfl, id⟩

/-- A request to send a signal is added to the list, whatever comes of it. -/
theorem sent_kill (k : Kernel) (denials : Denials) (pid : Pid) (signal : Nat) :
    (k.kill denials pid signal).2.sent = k.sent ++ [(pid, signal)] := by
  obtain ⟨-, hreaches⟩ | ⟨-, hfails⟩ := k.kill_cases denials pid signal
  · rw [hreaches]
    exact (signalChild_steady { k with sent := k.sent ++ [(pid, signal)] } pid signal).sent
  · rw [hfails]

end Kernel

end JobShell
