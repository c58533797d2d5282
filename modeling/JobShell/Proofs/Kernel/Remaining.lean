import JobShell.Proofs.Kernel.Collecting

/-!
# What an ended child leaves

A child that has ended while the child signal is blocked leaves its fact, whatever happens by
itself afterwards: the fact stays with the child, and nothing else of this pid joins it
(`Kernel.Left.drifts`), so a wait finds out how this very child has ended.
-/

namespace JobShell

namespace Kernel

variable {k k' : Kernel} {facts : List Fact} {pid : Pid} {status : StatusWord}

theorem mem_reapable_terminate {fact : Fact} :
    fact ∈ (k.terminate pid status).reapable ↔
      fact ∈ k.reapable ∨ fact = ⟨pid, status⟩ ∧ k.isRunning pid = true := by
  rw [mem_reapable, mem_reapable, isRunning, List.any_eq_true]
  constructor
  · rintro ⟨c, hc, hpid, hstate⟩
    obtain ⟨before, hbefore, rfl⟩ := List.mem_map.1 hc
    split at hpid
    · next hmatch =>
        rw [if_pos hmatch] at hstate
        refine Or.inr ⟨?_, before, hbefore, by simpa using hmatch⟩
        obtain ⟨other, word⟩ := fact
        obtain rfl : pid = other := hmatch.1.symm.trans hpid
        obtain rfl : status = word := ChildState.ended.inj hstate
        rfl
    · next hmatch =>
        rw [if_neg hmatch] at hstate
        exact Or.inl ⟨before, hbefore, hpid, hstate⟩
  · rintro (⟨c, hc, hpid, hstate⟩ | ⟨rfl, c, hc, hmatch⟩)
    · have hended : ¬ (c.pid = pid ∧ c.isRunning = true) := by simp [Child.isRunning, hstate]
      exact ⟨c, List.mem_map.2 ⟨c, hc, if_neg hended⟩, hpid, hstate⟩
    · rw [Bool.and_eq_true, beq_iff_eq] at hmatch
      exact ⟨_, List.mem_map.2 ⟨c, hc, if_pos hmatch⟩, hmatch.1, rfl⟩

theorem isRunning_start (k : Kernel) (pid : Pid) (signals : SignalSetup) :
    (k.start pid signals).isRunning pid = true := by
  simp [isRunning, start, Child.isRunning]

/-- A child that does not run any more does not start to by itself. -/
theorem Drifts.isRunning_eq_false (h : k.Drifts k') (hended : k.isRunning pid = false) :
    k'.isRunning pid = false :=
  Bool.eq_false_iff.2 fun hrunning =>
    absurd (hended.symm.trans (h.isRunning_of_isRunning hrunning)) Bool.false_ne_true

section Left

/-- The child of this pid has ended and was not collected, and its fact is the only one of this
pid that is left. -/
structure Left (k : Kernel) (pid : Pid) (status : StatusWord) : Prop where
  ended : k.isRunning pid = false
  sole : ∀ other, ⟨pid, other⟩ ∈ k.reapable ↔ other = status

theorem Left.reap (h : k.Left pid status) : (k.reap pid).1 = some status := by
  obtain ⟨found, hfound⟩ := exists_reap_of_mem ((h.sole status).2 rfl)
  rw [hfound, (h.sole found).1 (mem_reapable_of_reap hfound)]

/-- While the child signal is blocked, a new child that ends at once is left. -/
theorem endChild_start_of_blocked (hhandler : k.signals.child = .handler)
    (hblocked : k.signals.childBlocked = true) (signals : SignalSetup) :
    (k.start pid signals).endChild pid status = (k.start pid signals).terminate pid status := by
  have hcaught : ¬ (k.start pid signals).signals.child = .ignore :=
    fun hignored => nomatch hhandler.symm.trans hignored
  rw [endChild, isRunning_start, if_neg (by decide), if_neg hcaught]
  exact raiseChild_of_blocked hblocked

theorem left_terminate_start (hfree : k.holds pid = false) (signals : SignalSetup) :
    ((k.start pid signals).terminate pid status).Left pid status where
  ended := by
    rw [Bool.eq_false_iff, ne_eq, ← mem_runningPids, runningPids_terminate, List.mem_filter]
    simp
  sole other := by
    have hnone : ⟨pid, other⟩ ∉ k.reapable :=
      fun hfact => holds_eq_false_iff.1 hfree (pid_mem_childPids hfact)
    rw [mem_reapable_terminate, reapable_start, or_iff_right hnone]
    simp [isRunning_start]

/-- The handler does not run while the child signal is blocked, and the end of another child is
another fact. -/
theorem Left.move (h : k.Left pid status) (hblocked : k.signals.childBlocked = true)
    (move : Move k facts k') : k'.Left pid status where
  ended := (Drifts.of_move move).isRunning_eq_false h.ended
  sole other := by
    rw [← h.sole other]
    cases move with
    | ends another word t hrunning =>
        rw [mem_reapable_terminate, or_iff_left]
        rintro ⟨heq, -⟩
        cases heq
        exact absurd (h.ended.symm.trans hrunning) Bool.false_ne_true
    | deliver hopen => exact absurd (hopen.symm.trans hblocked) Bool.false_ne_true
    | signal =>
        rw [raiseChild_of_blocked hblocked]
        rfl
    | adjust another f hpid hstate => rw [k.reapable_updateChild another f hpid hstate]
    | stop =>
        rw [Kernel.stop]
        split <;> rfl
    | send => rfl

theorem Left.drifts (h : k.Left pid status) (hblocked : k.signals.childBlocked = true)
    (hdrifts : k.Drifts k') : k'.Left pid status := by
  obtain ⟨facts, drift⟩ := hdrifts
  induction drift with
  | refl => exact h
  | tail drift move ih =>
      have hkept := (Drifts.signals_eq ⟨_, drift⟩) ▸ hblocked
      exact ih.move hkept move

end Left

theorem Drifts.sound (h : k.Drifts k') (hsound : k.Sound) : k'.Sound := by
  obtain ⟨facts, drift⟩ := h
  induction drift with
  | refl => exact hsound
  | tail drift move ih => exact move.sound ih

end Kernel

end JobShell
