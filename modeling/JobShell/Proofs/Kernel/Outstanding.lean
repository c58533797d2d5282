import JobShell.Proofs.Log.Contents
import JobShell.System.Kernel

/-!
# Outstanding facts

The children of the shell are read through two lists: the pids of those that still run
(`Kernel.runningPids`), and the facts that the shell has still to hear of
(`Kernel.outstanding`), first those that wait in the log and then those of the children that
have ended and are not collected, in the order in which they are found. A run of the handler
moves facts from the second part to the first, so neither list changes by it.

`Kernel.Sound` is kept by everything that happens to the shell. Its last part says that no
child is stranded: as long as an ended child is not collected, the child signal waits to be
delivered or the log carries the mark that makes the shell raise the signal again.
-/

namespace JobShell

namespace Kernel

/-- The facts that the shell has still to hear of. -/
def outstanding (k : Kernel) : List Fact :=
  k.log.waiting ++ k.reapable

/-- The pids of the children that run. -/
def runningPids (k : Kernel) : List Pid :=
  (k.children.filter Child.isRunning).map Child.pid

/-- The child signal that is on its way reaches the shell. -/
def deliverPending (k : Kernel) : Kernel :=
  { k with childPending := false }.deliverChild

/-- The kernel after part of its ended children have been collected. -/
theorem filterMap_fact?_dropEnded (n : Nat) (cs : List Child) :
    (dropEnded n cs).filterMap Child.fact? = (cs.filterMap Child.fact?).drop n := by
  induction cs generalizing n with
  | nil => cases n <;> simp [dropEnded]
  | cons c cs ih =>
      cases n with
      | zero => rw [dropEnded, List.drop_zero]
      | succ n =>
          cases h : c.state with
          | running =>
              have hfact : c.fact? = none := by rw [Child.fact?, h]
              simp only [dropEnded, h, List.filterMap_cons, hfact, ih]
          | ended status =>
              have hfact : c.fact? = some ⟨c.pid, status⟩ := by rw [Child.fact?, h]
              simp only [dropEnded, h, List.filterMap_cons, hfact, ih, List.drop_succ_cons]

theorem filter_isRunning_dropEnded (n : Nat) (cs : List Child) :
    (dropEnded n cs).filter Child.isRunning = cs.filter Child.isRunning := by
  induction cs generalizing n with
  | nil => cases n <;> rfl
  | cons c cs ih =>
      cases n with
      | zero => rw [dropEnded]
      | succ n =>
          cases h : c.state with
          | running => simp only [dropEnded, h, List.filter_cons, ih]
          | ended status =>
              have hrunning : c.isRunning = false := by simp [Child.isRunning, h]
              simp only [dropEnded, h, List.filter_cons, hrunning, Bool.false_eq_true, if_false,
                ih]

theorem mem_runningPids {k : Kernel} {pid : Pid} :
    pid ∈ k.runningPids ↔ k.isRunning pid = true := by
  simp only [runningPids, isRunning, List.mem_map, List.mem_filter, List.any_eq_true,
    Bool.and_eq_true, beq_iff_eq]
  apply exists_congr
  intro c
  rw [and_assoc, and_comm (a := c.isRunning = true)]

theorem mem_reapable {k : Kernel} {fact : Fact} :
    fact ∈ k.reapable ↔
      ∃ c ∈ k.children, c.pid = fact.pid ∧ c.state = .ended fact.status := by
  rw [reapable, List.mem_filterMap]
  refine exists_congr fun c => and_congr_right fun _ => ?_
  cases h : c.state with
  | running => simp [Child.fact?, h]
  | ended status =>
      obtain ⟨pid, status'⟩ := fact
      simp [Child.fact?, h]

section HandleChild

variable (k : Kernel)

theorem reapable_handleChild : k.handleChild.reapable = k.reapable.drop k.log.room := by
  have hcount : k.reapable.length - (k.log.collect k.reapable).1.length =
      min k.log.room k.reapable.length := by
    rw [TerminationLog.collect_fst, List.length_drop]
    omega
  change (dropEnded _ k.children).filterMap Child.fact? = _
  rw [filterMap_fact?_dropEnded, hcount]
  change k.reapable.drop _ = _
  rw [List.drop_eq_drop_iff]
  omega

@[simp] theorem runningPids_handleChild : k.handleChild.runningPids = k.runningPids := by
  change ((dropEnded _ k.children).filter Child.isRunning).map Child.pid = _
  rw [filter_isRunning_dropEnded]
  rfl

@[simp] theorem log_handleChild : k.handleChild.log = (k.log.collect k.reapable).2 := rfl

/-- The handler only moves facts. -/
theorem outstanding_handleChild (h : k.log.WellFormed) :
    k.handleChild.outstanding = k.outstanding := by
  rw [outstanding, reapable_handleChild, log_handleChild,
    TerminationLog.waiting_collect _ _ h.pending_le, List.append_assoc, List.take_append_drop]
  rfl

/-- The handler leaves children behind only in a log that carries the mark. -/
theorem saturated_handleChild (h : k.log.WellFormed) (hleft : k.handleChild.reapable ≠ []) :
    k.handleChild.log.active.saturated = true := by
  rw [reapable_handleChild, ne_eq, List.drop_eq_nil_iff] at hleft
  rw [log_handleChild, TerminationLog.saturated_collect _ _ h.pending_le]
  have hroom := TerminationLog.pending_add_room _ h.pending_le
  have hfull : FactBuffer.capacity ≤ k.log.pending + k.reapable.length := by omega
  rw [decide_eq_true hfull, Bool.or_true]

end HandleChild

/-- What is kept by everything that happens to the shell. -/
structure Sound (k : Kernel) : Prop where
  log : k.log.WellFormed
  handler : k.signals.child = .handler
  wakeful : k.reapable ≠ [] → k.childPending = true ∨ k.log.active.saturated = true

/-- The kernel changes in nothing that the shell has to hear of. Where the child signal stays
blocked the log is not touched. -/
structure Unseen (k k' : Kernel) : Prop where
  outstanding : k'.outstanding = k.outstanding
  runningPids : k'.runningPids = k.runningPids
  held : k'.signals.childBlocked = true → k'.log = k.log

section Handler

variable {k : Kernel} (hlog : k.log.WellFormed) (hhandler : k.signals.child = .handler)

theorem Sound.of_handleChild (hlog : k.log.WellFormed) (hhandler : k.signals.child = .handler) :
    k.handleChild.Sound where
  log := hlog.collect _
  handler := hhandler
  wakeful hleft := Or.inr (k.saturated_handleChild hlog hleft)

@[simp] theorem signals_deliverChild (k : Kernel) : k.deliverChild.signals = k.signals := by
  rw [deliverChild]
  split <;> rfl

@[simp] theorem signals_raiseChild (k : Kernel) : k.raiseChild.signals = k.signals := by
  rw [raiseChild]
  split
  · rfl
  · exact k.signals_deliverChild

@[simp] theorem runningPids_deliverChild (k : Kernel) :
    k.deliverChild.runningPids = k.runningPids := by
  rw [deliverChild]
  split
  · exact k.runningPids_handleChild
  · rfl

@[simp] theorem runningPids_raiseChild (k : Kernel) :
    k.raiseChild.runningPids = k.runningPids := by
  rw [raiseChild]
  split
  · rfl
  · exact k.runningPids_deliverChild

/-- Raising the child signal moves facts at most. -/
theorem outstanding_raiseChild (h : k.log.WellFormed) :
    k.raiseChild.outstanding = k.outstanding := by
  rw [raiseChild]
  split
  · rfl
  · rw [deliverChild]
    split
    · exact k.outstanding_handleChild h
    · rfl

theorem raiseChild_of_blocked (hblocked : k.signals.childBlocked = true) :
    k.raiseChild = { k with childPending := true } :=
  if_pos hblocked

include hhandler

theorem deliverPending_eq : k.deliverPending = { k with childPending := false }.handleChild :=
  if_pos hhandler

theorem raiseChild_of_unblocked (hblocked : k.signals.childBlocked = false) :
    k.raiseChild = k.handleChild := by
  rw [raiseChild, hblocked, deliverChild, if_pos hhandler]
  exact if_neg Bool.false_ne_true

include hlog

/-- Whatever has become of the mark, raising the signal wakes the shell. -/
theorem Sound.of_raiseChild : k.raiseChild.Sound := by
  cases hblocked : k.signals.childBlocked with
  | true =>
      rw [raiseChild_of_blocked hblocked]
      exact ⟨hlog, hhandler, fun _ => Or.inl rfl⟩
  | false =>
      rw [raiseChild_of_unblocked hhandler hblocked]
      exact .of_handleChild hlog hhandler

theorem Unseen.raiseChild : k.Unseen k.raiseChild := by
  cases hblocked : k.signals.childBlocked with
  | true =>
      rw [raiseChild_of_blocked hblocked]
      exact ⟨rfl, rfl, fun _ => rfl⟩
  | false =>
      rw [raiseChild_of_unblocked hhandler hblocked]
      refine ⟨k.outstanding_handleChild hlog, k.runningPids_handleChild, fun h => ?_⟩
      exact absurd (hblocked.symm.trans h) Bool.false_ne_true

theorem Sound.of_deliverPending : k.deliverPending.Sound := by
  rw [deliverPending_eq hhandler]
  exact .of_handleChild (k := { k with childPending := false }) hlog hhandler

theorem Unseen.deliverPending (hblocked : k.signals.childBlocked = false) :
    k.Unseen k.deliverPending := by
  rw [deliverPending_eq hhandler]
  refine ⟨outstanding_handleChild { k with childPending := false } hlog,
    runningPids_handleChild { k with childPending := false }, fun h => ?_⟩
  exact absurd (hblocked.symm.trans h) Bool.false_ne_true

end Handler

/-- A change that touches neither the log nor the children nor what is known of the child
signal. -/
theorem Sound.of_same {k k' : Kernel} (h : k.Sound) (hlog : k'.log = k.log)
    (hsignals : k'.signals.child = k.signals.child) (hreapable : k'.reapable = k.reapable)
    (hpending : k'.childPending = k.childPending) : k'.Sound where
  log := by rw [hlog]; exact h.log
  handler := by rw [hsignals]; exact h.handler
  wakeful := by rw [hreapable, hpending, hlog]; exact h.wakeful

section SetMask

theorem setMask_eq (k : Kernel) (mask : SignalSet) :
    k.setMask mask =
      if !mask.contains Signal.child && k.childPending then
        { k with signals := { k.signals with mask } }.deliverPending
      else { k with signals := { k.signals with mask } } := rfl

/-- A new mask changes nothing else of what the shell does on signals. -/
@[simp] theorem signals_setMask (k : Kernel) (mask : SignalSet) :
    (k.setMask mask).signals = { k.signals with mask } := by
  rw [setMask_eq]
  split
  · rw [deliverPending, signals_deliverChild]
  · rfl

/-- Nothing is delivered when the child signal is blocked. -/
theorem setChildBlocked_true (k : Kernel) :
    k.setChildBlocked true =
      { k with signals := { k.signals with mask := k.signals.mask.insert Signal.child } } := by
  have hblocked : (k.signals.mask.insert Signal.child).contains Signal.child = true :=
    SignalSet.contains_insert_self _ (by decide)
  rw [setChildBlocked, if_pos rfl, setMask_eq, hblocked]
  rfl

@[simp] theorem childBlocked_setChildBlocked (k : Kernel) (blocked : Bool) :
    (k.setChildBlocked blocked).signals.childBlocked = blocked := by
  rw [setChildBlocked, signals_setMask, SignalSetup.childBlocked]
  cases blocked with
  | true => exact SignalSet.contains_insert_self _ (by decide)
  | false => exact SignalSet.contains_erase_self _ (by decide)

variable {k : Kernel} (h : k.Sound)
include h

theorem Sound.setMask (mask : SignalSet) : (k.setMask mask).Sound := by
  rw [setMask_eq]
  split
  · exact .of_deliverPending h.log h.handler
  · exact h.of_same rfl rfl rfl rfl

theorem Unseen.setMask (mask : SignalSet) : k.Unseen (k.setMask mask) := by
  rw [setMask_eq]
  split
  · next hdeliver =>
      have hopen : mask.contains Signal.child = false := by
        rw [Bool.and_eq_true, Bool.not_eq_true'] at hdeliver
        exact hdeliver.1
      have hunseen := Unseen.deliverPending (k := { k with signals := { k.signals with mask } })
        h.log h.handler hopen
      exact ⟨hunseen.outstanding, hunseen.runningPids, hunseen.held⟩
  · exact ⟨rfl, rfl, fun _ => rfl⟩

theorem Sound.setChildBlocked (blocked : Bool) : (k.setChildBlocked blocked).Sound :=
  h.setMask _

end SetMask

section UpdateChild

variable (k : Kernel) (pid : Pid) (f : Child → Child) (hpid : ∀ c, (f c).pid = c.pid)
  (hstate : ∀ c, (f c).state = c.state)
include hpid hstate

theorem reapable_updateChild : (k.updateChild pid f).reapable = k.reapable := by
  rw [reapable, updateChild, List.filterMap_map]
  congr 1
  funext c
  rw [Function.comp_apply]
  split
  · rw [Child.fact?, Child.fact?, hpid, hstate]
  · rfl

theorem runningPids_updateChild : (k.updateChild pid f).runningPids = k.runningPids := by
  rw [runningPids, updateChild, List.filter_map, List.map_map]
  have hrunning (c : Child) :
      (if c.pid = pid ∧ c.isRunning then f c else c).isRunning = c.isRunning := by
    split
    · rw [Child.isRunning, Child.isRunning, hstate]
    · rfl
  have hsame (c : Child) : (if c.pid = pid ∧ c.isRunning then f c else c).pid = c.pid := by
    split
    · exact hpid c
    · rfl
  simp only [Function.comp_def, hrunning, hsame]
  rfl

theorem Sound.updateChild {k : Kernel} (h : k.Sound) : (k.updateChild pid f).Sound :=
  h.of_same rfl rfl (k.reapable_updateChild pid f hpid hstate) rfl

theorem outstanding_updateChild : (k.updateChild pid f).outstanding = k.outstanding := by
  rw [outstanding, k.reapable_updateChild pid f hpid hstate]
  rfl

theorem Unseen.updateChild : k.Unseen (k.updateChild pid f) where
  outstanding := k.outstanding_updateChild pid f hpid hstate
  runningPids := k.runningPids_updateChild pid f hpid hstate
  held _ := rfl

end UpdateChild

@[simp] theorem signals_stop (k : Kernel) : k.stop.signals = k.signals := by
  rw [stop]
  split <;> rfl

theorem Sound.stop {k : Kernel} (h : k.Sound) : k.stop.Sound := by
  rw [Kernel.stop]
  split
  · exact h.of_same rfl rfl rfl rfl
  · exact h

theorem Unseen.stop (k : Kernel) : k.Unseen k.stop := by
  rw [Kernel.stop]
  split <;> exact ⟨rfl, rfl, fun _ => rfl⟩

end Kernel

end JobShell
