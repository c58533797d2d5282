import JobShell.Proofs.Kernel.Outstanding

/-!
# How children come and go

A child that starts joins the running ones. A child that ends leaves them and its fact joins
the outstanding ones (`Kernel.outstanding_terminate`), and a wait takes the fact of its pid
from them, unless the handler has been there first (`Kernel.outstanding_reap`).
-/

namespace JobShell

namespace Kernel

/-- A child ends, and the child signal is on its way. -/
def terminate (k : Kernel) (pid : Pid) (status : StatusWord) : Kernel :=
  { k with children := markEnded pid status k.children, childPending := true }

section Start

variable (k : Kernel) (pid : Pid) (signals : SignalSetup)

theorem reapable_start : (k.start pid signals).reapable = k.reapable := by
  rw [reapable, start, List.filterMap_append]
  exact List.append_nil _

theorem outstanding_start : (k.start pid signals).outstanding = k.outstanding := by
  rw [outstanding, reapable_start]
  rfl

theorem runningPids_start : (k.start pid signals).runningPids = k.runningPids ++ [pid] := by
  rw [runningPids, start, List.filter_append, List.map_append]
  rfl

theorem Sound.start {k : Kernel} (h : k.Sound) : (k.start pid signals).Sound :=
  h.of_same rfl rfl (k.reapable_start pid signals) rfl

end Start

section Terminate

variable (k : Kernel) (pid : Pid) (status : StatusWord)

theorem Sound.terminate {k : Kernel} (h : k.Sound) : (k.terminate pid status).Sound where
  log := h.log
  handler := h.handler
  wakeful _ := Or.inl rfl

theorem markEnded_cons_of_pos {pid : Pid} {status : StatusWord} {c : Child}
    (cs : List Child) (h : c.pid = pid ∧ c.isRunning = true) :
    markEnded pid status (c :: cs) =
      { c with state := .ended status } :: markEnded pid status cs := by
  rw [markEnded, List.map_cons, if_pos h]
  rfl

theorem markEnded_cons_of_neg {pid : Pid} {status : StatusWord} {c : Child}
    (cs : List Child) (h : ¬ (c.pid = pid ∧ c.isRunning = true)) :
    markEnded pid status (c :: cs) = c :: markEnded pid status cs := by
  rw [markEnded, List.map_cons, if_neg h]
  rfl

theorem fact?_of_isRunning {c : Child} (h : c.isRunning = true) : c.fact? = none := by
  rw [Child.isRunning, beq_iff_eq] at h
  rw [Child.fact?, h]

/-- A child that ends no longer runs. -/
theorem runningPids_terminate :
    (k.terminate pid status).runningPids = k.runningPids.filter (· != pid) := by
  rw [runningPids, runningPids, terminate]
  induction k.children with
  | nil => rfl
  | cons c cs ih =>
      by_cases hmatch : c.pid = pid ∧ c.isRunning = true
      · rw [markEnded_cons_of_pos cs hmatch]
        simp only [List.filter_cons, hmatch.2, if_true, List.map_cons, hmatch.1, bne_self_eq_false,
          Bool.false_eq_true, if_false]
        exact ih
      · rw [markEnded_cons_of_neg cs hmatch, List.filter_cons, List.filter_cons]
        split
        · next hrunning =>
            have hpid : (c.pid != pid) = true :=
              bne_iff_ne.2 fun hpid => hmatch ⟨hpid, hrunning⟩
            rw [List.map_cons, List.map_cons, List.filter_cons, if_pos hpid, ih]
        · exact ih

theorem isRunning_endChild {k : Kernel} (hhandler : k.signals.child = .handler) (pid : Pid)
    (status : StatusWord) : (k.endChild pid status).isRunning pid = false := by
  rw [endChild, hhandler]
  split
  · next hended => simpa using hended
  · rw [if_neg (by decide), ← Bool.not_eq_true, ← mem_runningPids, runningPids_raiseChild]
    change pid ∉ (k.terminate pid status).runningPids
    rw [runningPids_terminate, List.mem_filter]
    simp

theorem filterMap_fact?_markEnded_of_notMem (cs : List Child)
    (h : pid ∉ (cs.filter Child.isRunning).map Child.pid) :
    (markEnded pid status cs).filterMap Child.fact? = cs.filterMap Child.fact? := by
  induction cs with
  | nil => rfl
  | cons c cs ih =>
      have hmatch : ¬ (c.pid = pid ∧ c.isRunning = true) := by
        rintro ⟨hpid, hrunning⟩
        exact h (by simp [hrunning, hpid])
      have hrest : pid ∉ (cs.filter Child.isRunning).map Child.pid := by
        intro hmem
        refine h (List.Sublist.subset ?_ hmem)
        exact ((List.sublist_cons_self c cs).filter _).map _
      rw [markEnded_cons_of_neg cs hmatch, List.filterMap_cons, List.filterMap_cons, ih hrest]

/-- The fact of the only running child of its pid joins the others. -/
theorem filterMap_fact?_markEnded (cs : List Child)
    (h : ((cs.filter Child.isRunning).map Child.pid).count pid = 1) :
    ((markEnded pid status cs).filterMap Child.fact?).Perm
      (⟨pid, status⟩ :: cs.filterMap Child.fact?) := by
  induction cs with
  | nil => simp at h
  | cons c cs ih =>
      by_cases hmatch : c.pid = pid ∧ c.isRunning = true
      · -- this is the only one, so the others stay as they are
        have hrest : pid ∉ (cs.filter Child.isRunning).map Child.pid := by
          rw [List.filter_cons, if_pos hmatch.2, List.map_cons, hmatch.1,
            List.count_cons_self] at h
          exact List.count_eq_zero.1 (by omega)
        have hfact : Child.fact? { c with state := .ended status } = some ⟨pid, status⟩ := by
          rw [Child.fact?, ← hmatch.1]
        rw [markEnded_cons_of_pos cs hmatch, List.filterMap_cons_some hfact,
          filterMap_fact?_markEnded_of_notMem pid status cs hrest,
          List.filterMap_cons_none (fact?_of_isRunning hmatch.2)]
      · have hrest : ((cs.filter Child.isRunning).map Child.pid).count pid = 1 := by
          rw [List.filter_cons] at h
          split at h
          · next hrunning =>
              have hpid : c.pid ≠ pid := fun hpid => hmatch ⟨hpid, hrunning⟩
              rwa [List.map_cons, List.count_cons_of_ne hpid] at h
          · exact h
        rw [markEnded_cons_of_neg cs hmatch]
        cases hfact : c.fact? with
        | none =>
            rw [List.filterMap_cons_none hfact, List.filterMap_cons_none hfact]
            exact ih hrest
        | some fact =>
            rw [List.filterMap_cons_some hfact, List.filterMap_cons_some hfact]
            exact ((ih hrest).cons fact).trans (List.Perm.swap ..)

theorem outstanding_terminate (h : k.runningPids.count pid = 1) :
    (k.terminate pid status).outstanding.Perm (⟨pid, status⟩ :: k.outstanding) := by
  have hperm := (filterMap_fact?_markEnded pid status k.children h).append_left k.log.waiting
  exact hperm.trans List.perm_middle

end Terminate

section Reap

variable (k : Kernel) (pid : Pid)

theorem fact?_of_not_isRunning {c : Child} (h : c.isRunning = false) :
    ∃ status, c.state = .ended status ∧ c.fact? = some ⟨c.pid, status⟩ := by
  cases hstate : c.state with
  | running => simp [Child.isRunning, hstate] at h
  | ended status => exact ⟨status, rfl, by rw [Child.fact?, hstate]⟩

/-- A wait for a pid removes every ended child of this pid, if there is one. -/
theorem reap_snd_children :
    (k.reap pid).2.children = k.children.filter fun c => !(c.pid == pid && !c.isRunning) := by
  cases hfind : k.reapable.find? fun fact => fact.pid == pid with
  | some fact => simp only [reap, hfind]
  | none =>
      simp only [reap, hfind]
      rw [List.find?_eq_none] at hfind
      symm
      rw [List.filter_eq_self]
      intro c hc
      cases hrunning : c.isRunning with
      | true => simp
      | false =>
          obtain ⟨status, hstate, -⟩ := fact?_of_not_isRunning hrunning
          have hpid := hfind ⟨c.pid, status⟩ (mem_reapable.2 ⟨c, hc, rfl, hstate⟩)
          simpa using hpid

theorem runningPids_reap : (k.reap pid).2.runningPids = k.runningPids := by
  rw [runningPids, runningPids, reap_snd_children, List.filter_filter]
  congr 1
  apply List.filter_congr
  intro c _
  cases c.isRunning <;> simp

theorem reapable_reap :
    (k.reap pid).2.reapable = k.reapable.filter fun fact => fact.pid != pid := by
  rw [reapable, reap_snd_children, reapable]
  induction k.children with
  | nil => rfl
  | cons c cs ih =>
      cases hrunning : c.isRunning with
      | true =>
          rw [List.filter_cons, hrunning, Bool.not_true, Bool.and_false, Bool.not_false,
            if_pos rfl, List.filterMap_cons_none (fact?_of_isRunning hrunning),
            List.filterMap_cons_none (fact?_of_isRunning hrunning), ih]
      | false =>
          rcases fact?_of_not_isRunning hrunning with ⟨status, -, hfact⟩
          rw [List.filter_cons, hrunning, List.filterMap_cons_some hfact, List.filter_cons]
          by_cases hpid : c.pid = pid
          · rw [if_neg (by simp [hpid]), if_neg (by simp [hpid]), ih]
          · rw [if_pos (by simp [hpid]), if_pos (by simp [hpid]),
              List.filterMap_cons_some hfact, ih]

/-- A second wait for a pid finds nothing. -/
theorem reap_reap : (k.reap pid).2.reap pid = (none, (k.reap pid).2) := by
  rw [reap]
  have hnone : (k.reap pid).2.reapable.find? (fun fact => fact.pid == pid) = none := by
    rw [reapable_reap, List.find?_eq_none]
    intro fact hfact
    simpa using (List.mem_filter.1 hfact).2
  rw [hnone]

@[simp] theorem log_reap : (k.reap pid).2.log = k.log := by
  rw [reap]
  split <;> rfl

@[simp] theorem signals_reap : (k.reap pid).2.signals = k.signals := by
  rw [reap]
  split <;> rfl

@[simp] theorem childPending_reap : (k.reap pid).2.childPending = k.childPending := by
  rw [reap]
  split <;> rfl

theorem Sound.reap {k : Kernel} (h : k.Sound) : (k.reap pid).2.Sound where
  log := by rw [log_reap]; exact h.log
  handler := by rw [signals_reap]; exact h.handler
  wakeful := by
    rw [reapable_reap, childPending_reap, log_reap]
    intro hleft
    refine h.wakeful fun hnone => hleft ?_
    rw [hnone, List.filter_nil]

/-- A wait removes the fact of its pid from the outstanding ones, unless it is in the log. -/
theorem outstanding_reap (hlog : pid ∉ k.log.waiting.map Fact.pid) :
    (k.reap pid).2.outstanding = k.outstanding.filter fun fact => fact.pid != pid := by
  rw [outstanding, outstanding, log_reap, reapable_reap, List.filter_append]
  congr 1
  symm
  rw [List.filter_eq_self]
  intro fact hfact
  exact bne_iff_ne.2 fun hpid => hlog (List.mem_map.2 ⟨fact, hfact, hpid⟩)

/-- What a wait yields was outstanding. -/
theorem mem_outstanding_of_reap {status : StatusWord}
    (h : (k.reap pid).1 = some status) : ⟨pid, status⟩ ∈ k.outstanding := by
  rw [Kernel.reap] at h
  split at h
  · cases h
  · next fact hfind =>
      obtain rfl : fact.status = status := by simpa using h
      have hpid : fact.pid = pid := by simpa using List.find?_some hfind
      rw [← hpid]
      exact List.mem_append_right _ (List.mem_of_find?_eq_some hfind)

end Reap

end Kernel

end JobShell
