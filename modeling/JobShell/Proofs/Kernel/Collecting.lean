import JobShell.Proofs.Kernel.Move
import Mathlib.Data.List.Nodup

/-!
# What the handler and a wait collect

As long as no child ends or starts, at most the handler runs, and then the kernel stays `Quiet`:
the facts at the front of those that are left to be collected go to the end of the log. While the
child signal is blocked not even this happens. A wait takes the fact of its pid instead, and
where no two uncollected children have one pid nothing else (`Kernel.perm_reap`).
-/

namespace JobShell

namespace Kernel

/-- The pids that uncollected children hold. -/
def childPids (k : Kernel) : List Pid :=
  k.children.map Child.pid

theorem holds_eq_false_iff {k : Kernel} {pid : Pid} :
    k.holds pid = false ↔ pid ∉ k.childPids := by
  rw [holds, List.any_eq_false, childPids, List.mem_map]
  constructor
  · rintro h ⟨c, hc, rfl⟩
    exact h c hc (beq_self_eq_true _)
  · intro h c hc hpid
    exact h ⟨c, hc, beq_iff_eq.1 hpid⟩

theorem childPids_start (k : Kernel) (pid : Pid) (signals : SignalSetup) :
    (k.start pid signals).childPids = k.childPids ++ [pid] := by
  rw [childPids, start, List.map_append]
  rfl

theorem pid_mem_childPids {k : Kernel} {fact : Fact} (h : fact ∈ k.reapable) :
    fact.pid ∈ k.childPids := by
  obtain ⟨c, hc, hpid, -⟩ := mem_reapable.1 h
  exact List.mem_map.2 ⟨c, hc, hpid⟩

/-- A child that does not run any more is left to be collected. -/
theorem exists_mem_reapable {k : Kernel} {pid : Pid} (h : pid ∈ k.childPids)
    (hended : k.isRunning pid = false) : ∃ status, ⟨pid, status⟩ ∈ k.reapable := by
  obtain ⟨c, hc, rfl⟩ := List.mem_map.1 h
  have hstopped : c.isRunning = false := by
    rw [isRunning, List.any_eq_false] at hended
    simpa using hended c hc
  obtain ⟨status, hstate, -⟩ := fact?_of_not_isRunning hstopped
  exact ⟨status, mem_reapable.2 ⟨c, hc, rfl, hstate⟩⟩

theorem dropEnded_sublist (n : Nat) (cs : List Child) : (dropEnded n cs).Sublist cs := by
  induction cs generalizing n with
  | nil => cases n <;> exact List.Sublist.refl _
  | cons c cs ih =>
      cases n with
      | zero => exact List.Sublist.refl _
      | succ n =>
          rw [dropEnded]
          split
          · exact (ih (n + 1)).cons_cons c
          · exact (ih n).cons c

/-- At most the handler has run. -/
structure Quiet (k k' : Kernel) : Prop where
  moved : ∃ facts, k'.log.waiting = k.log.waiting ++ facts ∧ k.reapable = facts ++ k'.reapable
  pids : k'.childPids.Sublist k.childPids
  handler : k'.signals.child = k.signals.child
  formed : k'.log.WellFormed
  held : k'.signals.childBlocked = true → k'.log = k.log ∧ k'.childPids = k.childPids

section Quiet

variable {k k' : Kernel}

/-- A change of something else. -/
theorem Quiet.of_same (hformed : k.log.WellFormed) (hlog : k'.log = k.log)
    (hreapable : k'.reapable = k.reapable) (hpids : k'.childPids = k.childPids)
    (hhandler : k'.signals.child = k.signals.child) : k.Quiet k' where
  moved := ⟨[], by rw [hlog, List.append_nil], by rw [hreapable, List.nil_append]⟩
  pids := hpids ▸ List.Sublist.refl _
  handler := hhandler
  formed := by rwa [hlog]
  held _ := ⟨hlog, hpids⟩

theorem Quiet.handleChild (hformed : k.log.WellFormed)
    (hblocked : k.signals.childBlocked = false) : k.Quiet k.handleChild where
  moved := by
    refine ⟨k.reapable.take k.log.room, ?_, ?_⟩
    · rw [log_handleChild, TerminationLog.waiting_collect _ _ hformed.pending_le]
    · rw [reapable_handleChild, List.take_append_drop]
  pids := (dropEnded_sublist _ k.children).map Child.pid
  handler := rfl
  formed := hformed.collect _
  held h := absurd (hblocked.symm.trans h) Bool.false_ne_true

theorem Quiet.deliverChild (hformed : k.log.WellFormed)
    (hblocked : k.signals.childBlocked = false) : k.Quiet k.deliverChild := by
  rw [Kernel.deliverChild]
  split
  · exact .handleChild hformed hblocked
  · exact .of_same hformed rfl rfl rfl rfl

theorem Quiet.raiseChild (hformed : k.log.WellFormed) : k.Quiet k.raiseChild := by
  rw [Kernel.raiseChild]
  split
  · exact .of_same hformed rfl rfl rfl rfl
  · next hopen => exact .deliverChild hformed (Bool.eq_false_iff.2 hopen)

/-- The mask is another one, and a child signal that waits is delivered if this unblocks it. -/
theorem Quiet.setMask (hformed : k.log.WellFormed) (mask : SignalSet) :
    k.Quiet (k.setMask mask) := by
  rw [setMask_eq]
  split
  · next hdeliver =>
      rw [Bool.and_eq_true, Bool.not_eq_true'] at hdeliver
      have hquiet := Quiet.deliverChild
        (k := { k with signals := { k.signals with mask }, childPending := false })
        hformed hdeliver.1
      exact ⟨hquiet.moved, hquiet.pids, hquiet.handler, hquiet.formed, hquiet.held⟩
  · exact .of_same hformed rfl rfl rfl rfl

theorem childPids_updateChild (k : Kernel) (pid : Pid) (f : Child → Child)
    (hpid : ∀ c, (f c).pid = c.pid) : (k.updateChild pid f).childPids = k.childPids := by
  rw [childPids, updateChild, List.map_map]
  apply List.map_congr_left
  intro c _
  rw [Function.comp_apply]
  split
  · exact hpid c
  · rfl

/-- Whatever happens by itself and is no end is quiet. -/
theorem Move.quiet (move : Move k [] k') (hformed : k.log.WellFormed) : k.Quiet k' := by
  cases move with
  | deliver hblocked hpending =>
      have hquiet := Quiet.deliverChild (k := { k with childPending := false }) hformed hblocked
      exact ⟨hquiet.moved, hquiet.pids, hquiet.handler, hquiet.formed, hquiet.held⟩
  | signal => exact .raiseChild hformed
  | adjust pid f hpid hstate =>
      exact .of_same hformed rfl (k.reapable_updateChild pid f hpid hstate)
        (k.childPids_updateChild pid f hpid) rfl
  | stop =>
      rw [Kernel.stop]
      split <;> exact .of_same hformed rfl rfl rfl rfl
  | send => exact .of_same hformed rfl rfl rfl rfl

end Quiet

section Terminate

variable (k : Kernel) (pid : Pid) (status : StatusWord)

theorem childPids_terminate : (k.terminate pid status).childPids = k.childPids := by
  rw [childPids, terminate, markEnded, List.map_map]
  apply List.map_congr_left
  intro c _
  rw [Function.comp_apply]
  split <;> rfl

variable {k pid} in
theorem count_runningPids (hpids : k.childPids.Nodup) (hrunning : k.isRunning pid = true) :
    k.runningPids.count pid = 1 := by
  have hnodup : k.runningPids.Nodup := hpids.sublist (List.filter_sublist.map Child.pid)
  exact List.count_eq_one_of_mem hnodup (mem_runningPids.2 hrunning)

/-- A child that ends leaves its fact. -/
theorem perm_terminate (hpids : k.childPids.Nodup) (hrunning : k.isRunning pid = true) :
    (k.terminate pid status).reapable.Perm (⟨pid, status⟩ :: k.reapable) :=
  filterMap_fact?_markEnded pid status k.children (count_runningPids hpids hrunning)

end Terminate

section Reap

variable {k : Kernel} {pid : Pid} {status : StatusWord}

theorem mem_reapable_of_reap (h : (k.reap pid).1 = some status) : ⟨pid, status⟩ ∈ k.reapable := by
  rw [Kernel.reap] at h
  split at h
  · cases h
  · next fact hfind =>
      obtain rfl : fact.status = status := by simpa using h
      have hpid : fact.pid = pid := by simpa using List.find?_some hfind
      rw [← hpid]
      exact List.mem_of_find?_eq_some hfind

theorem exists_reap_of_mem (h : ⟨pid, status⟩ ∈ k.reapable) :
    ∃ found, (k.reap pid).1 = some found := by
  rw [Kernel.reap]
  cases hfind : k.reapable.find? fun fact => fact.pid == pid with
  | none => exact absurd (beq_self_eq_true pid) (List.find?_eq_none.1 hfind ⟨pid, status⟩ h)
  | some fact => exact ⟨fact.status, rfl⟩

theorem childPids_reap_sublist (k : Kernel) (pid : Pid) :
    (k.reap pid).2.childPids.Sublist k.childPids := by
  rw [childPids, reap_snd_children]
  exact List.filter_sublist.map Child.pid

theorem nodup_reapable (hpids : k.childPids.Nodup) : (k.reapable.map Fact.pid).Nodup := by
  refine hpids.sublist ?_
  rw [childPids, reapable]
  induction k.children with
  | nil => exact List.Sublist.refl _
  | cons c cs ih =>
      cases hfact : c.fact? with
      | none =>
          rw [List.filterMap_cons_none hfact]
          exact ih.cons c.pid
      | some fact =>
          have hpid : fact.pid = c.pid := by
            rw [Child.fact?] at hfact
            split at hfact
            · cases hfact
            · rw [← Option.some.inj hfact]
          rw [List.filterMap_cons_some hfact, List.map_cons, List.map_cons, hpid]
          exact ih.cons_cons c.pid

/-- A fact and the facts of the other pids are all there are. -/
theorem perm_cons_filter {facts : List Fact} {fact : Fact} (hpids : (facts.map Fact.pid).Nodup)
    (hfact : fact ∈ facts) :
    facts.Perm (fact :: facts.filter fun other => other.pid != fact.pid) := by
  induction facts with
  | nil => simp at hfact
  | cons first facts ih =>
      rw [List.map_cons, List.nodup_cons] at hpids
      obtain ⟨hfresh, hrest⟩ := hpids
      cases List.mem_cons.1 hfact with
      | inl hfirst =>
          have hkept : facts.filter (fun other => other.pid != first.pid) = facts := by
            rw [List.filter_eq_self]
            intro other hother
            exact bne_iff_ne.2 fun hpid => hfresh (hpid ▸ List.mem_map_of_mem hother)
          rw [hfirst, List.filter_cons_of_neg (by simp), hkept]
      | inr hlater =>
          have hne : (first.pid != fact.pid) = true :=
            bne_iff_ne.2 fun hpid => hfresh (hpid ▸ List.mem_map_of_mem hlater)
          rw [List.filter_cons, if_pos hne]
          exact ((ih hrest hlater).cons first).trans (List.Perm.swap ..)

/-- A wait takes the fact of its pid and leaves all others. -/
theorem perm_reap (hpids : k.childPids.Nodup) (h : (k.reap pid).1 = some status) :
    k.reapable.Perm (⟨pid, status⟩ :: (k.reap pid).2.reapable) := by
  rw [reapable_reap]
  exact perm_cons_filter (nodup_reapable hpids) (mem_reapable_of_reap h)

/-- The pid of a child that was waited for is free. -/
theorem notMem_childPids_reap (hpids : k.childPids.Nodup) (h : (k.reap pid).1 = some status) :
    pid ∉ (k.reap pid).2.childPids := by
  obtain ⟨c, hc, hpid, hstate⟩ := mem_reapable.1 (mem_reapable_of_reap h)
  intro hmem
  obtain ⟨other, hother, hpid'⟩ := List.mem_map.1 hmem
  rw [reap_snd_children, List.mem_filter] at hother
  obtain rfl : other = c :=
    List.inj_on_of_nodup_map hpids hother.1 hc (hpid'.trans hpid.symm)
  have hended : other.isRunning = false := by simp [Child.isRunning, hstate]
  simp [hpid', hended] at hother

/-- A wait that finds nothing changes nothing. -/
theorem reap_of_none (h : (k.reap pid).1 = none) : (k.reap pid).2 = k := by
  rw [Kernel.reap] at h ⊢
  split at h
  · rfl
  · cases h

/-- A wait for a pid that nobody holds finds nothing. -/
theorem reap_of_notMem (h : pid ∉ k.childPids) : k.reap pid = (none, k) := by
  have hnone : (k.reap pid).1 = none := by
    cases hfound : (k.reap pid).1 with
    | none => rfl
    | some status => exact absurd (pid_mem_childPids (mem_reapable_of_reap hfound)) h
  exact Prod.ext hnone (reap_of_none hnone)

end Reap

/-- Children are collected by the handler, and no two of those that were not have one pid. -/
structure Ready (k : Kernel) : Prop where
  handler : k.signals.child = .handler
  formed : k.log.WellFormed
  pids : k.childPids.Nodup

section Ready

variable {k k' : Kernel} {pid : Pid} {status : StatusWord} (h : k.Ready)
include h

theorem Ready.quiet (hquiet : k.Quiet k') : k'.Ready where
  handler := hquiet.handler.trans h.handler
  formed := hquiet.formed
  pids := h.pids.sublist hquiet.pids

theorem Ready.terminate : (k.terminate pid status).Ready where
  handler := h.handler
  formed := h.formed
  pids := by
    rw [childPids_terminate]
    exact h.pids

theorem Ready.start (signals : SignalSetup) (hfree : k.holds pid = false) :
    (k.start pid signals).Ready where
  handler := h.handler
  formed := h.formed
  pids := by
    rw [childPids_start]
    exact h.pids.append (List.nodup_singleton pid)
      (List.disjoint_singleton.2 (holds_eq_false_iff.1 hfree))

theorem Ready.reap : (k.reap pid).2.Ready where
  handler := by
    rw [signals_reap]
    exact h.handler
  formed := by
    rw [log_reap]
    exact h.formed
  pids := h.pids.sublist (k.childPids_reap_sublist pid)

end Ready

end Kernel

end JobShell
