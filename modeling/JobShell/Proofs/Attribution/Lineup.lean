import JobShell.Proofs.Attribution.Roster
import JobShell.Proofs.Launch.Account

/-!
# The line of a pid

The background launches of a pid whose end was not applied yet are in three places: their facts
were taken, or they are in the log, or the child of the last one was not collected yet
(`Ledger.line`). The handler only moves the front of the third part to the end of the second
one, the end of a child changes nothing, and a foreground child stands in no line, since the
child signal is blocked until it was waited for. So lines change by background launches and by
the facts that are applied, and by nothing else.

`Ledger.Books` says that the ledger is right about the kernel.
-/

namespace JobShell

namespace Kernel

/-- A child that was not collected runs or has ended. -/
theorem count_childPids (k : Kernel) (pid : Pid) :
    k.childPids.count pid =
      k.runningPids.count pid + (k.reapable.map Fact.pid).count pid := by
  rw [childPids, runningPids, reapable]
  induction k.children with
  | nil => rfl
  | cons c cs ih =>
      rw [List.map_cons, List.count_cons, ih]
      cases hrunning : c.isRunning with
      | true =>
          rw [List.filter_cons_of_pos hrunning,
            List.filterMap_cons_none (fact?_of_isRunning hrunning), List.map_cons,
            List.count_cons]
          omega
      | false =>
          obtain ⟨status, -, hfact⟩ := fact?_of_not_isRunning hrunning
          rw [List.filter_cons_of_neg (by simp [hrunning]), List.filterMap_cons_some hfact,
            List.map_cons, List.count_cons]
          exact Nat.add_assoc ..

theorem runningPids_setMask (k : Kernel) (mask : SignalSet) :
    (k.setMask mask).runningPids = k.runningPids := by
  rw [setMask_eq]
  split
  · rw [deliverPending, runningPids_deliverChild]
    rfl
  · rfl

variable {k k' : Kernel} {facts : List Fact}

theorem Move.runningPids_eq (move : k.Move [] k') : k'.runningPids = k.runningPids := by
  cases move with
  | deliver =>
      rw [deliverPending, runningPids_deliverChild]
      rfl
  | signal => exact k.runningPids_raiseChild
  | adjust pid f hpid hstate => exact k.runningPids_updateChild pid f hpid hstate
  | stop => exact (Unseen.stop k).runningPids
  | send => rfl

theorem count_childPids_reap_of_ne (k : Kernel) {pid other : Pid} (h : other ≠ pid) :
    (k.reap pid).2.childPids.count other = k.childPids.count other := by
  have hfilter : (k.reapable.filter fun fact => fact.pid != pid).map Fact.pid =
      (k.reapable.map Fact.pid).filter (· != pid) := by
    rw [List.filter_map]
    rfl
  rw [count_childPids, count_childPids, runningPids_reap, reapable_reap, hfilter,
    List.count_filter (by simpa using h)]

/-- The handler has collected these facts, and nobody has ended. -/
structure Collects (k : Kernel) (facts : List Fact) (k' : Kernel) : Prop where
  quiet : k.Quiet k'
  log : k'.log.waiting = k.log.waiting ++ facts
  reapable : k.reapable = facts ++ k'.reapable
  running : k'.runningPids = k.runningPids

theorem Quiet.exists_collects (h : k.Quiet k') (hrunning : k'.runningPids = k.runningPids) :
    ∃ facts, k.Collects facts k' ∧
      Incident.recordings k k' = facts.map (.collected .handler) := by
  obtain ⟨facts, hlog, hreapable⟩ := h.moved
  exact ⟨facts, ⟨h, hlog, hreapable, hrunning⟩, Incident.recordings_eq hlog⟩

/-- Who is collected is a child no longer. -/
theorem Collects.count_childPids (h : k.Collects facts k') (pid : Pid) :
    k.childPids.count pid = (facts.map Fact.pid).count pid + k'.childPids.count pid := by
  rw [Kernel.count_childPids, Kernel.count_childPids, h.running, h.reapable, List.map_append,
    List.count_append]
  omega

/-- While the child signal is blocked nobody is collected. -/
theorem Collects.eq_nil (h : k.Collects facts k') (hblocked : k'.signals.childBlocked = true) :
    facts = [] := by
  have hlog := h.log
  rw [(h.quiet.held hblocked).1] at hlog
  simpa using hlog

end Kernel

namespace Ledger

/-- The launches that entries about a pid tell of. -/
def tellers (pid : Pid) (entries : List (Fact × Nat)) : List Nat :=
  (entries.filter fun entry => entry.1.pid == pid).map Prod.snd

section Tellers

variable {pid : Pid} {entries later : List (Fact × Nat)} {fact : Fact} {n : Nat}

theorem tellers_append :
    tellers pid (entries ++ later) = tellers pid entries ++ tellers pid later := by
  rw [tellers, List.filter_append, List.map_append]
  rfl

theorem tellers_cons_self :
    tellers fact.pid ((fact, n) :: entries) = n :: tellers fact.pid entries := by
  rw [tellers, List.filter_cons_of_pos (by simp)]
  rfl

theorem tellers_cons_of_ne (h : fact.pid ≠ pid) :
    tellers pid ((fact, n) :: entries) = tellers pid entries := by
  rw [tellers, List.filter_cons_of_neg (by simpa using h)]
  rfl

theorem mem_tellers : n ∈ tellers pid entries ↔ ∃ fact, (fact, n) ∈ entries ∧ fact.pid = pid := by
  simp [tellers, and_comm]

/-- What was recorded of a pid tells of the child that had it. -/
theorem tellers_recorded (child : Pid → Nat) (facts : List Fact) :
    tellers pid (facts.map fun fact => (fact, child fact.pid)) =
      List.replicate ((facts.map Fact.pid).count pid) (child pid) := by
  induction facts with
  | nil => rfl
  | cons fact facts ih =>
      rw [List.map_cons, List.map_cons]
      by_cases hpid : fact.pid = pid
      · rw [← hpid] at ih ⊢
        rw [tellers_cons_self, ih, List.count_cons_self, List.replicate_succ]
      · rw [tellers_cons_of_ne hpid, ih, List.count_cons_of_ne hpid]

theorem any_eq_not_isEmpty_tellers (pid : Pid) (entries : List (Fact × Nat)) :
    (entries.any fun entry => entry.1.pid == pid) = !(tellers pid entries).isEmpty := by
  rw [Bool.eq_iff_iff]
  simp [tellers]

end Tellers

/-- The background launches of a pid whose end was not applied yet, the oldest first, while
this foreground child is waited for. -/
def line (l : Ledger) (k : Kernel) (awaited? : Option Pid) (pid : Pid) : List Nat :=
  tellers pid (l.taken ++ l.logged) ++
    List.replicate (if awaited? = some pid then 0 else k.childPids.count pid) (l.child pid)

section Line

variable {l : Ledger} {k k' : Kernel} {facts : List Fact} {awaited? : Option Pid}

/-- What the handler collects stays in line. -/
theorem line_collects (collects : k.Collects facts k')
    (hblocked : awaited?.isSome → k'.signals.childBlocked = true) :
    (l.noteAll (facts.map (.collected .handler))).line k' awaited? = l.line k awaited? := by
  funext pid
  rw [noteAll_recorded, line, line, ← List.append_assoc, tellers_append, tellers_recorded,
    List.append_assoc]
  congr 1
  split
  · next hawaited =>
      rw [collects.eq_nil (hblocked (Option.isSome_of_mem hawaited))]
      rfl
  · rw [collects.count_childPids, List.replicate_add]

theorem line_terminate (pid : Pid) (status : StatusWord) :
    l.line (k.terminate pid status) awaited? = l.line k awaited? := by
  funext other
  rw [line, Kernel.childPids_terminate]
  rfl

theorem line_start_of_ne {pid other : Pid} (h : other ≠ pid) (signals : SignalSetup) :
    (l.note (.forked pid)).line (k.start pid signals) awaited? other = l.line k awaited? other := by
  have hcount : (k.start pid signals).childPids.count other = k.childPids.count other := by
    rw [Kernel.childPids_start, List.count_append, List.count_cons_of_ne (Ne.symm h)]
    rfl
  have hchild : (l.note (.forked pid)).child other = l.child other := Function.update_of_ne h ..
  rw [line, line, hcount, hchild]
  rfl

/-- Before anything is taken, the line of a free pid is in the log. -/
theorem line_of_hands_empty {pid : Pid} (hempty : l.taken = []) (hfree : pid ∉ k.childPids) :
    l.line k awaited? pid = tellers pid l.logged := by
  rw [line, hempty, List.count_eq_zero.2 hfree, ite_self]
  exact List.append_nil _

/-- A background launch joins the line of its pid. -/
theorem line_start_background {pid : Pid} (hfree : k.holds pid = false) (signals : SignalSetup) :
    (l.note (.forked pid)).line (k.start pid signals) none =
      Function.update (l.line k none) pid (l.line k none pid ++ [l.launches.length]) := by
  have hnone : k.childPids.count pid = 0 :=
    List.count_eq_zero.2 (Kernel.holds_eq_false_iff.1 hfree)
  have hone : (k.start pid signals).childPids.count pid = 1 := by
    rw [Kernel.childPids_start, List.count_append, hnone, List.count_singleton_self]
  have hchild : (l.note (.forked pid)).child pid = l.launches.length := Function.update_self ..
  funext other
  by_cases hother : other = pid
  · rw [hother, Function.update_self, line, line, hone, hnone, hchild]
    simp [note]
  · rw [Function.update_of_ne hother, line_start_of_ne hother]

theorem line_of_notMem {pid : Pid} (h : pid ∉ k.childPids) :
    l.line k (some pid) = l.line k none := by
  funext other
  by_cases hother : other = pid
  · rw [hother, line, line, if_pos rfl, if_neg nofun, List.count_eq_zero.2 h]
  · rw [line, line, if_neg (by simpa using Ne.symm hother), if_neg nofun]

/-- A foreground launch joins no line. -/
theorem line_start_foreground {pid : Pid} (hfree : k.holds pid = false) (signals : SignalSetup) :
    (l.note (.forked pid)).line (k.start pid signals) (some pid) = l.line k none := by
  rw [← line_of_notMem (Kernel.holds_eq_false_iff.1 hfree)]
  funext other
  by_cases hother : other = pid
  · rw [hother, line, line, if_pos rfl, if_pos rfl]
    rfl
  · exact line_start_of_ne hother signals

/-- Nor does it leave one when it was waited for. -/
theorem line_reap {pid : Pid} {status : StatusWord} (hpids : k.childPids.Nodup)
    (hreap : (k.reap pid).1 = some status) (hawaited : awaited? = none ∨ awaited? = some pid) :
    l.line (k.reap pid).2 awaited? = l.line k (some pid) := by
  have hgone : (k.reap pid).2.childPids.count pid = 0 :=
    List.count_eq_zero.2 (Kernel.notMem_childPids_reap hpids hreap)
  funext other
  by_cases hother : other = pid
  · rw [hother, line, line, if_pos rfl, hgone, ite_self]
  · have hawaited' : awaited? ≠ some other := by
      rintro rfl
      simp [hother] at hawaited
    rw [line, line, if_neg hawaited', if_neg (by simpa using Ne.symm hother),
      k.count_childPids_reap_of_ne hother]

/-- A fact that is applied is about the launch at the front of its line. -/
theorem line_of_taken {fact : Fact} {teller : Nat} {rest : List (Fact × Nat)}
    (htaken : l.taken = (fact, teller) :: rest) :
    l.line k awaited? fact.pid =
        teller :: { l with taken := rest }.line k awaited? fact.pid ∧
      { l with taken := rest }.line k awaited? =
        Function.update (l.line k awaited?) fact.pid
          ({ l with taken := rest }.line k awaited? fact.pid) := by
  refine ⟨?_, ?_⟩
  · rw [line, line, htaken, List.cons_append, tellers_cons_self]
    rfl
  · funext other
    by_cases hother : other = fact.pid
    · rw [hother, Function.update_self]
    · rw [Function.update_of_ne hother, line, line, htaken, List.cons_append,
        tellers_cons_of_ne (Ne.symm hother)]

theorem line_take (hempty : l.taken = []) :
    { l with taken := l.logged, logged := [] }.line k.takeLog awaited? = l.line k awaited? := by
  funext pid
  rw [line, line, hempty, List.append_nil]
  rfl

end Line

/-- The end that an entry tells of is known, and is one. -/
def Told (history : List Notice) (entry : Fact × Nat) : Prop :=
  .ended entry.2 entry.1.status ∈ history ∧ (Termination.ofStatus? entry.1.status).isSome

/-- The ledger is right about the kernel. -/
structure Books (history : List Notice) (k : Kernel) (l : Ledger) : Prop where
  ready : k.Ready
  logged : l.logged.map Prod.fst = k.log.waiting
  told : ∀ entry ∈ l.taken ++ l.logged, Told history entry
  left : ∀ fact ∈ k.reapable, Told history (fact, l.child fact.pid)

section Books

variable {history : List Notice} {k k' : Kernel} {l : Ledger} {facts : List Fact}

theorem Told.append {entry : Fact × Nat} (h : Told history entry) (notices : List Notice) :
    Told (history ++ notices) entry :=
  ⟨List.mem_append_left _ h.1, h.2⟩

theorem Books.append (h : Books history k l) (notices : List Notice) :
    Books (history ++ notices) k l where
  ready := h.ready
  logged := h.logged
  told entry hentry := (h.told entry hentry).append notices
  left fact hfact := (h.left fact hfact).append notices

/-- Whatever is done to the children and the log, the ledger goes along with it. -/
theorem Books.deed {incidents : List Incident} (h : Books history k l)
    (deed : Incident.Deed k incidents k') :
    Books (history ++ l.notices incidents) k' (l.noteAll incidents) := by
  cases deed with
  | @quiet _ facts hquiet hlog hreapable =>
      rw [noteAll_recorded, notices_recorded, List.append_nil]
      refine ⟨h.ready.quiet hquiet, ?_, ?_, ?_⟩
      · rw [List.map_append, h.logged, hlog, List.map_map]
        congr 1
        exact List.map_id _
      · intro entry hentry
        rw [← List.append_assoc, List.mem_append] at hentry
        cases hentry with
        | inl hearlier => exact h.told entry hearlier
        | inr hnew =>
            obtain ⟨fact, hfact, rfl⟩ := List.mem_map.1 hnew
            exact h.left fact (hreapable ▸ List.mem_append_left _ hfact)
      · intro fact hfact
        exact h.left fact (hreapable ▸ List.mem_append_right _ hfact)
  | ended pid status hrunning hend =>
      refine ⟨h.ready.terminate, h.logged, (h.append _).told, fun fact hfact => ?_⟩
      have hperm := k.perm_terminate pid status h.ready.pids hrunning
      cases List.mem_cons.1 (hperm.subset hfact) with
      | inl hnew =>
          rw [hnew]
          exact ⟨List.mem_append_right _ List.mem_cons_self, hend⟩
      | inr hold => exact (h.left fact hold).append _
  | forked pid signals hfree =>
      refine ⟨h.ready.start signals hfree, h.logged, (h.append _).told, fun fact hfact => ?_⟩
      rw [Kernel.reapable_start] at hfact
      have hother : fact.pid ≠ pid := fun hpid =>
        Kernel.holds_eq_false_iff.1 hfree (hpid ▸ Kernel.pid_mem_childPids hfact)
      have hchild : (l.note (.forked pid)).child fact.pid = l.child fact.pid :=
        Function.update_of_ne hother ..
      exact hchild ▸ (h.left fact hfact).append _
  | reaped pid status hreap =>
      refine ⟨h.ready.reap, ?_, (h.append _).told, fun fact hfact => ?_⟩
      · rw [Kernel.log_reap]
        exact h.logged
      · rw [Kernel.reapable_reap] at hfact
        exact (h.left fact (List.mem_filter.1 hfact).1).append _
  | waitFailed e => exact h.append _

theorem Books.take (h : Books history k l) :
    Books history k.takeLog { l with taken := l.logged, logged := [] } where
  ready := ⟨h.ready.handler, h.ready.formed.take, h.ready.pids⟩
  logged := h.ready.formed.waiting_take.symm
  told entry hentry := by
    rw [List.append_nil] at hentry
    exact h.told entry (List.mem_append_right _ hentry)
  left := h.left

theorem Books.settle (h : Books history k l) {entry : Fact × Nat} {rest : List (Fact × Nat)}
    (htaken : l.taken = entry :: rest) (notices : List Notice) :
    Books (history ++ notices) k { l with taken := rest } where
  ready := h.ready
  logged := h.logged
  told other hother := by
    refine (h.told other ?_).append _
    rw [htaken]
    exact List.mem_cons_of_mem _ hother
  left fact hfact := (h.left fact hfact).append _

end Books

end Ledger

end JobShell
