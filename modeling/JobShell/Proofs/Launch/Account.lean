import JobShell.Proofs.Kernel.Collecting
import JobShell.Proofs.Launch.Basic

/-!
# The account of the children of a launch

To the children and the log a step of a launch is one of five deeds (`Incident.Deed`), and each
of them keeps the account: a child that has ended was collected once or is still left to be
collected, and the log has what the handler has collected (`Launching.Run.account`).

A launch that has returned has put the mask back (`Launching.Run.masked`), and one that has
started no child of its own to wait for has collected none (`Launching.Run.unattended`).
-/

namespace JobShell

namespace Incident

section Readings

variable (history later : List Incident) (collector : Collector) (facts : List Fact)

@[simp] theorem endedIn_append :
    endedIn (history ++ later) = endedIn history ++ endedIn later :=
  List.filterMap_append ..

@[simp] theorem collectedIn_append :
    collectedIn (history ++ later) = collectedIn history ++ collectedIn later :=
  List.filterMap_append ..

@[simp] theorem collectedBy_append : collectedBy collector (history ++ later) =
    collectedBy collector history ++ collectedBy collector later :=
  List.filterMap_append ..

@[simp] theorem endedIn_map_collected : endedIn (facts.map (collected collector)) = [] := by
  rw [endedIn, List.filterMap_map, List.filterMap_eq_nil_iff]
  intro fact _
  rfl

@[simp] theorem collectedIn_map_collected :
    collectedIn (facts.map (collected collector)) = facts := by
  rw [collectedIn, List.filterMap_map]
  exact List.filterMap_some

@[simp] theorem handler_map_collected :
    collectedBy .handler (facts.map (collected .handler)) = facts := by
  rw [collectedBy, List.filterMap_map]
  exact List.filterMap_some

@[simp] theorem launcher_map_collected :
    collectedBy .launcher (facts.map (collected .handler)) = [] := by
  rw [collectedBy, List.filterMap_map, List.filterMap_eq_nil_iff]
  intro fact _
  rfl

variable {history collector}

theorem mem_collectedBy {fact : Fact} :
    fact ∈ collectedBy collector history ↔ .collected collector fact ∈ history := by
  rw [collectedBy, List.mem_filterMap]
  constructor
  · rintro ⟨incident, hmem, hfact⟩
    cases incident with
    | collected other fact' =>
        obtain ⟨rfl, rfl⟩ : other = collector ∧ fact' = fact := by
          simpa [collectedBy?] using hfact
        exact hmem
    | forked | ended | waitFailed => cases hfact
  · intro hmem
    exact ⟨_, hmem, if_pos rfl⟩

theorem collectedBy_eq_nil (collector : Collector) (h : collectedIn history = []) :
    collectedBy collector history = [] := by
  rw [List.eq_nil_iff_forall_not_mem]
  intro fact hfact
  have hmem : fact ∈ collectedIn history :=
    List.mem_filterMap.2 ⟨_, mem_collectedBy.1 hfact, rfl⟩
  rw [h] at hmem
  exact List.not_mem_nil hmem

end Readings

section Deed

variable {k k' : Kernel} {history incidents : List Incident} {facts : List Fact}

theorem recordings_eq (hlog : k'.log.waiting = k.log.waiting ++ facts) :
    recordings k k' = facts.map (collected .handler) := by
  rw [recordings, hlog, List.drop_left]

/-- What a step does to the children and the log, and the incidents that tell of it. -/
inductive Deed (k : Kernel) : List Incident → Kernel → Prop where
  /-- The handler may have collected the first of the children that have ended. -/
  | quiet {k' : Kernel} {facts : List Fact} (hquiet : k.Quiet k')
      (hlog : k'.log.waiting = k.log.waiting ++ facts)
      (hreapable : k.reapable = facts ++ k'.reapable) : Deed k (facts.map (collected .handler)) k'
  | ended (pid : Pid) (status : StatusWord) (hrunning : k.isRunning pid = true)
      (hend : (Termination.ofStatus? status).isSome) :
      Deed k [ended ⟨pid, status⟩] (k.terminate pid status)
  | forked (pid : Pid) (signals : SignalSetup) (hfree : k.holds pid = false) :
      Deed k [forked pid] (k.start pid signals)
  | reaped (pid : Pid) (status : StatusWord) (hreap : (k.reap pid).1 = some status) :
      Deed k [collected .launcher ⟨pid, status⟩] (k.reap pid).2
  | waitFailed (e : Errno) : Deed k [waitFailed e] k

theorem Deed.of_quiet (hquiet : k.Quiet k') : Deed k (recordings k k') k' := by
  obtain ⟨facts, hlog, hreapable⟩ := hquiet.moved
  rw [recordings_eq hlog]
  exact .quiet hquiet hlog hreapable

theorem Deed.none (hformed : k.log.WellFormed) : Deed k [] k :=
  .quiet (.of_same hformed rfl rfl rfl rfl) (List.append_nil _).symm (List.nil_append _).symm

theorem Deed.of_move (hformed : k.log.WellFormed) (move : k.Move facts k') :
    Deed k (facts.map .ended ++ recordings k k') k' := by
  cases facts with
  | nil => exact .of_quiet (move.quiet hformed)
  | cons fact facts =>
      cases move with
      | ends pid status t hrunning hend =>
          have hnone : recordings k (k.terminate pid status) = [] :=
            recordings_eq (List.append_nil _).symm
          rw [hnone]
          exact .ended pid status hrunning (Option.isSome_of_eq_some hend)

theorem Deed.of_ofWait (hformed : k.log.WellFormed) (pid : Pid) :
    Deed k (ofWait pid (k.reap pid).1) (k.reap pid).2 := by
  cases hfound : (k.reap pid).1 with
  | none =>
      rw [Kernel.reap_of_none hfound]
      exact .none hformed
  | some status => exact .reaped pid status hfound

/-- The account of the children since the kernel was `k`. -/
structure Account (k : Kernel) (history : List Incident) (k' : Kernel) : Prop where
  ready : k'.Ready
  /-- What was left to be collected or has ended since was collected once or is left. -/
  once : (k.reapable ++ endedIn history).Perm (collectedIn history ++ k'.reapable)
  logged : k'.log.waiting = k.log.waiting ++ collectedBy .handler history

theorem Account.nil (h : k.Ready) : Account k [] k where
  ready := h
  once := by
    rw [endedIn, List.filterMap_nil, List.append_nil]
    exact List.Perm.refl _
  logged := (List.append_nil _).symm

theorem Account.trans {k₀ : Kernel} (first : Account k₀ history k)
    (second : Account k incidents k') : Account k₀ (history ++ incidents) k' where
  ready := second.ready
  once := by
    rw [endedIn_append, collectedIn_append]
    calc k₀.reapable ++ (endedIn history ++ endedIn incidents)
      _ = (k₀.reapable ++ endedIn history) ++ endedIn incidents := (List.append_assoc ..).symm
      _ |>.Perm (collectedIn history ++ k.reapable ++ endedIn incidents) :=
        first.once.append_right _
      _ = collectedIn history ++ (k.reapable ++ endedIn incidents) := List.append_assoc ..
      _ |>.Perm (collectedIn history ++ (collectedIn incidents ++ k'.reapable)) :=
        second.once.append_left _
      _ = collectedIn history ++ collectedIn incidents ++ k'.reapable :=
        (List.append_assoc ..).symm
  logged := by
    rw [second.logged, first.logged, collectedBy_append, List.append_assoc]

theorem Deed.account (deed : Deed k incidents k') (h : k.Ready) : Account k incidents k' := by
  cases deed with
  | @quiet _ facts hquiet hlog hreapable =>
      refine ⟨h.quiet hquiet, ?_, ?_⟩
      · rw [endedIn_map_collected, collectedIn_map_collected, List.append_nil, hreapable]
      · rw [handler_map_collected, hlog]
  | ended pid status hrunning hend =>
      refine ⟨h.terminate, ?_, (List.append_nil _).symm⟩
      have hnew := List.perm_append_singleton ⟨pid, status⟩ k.reapable
      exact hnew.trans (k.perm_terminate pid status h.pids hrunning).symm
  | forked pid signals hfree =>
      refine ⟨h.start signals hfree, ?_, (List.append_nil _).symm⟩
      rw [Kernel.reapable_start]
      exact List.Perm.of_eq (List.append_nil _)
  | reaped pid status hreap =>
      refine ⟨h.reap, ?_, ?_⟩
      · exact (List.Perm.of_eq (List.append_nil _)).trans (Kernel.perm_reap h.pids hreap)
      · rw [Kernel.log_reap]
        exact (List.append_nil _).symm
  | waitFailed e => exact ⟨h, List.Perm.of_eq (List.append_nil _), (List.append_nil _).symm⟩

end Deed

end Incident

namespace Launching

open Incident

variable {refuses : WaitRefusals} {c : Command} {background : Bool} {s t : Launching}
  {history incidents : List Incident}

theorem Step.deed (step : Step refuses c background s incidents t) (h : s.kernel.log.WellFormed) :
    Deed s.kernel incidents t.kernel := by
  cases step with
  | guard k image himage => exact .of_quiet (.setMask h _)
  | leave k before answer => exact .of_quiet (.setMask h before)
  | fork k before pid signals hfree => exact .forked pid signals hfree
  | failWait k before pid e => exact .waitFailed e
  | wait k before pid status hreap => exact .reaped pid status hreap
  | ensure k before pid => exact .of_ofWait h pid
  | move stage move => exact .of_move h move
  | refuse | refuseFork | interrupted | succeed => exact .none h

/-- Every child that has ended was collected once or is left to be collected. -/
theorem Run.account (run : Run refuses c background s history t) (h : s.kernel.Ready) :
    Account s.kernel history t.kernel := by
  induction run with
  | nil => exact .nil h
  | snoc run step ih => exact ih.trans ((step.deed ih.ready.formed).account ih.ready)

section Mask

/-- The mask that was in force is kept, and with the child signal added to it is the one that is in
force until the launch returns. -/
def Masked (before : SignalSet) (s : Launching) : Prop :=
  match s.stage with
  | .entering | .returned _ => s.kernel.signals.mask = before
  | .guarded kept | .waiting kept _ | .waited kept _ _ | .leaving kept _ =>
    kept = before ∧ s.kernel.signals.mask = before.insert Signal.child

theorem Step.masked {before : SignalSet} (step : Step refuses c background s incidents t)
    (h : s.Masked before) : t.Masked before := by
  cases step with
  | refuse | refuseFork | interrupted | failWait | succeed => exact h
  | guard k image himage =>
      obtain rfl : k.signals.mask = before := h
      exact ⟨rfl, by rw [Kernel.setChildBlocked_true]⟩
  | leave k kept answer =>
      rw [Masked, Kernel.signals_setMask]
      exact h.1
  | fork k kept pid signals hfree => cases background <;> exact h
  | wait k kept pid status hreap =>
      have hkept : (k.reap pid).2.signals.mask = before.insert Signal.child := by
        rw [Kernel.signals_reap]
        exact h.2
      rw [afterWait]
      split <;> exact ⟨h.1, hkept⟩
  | ensure k kept pid t hfailed =>
      refine ⟨h.1, ?_⟩
      rw [Kernel.signals_reap]
      exact h.2
  | move stage move =>
      rw [Masked, move.signals_eq]
      exact h

/-- A launch that has returned has put the mask back. -/
theorem Run.masked {before : SignalSet} (run : Run refuses c background s history t)
    (h : s.Masked before) : t.Masked before := by
  induction run with
  | nil => exact h
  | snoc run step ih => exact step.masked ih

/-- Until the launch returns the child signal is blocked. -/
theorem Masked.childBlocked {before : SignalSet} (h : s.Masked before)
    (hguarded : s.stage.isGuarded = true) : s.kernel.signals.childBlocked = true := by
  have hmask : s.kernel.signals.mask = before.insert Signal.child := by
    obtain ⟨stage, k⟩ := s
    cases stage with
    | entering | returned => cases hguarded
    | guarded | waiting | waited | leaving => exact h.2
  rw [SignalSetup.childBlocked, hmask]
  exact SignalSet.contains_insert_self _ (by decide)

end Mask

section Unattended

/-- The launch itself has neither asked for a child nor waited for one. -/
structure Aside (incidents : List Incident) : Prop where
  unwaited : collectedBy .launcher incidents = []
  unforked : ∀ pid, .forked pid ∉ incidents

theorem aside_recordings (k k' : Kernel) : Aside (recordings k k') where
  unwaited := launcher_map_collected _
  unforked pid hmem := by simp [mem_recordings] at hmem

theorem aside_move (facts : List Fact) (k k' : Kernel) :
    Aside (facts.map ended ++ recordings k k') where
  unwaited := by
    rw [collectedBy_append, (aside_recordings k k').unwaited, List.append_nil, collectedBy,
      List.filterMap_map, List.filterMap_eq_nil_iff]
    intro fact _
    rfl
  unforked pid hmem := by simp [mem_recordings] at hmem

/-- Without a fork there is no child to wait for, and neither is there for a launch in the
background. -/
theorem Step.unattended (step : Step refuses c background s incidents t) (h : s.stage.child? = none)
    (hnone : background = true ∨ ∀ pid, .forked pid ∉ incidents) :
    t.stage.child? = none ∧ collectedBy .launcher incidents = [] := by
  cases step with
  | refuse | refuseFork => exact ⟨rfl, rfl⟩
  | guard k => exact ⟨rfl, (aside_recordings k _).unwaited⟩
  | leave k => exact ⟨rfl, (aside_recordings k _).unwaited⟩
  | fork k before pid =>
      cases hnone with
      | inl hbackground =>
          subst hbackground
          exact ⟨rfl, rfl⟩
      | inr hunforked => exact absurd List.mem_cons_self (hunforked pid)
  | interrupted | failWait | wait | succeed | ensure => cases h
  | move stage move => exact ⟨h, (aside_move _ _ _).unwaited⟩

theorem Run.unattended (run : Run refuses c background s history t) (h : s.stage.child? = none)
    (hnone : background = true ∨ ∀ pid, .forked pid ∉ history) :
    t.stage.child? = none ∧ collectedBy .launcher history = [] := by
  induction run with
  | nil => exact ⟨h, rfl⟩
  | snoc run step ih =>
      have hbefore := ih (hnone.imp_right fun hunforked pid hmem =>
        hunforked pid (List.mem_append_left _ hmem))
      have hlast := step.unattended hbefore.1 (hnone.imp_right fun hunforked pid hmem =>
        hunforked pid (List.mem_append_right _ hmem))
      rw [collectedBy_append, hbefore.2, hlast.2]
      exact ⟨hlast.1, rfl⟩

theorem Step.unforked (step : Step refuses c background s incidents t)
    (h : t.stage.isEarly = true) :
    s.stage.isEarly = true ∧ ∀ pid, .forked pid ∉ incidents := by
  cases step with
  | guard k => exact ⟨rfl, (aside_recordings k _).unforked⟩
  | move stage move => exact ⟨h, (aside_move _ _ _).unforked⟩
  | fork k before pid signals => cases background <;> cases h
  | wait k before pid status hreap =>
      rw [afterWait] at h
      split at h <;> cases h
  | refuse | refuseFork | interrupted | failWait | succeed | ensure | leave => cases h

/-- As long as no child was asked for, none was started. -/
theorem Run.unforked (run : Run refuses c background s history t) (h : t.stage.isEarly = true)
    (pid : Pid) : .forked pid ∉ history := by
  induction run with
  | nil => exact List.not_mem_nil
  | snoc run step ih =>
      obtain ⟨hearly, hunforked⟩ := step.unforked h
      rw [List.mem_append, not_or]
      exact ⟨ih hearly, hunforked pid⟩

end Unattended

end Launching

end JobShell
