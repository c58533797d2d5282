import JobShell.Proofs.Launch.Account

/-!
# The foreground child of a launch

From its start until it has been waited for nobody can collect the foreground child but the
launch, since the child signal is blocked. Afterwards its pid is free, and what the handler finds
when the signal is unblocked are other children. `Launching.Attended` says at each stage what is
known of the child, and every step preserves it (`Launching.Step.attended`).
-/

namespace JobShell

namespace Launching

open Incident
open Machine (Launched)

variable {refuses : WaitRefusals} {c : Command} {background : Bool} {s t : Launching}
  {incidents later : List Incident} {k k' : Kernel} {pid : Pid}

/-- The foreground child is there, ended or not, and nobody has collected anything since it
has started. -/
structure Present (k : Kernel) (pid : Pid) (later : List Incident) : Prop where
  held : pid ∈ k.childPids
  untouched : collectedIn later = []
  ended : ∀ status, ⟨pid, status⟩ ∈ k.reapable →
    .ended ⟨pid, status⟩ ∈ later ∧ (Termination.ofStatus? status).isSome

/-- The foreground child has ended like this. The launch has collected it and nothing else, and
the handler nothing of this pid. -/
structure Settled (k : Kernel) (pid : Pid) (later : List Incident) (t : Termination) : Prop where
  own : ∃ status, Termination.ofStatus? status = some t ∧ .ended ⟨pid, status⟩ ∈ later ∧
    collectedBy .launcher later = [⟨pid, status⟩]
  gone : pid ∉ k.childPids
  spared : ∀ fact ∈ collectedBy .handler later, fact.pid ≠ pid

theorem Present.start (hfree : k.holds pid = false) (signals : SignalSetup) :
    Present (k.start pid signals) pid [] where
  held := by
    rw [Kernel.childPids_start]
    exact List.mem_append_right _ List.mem_cons_self
  untouched := rfl
  ended status hmem := by
    rw [Kernel.reapable_start] at hmem
    exact absurd (Kernel.pid_mem_childPids hmem) (Kernel.holds_eq_false_iff.1 hfree)

/-- While the child signal is blocked, everybody else leaves the child to the launch. -/
theorem Present.deed (h : Present k pid later) (hready : k.Ready) (deed : Deed k incidents k')
    (haside : Aside incidents) (hblocked : k'.signals.childBlocked = true) :
    Present k' pid (later ++ incidents) := by
  cases deed with
  | @quiet _ facts hquiet hlog hreapable =>
      -- the child signal is blocked, so the handler has not run
      obtain ⟨hsame, hpids⟩ := hquiet.held hblocked
      obtain rfl : facts = [] := by simpa [hsame] using hlog
      rw [List.map_nil, List.append_nil]
      rw [List.nil_append] at hreapable
      exact ⟨hpids ▸ h.held, h.untouched, hreapable ▸ h.ended⟩
  | ended other status hrunning hend =>
      refine ⟨?_, ?_, ?_⟩
      · rw [Kernel.childPids_terminate]
        exact h.held
      · rw [collectedIn_append, h.untouched]
        rfl
      · intro status' hmem
        rw [(k.perm_terminate other status hready.pids hrunning).mem_iff, List.mem_cons] at hmem
        cases hmem with
        | inl hnew =>
            obtain ⟨rfl, rfl⟩ : pid = other ∧ status' = status := by simpa using hnew
            exact ⟨List.mem_append_right _ List.mem_cons_self, hend⟩
        | inr hold =>
            obtain ⟨hended, hdecodes⟩ := h.ended status' hold
            exact ⟨List.mem_append_left _ hended, hdecodes⟩
  | forked other => exact absurd List.mem_cons_self (haside.unforked other)
  | reaped => cases haside.unwaited
  | waitFailed e =>
      refine ⟨h.held, ?_, fun status hmem => ?_⟩
      · rw [collectedIn_append, h.untouched]
        rfl
      · obtain ⟨hended, hdecodes⟩ := h.ended status hmem
        exact ⟨List.mem_append_left _ hended, hdecodes⟩

/-- A child that has ended can be waited for. -/
theorem Present.reap_of_ended (h : Present k pid later) (hended : k.isRunning pid = false) :
    ∃ status t, (k.reap pid).1 = some status ∧ Termination.ofStatus? status = some t := by
  obtain ⟨status, hmem⟩ := Kernel.exists_mem_reapable h.held hended
  obtain ⟨found, hfound⟩ := Kernel.exists_reap_of_mem hmem
  obtain ⟨-, hdecodes⟩ := h.ended found (Kernel.mem_reapable_of_reap hfound)
  obtain ⟨t, ht⟩ := Option.isSome_iff_exists.1 hdecodes
  exact ⟨found, t, hfound, ht⟩

theorem Present.settle (h : Present k pid later) (hready : k.Ready) {status : StatusWord}
    {t : Termination} (hreap : (k.reap pid).1 = some status)
    (hend : Termination.ofStatus? status = some t) :
    Settled (k.reap pid).2 pid (later ++ [.collected .launcher ⟨pid, status⟩]) t where
  own := by
    obtain ⟨hended, -⟩ := h.ended status (Kernel.mem_reapable_of_reap hreap)
    refine ⟨status, hend, List.mem_append_left _ hended, ?_⟩
    rw [collectedBy_append, collectedBy_eq_nil .launcher h.untouched]
    rfl
  gone := Kernel.notMem_childPids_reap hready.pids hreap
  spared := by
    rw [collectedBy_append, collectedBy_eq_nil .handler h.untouched]
    exact nofun

/-- Once the child was waited for, what others leave behind is not its own. -/
theorem Settled.deed {t : Termination} (h : Settled k pid later t) (deed : Deed k incidents k')
    (haside : Aside incidents) : Settled k' pid (later ++ incidents) t := by
  obtain ⟨⟨status, hend, hended, hown⟩, hgone, hspared⟩ := h
  have hown' : collectedBy .launcher (later ++ incidents) = [⟨pid, status⟩] := by
    rw [collectedBy_append, haside.unwaited, List.append_nil, hown]
  refine ⟨⟨status, hend, List.mem_append_left _ hended, hown'⟩, ?_, ?_⟩
  · cases deed with
    | quiet hquiet => exact fun hmem => hgone (hquiet.pids.subset hmem)
    | ended => rwa [Kernel.childPids_terminate]
    | forked other => exact absurd List.mem_cons_self (haside.unforked other)
    | reaped other => exact fun hmem => hgone ((k.childPids_reap_sublist other).subset hmem)
    | waitFailed => exact hgone
  · intro fact hfact
    rw [collectedBy_append, List.mem_append] at hfact
    refine hfact.elim (hspared fact) fun hnew => ?_
    cases deed with
    | @quiet _ facts hquiet hlog hreapable =>
        rw [handler_map_collected] at hnew
        have hmem : fact ∈ k.reapable := hreapable ▸ List.mem_append_left _ hnew
        exact fun hpid => hgone (hpid ▸ Kernel.pid_mem_childPids hmem)
    | ended | forked | reaped | waitFailed => cases hnew

/-- What the answer tells of the foreground child. -/
def Concluded (k : Kernel) (pid : Pid) (later : List Incident)
    (answer : Except Failure Launched) : Prop :=
  (∃ t, answer = .ok (.foreground (some t)) ∧ Settled k pid later t) ∨
    ∃ e, .waitFailed e ∈ later ∧ answer = refusedWait e ∧ collectedBy .launcher later = []

theorem Concluded.deed {answer : Except Failure Launched} (h : Concluded k pid later answer)
    (deed : Deed k incidents k') (haside : Aside incidents) :
    Concluded k' pid (later ++ incidents) answer := by
  rcases h with ⟨t, rfl, hsettled⟩ | ⟨e, hmem, rfl, hnone⟩
  · exact Or.inl ⟨t, rfl, hsettled.deed deed haside⟩
  · refine Or.inr ⟨e, List.mem_append_left _ hmem, rfl, ?_⟩
    rw [collectedBy_append, hnone, haside.unwaited]
    rfl

/-- What is known, at each stage after the fork, of the foreground child of this pid. `later` is
what has happened since the fork. -/
inductive Attended (pid : Pid) (later : List Incident) : Launching → Prop where
  | waiting (before : SignalSet) {k : Kernel} (hblocked : k.signals.childBlocked = true)
      (present : Present k pid later) : Attended pid later ⟨.waiting before pid, k⟩
  | waited (before : SignalSet) {k : Kernel} {t : Termination} (settled : Settled k pid later t) :
      Attended pid later ⟨.waited before pid t, k⟩
  | leaving (before : SignalSet) {k : Kernel} {answer : Except Failure Launched}
      (concluded : Concluded k pid later answer) : Attended pid later ⟨.leaving before answer, k⟩
  | returned {k : Kernel} {answer : Except Failure Launched}
      (concluded : Concluded k pid later answer) : Attended pid later ⟨.returned answer, k⟩

theorem Step.attended (step : Step refuses c background s incidents t) (h : Attended pid later s)
    (hready : s.kernel.Ready) : Attended pid (later ++ incidents) t := by
  have deed := step.deed hready.formed
  cases h with
  | @waiting before k hblocked present =>
      cases step with
      | interrupted =>
          rw [List.append_nil]
          exact .waiting before hblocked present
      | failWait _ _ _ e =>
          refine .leaving before (Or.inr ⟨e, List.mem_append_right _ List.mem_cons_self, rfl, ?_⟩)
          rw [collectedBy_append, collectedBy_eq_nil .launcher present.untouched]
          rfl
      | wait _ _ _ status hreap =>
          obtain ⟨-, hdecodes⟩ := present.ended status (Kernel.mem_reapable_of_reap hreap)
          obtain ⟨t, hend⟩ := Option.isSome_iff_exists.1 hdecodes
          rw [afterWait, hend]
          exact .waited before (present.settle hready hreap hend)
      | move _ move =>
          have hkept := (congrArg SignalSetup.childBlocked move.signals_eq).trans hblocked
          exact .waiting before hkept (present.deed hready deed (aside_move _ _ _) hkept)
  | @waited before k t settled =>
      cases step with
      | succeed =>
          rw [List.append_nil]
          exact .leaving before (Or.inl ⟨t, rfl, settled⟩)
      | ensure =>
          -- nobody holds the pid any more
          rw [Kernel.reap_of_notMem settled.gone]
          refine .leaving before (Or.inl ⟨t, rfl, ?_⟩)
          rwa [ofWait, Option.map_none, Option.toList_none, List.append_nil]
      | move _ move => exact .waited before (settled.deed deed (aside_move _ _ _))
  | leaving before concluded =>
      cases step with
      | leave => exact .returned (concluded.deed deed (aside_recordings _ _))
      | move _ move => exact .leaving before (concluded.deed deed (aside_move _ _ _))
  | returned concluded =>
      cases step with
      | move _ move => exact .returned (concluded.deed deed (aside_move _ _ _))

/-- The foreground child is attended to from its start on. -/
theorem Run.attended {before : SignalSet} {signals : SignalSetup}
    (run : Run refuses c background ⟨.waiting before pid, k.start pid signals⟩ later t)
    (hready : k.Ready) (hfree : k.holds pid = false)
    (hblocked : k.signals.childBlocked = true) : Attended pid later t := by
  induction run with
  | nil => exact .waiting before hblocked (.start hfree signals)
  | snoc run step ih => exact step.attended ih (run.account (hready.start signals hfree)).ready

theorem Run.attended_of_fork {earlier : List Incident}
    (run : Run refuses c false ⟨.entering, k⟩ (earlier ++ .forked pid :: later) t)
    (hready : k.Ready) : Attended pid later t := by
  obtain ⟨before, k', signals, hearlier, hfree, hlater⟩ := run.exists_fork rfl
  exact hlater.attended (hearlier.account hready).ready hfree
    ((hearlier.masked rfl).childBlocked rfl)

/-- A child that is attended to is there to be waited for, so no wait for it is refused. -/
theorem Step.calm (hrefuses : refuses.Documented) (step : Step refuses c background s incidents t)
    (h : Attended pid later s) (e : Errno) : .waitFailed e ∉ incidents := by
  intro hmem
  cases h with
  | waiting before hblocked present =>
      cases step with
      | failWait _ _ _ e' hother hrefused =>
          exact Kernel.holds_eq_false_iff.1 (hrefuses _ _ _ hrefused) present.held
      | interrupted | wait => simp at hmem
      | move => simp [mem_recordings] at hmem
  | waited before settled =>
      cases step with
      | succeed => cases hmem
      | ensure =>
          rw [Kernel.reap_of_notMem settled.gone] at hmem
          cases hmem
      | move => simp [mem_recordings] at hmem
  | leaving before concluded => cases step <;> simp [mem_recordings] at hmem
  | returned concluded =>
      cases step with
      | move => simp [mem_recordings] at hmem

/-- Nor was one since its start. -/
theorem Run.calm {earlier : List Incident} (hrefuses : refuses.Documented)
    (run : Run refuses c false ⟨.entering, k⟩ (earlier ++ .forked pid :: later) t)
    (hready : k.Ready) (e : Errno) : .waitFailed e ∉ later := by
  obtain ⟨before, k', signals, hearlier, hfree, hlater⟩ := run.exists_fork rfl
  have hready' := (hearlier.account hready).ready
  have hblocked := (hearlier.masked rfl).childBlocked rfl
  clear run
  induction hlater with
  | nil => exact List.not_mem_nil
  | snoc run step ih =>
      rw [List.mem_append, not_or]
      exact ⟨ih, step.calm hrefuses (run.attended hready' hfree hblocked) e⟩

/-- The answer of a launch is how its foreground child has ended, unless a wait was refused. -/
theorem Run.concluded {earlier : List Incident} {answer : Except Failure Launched}
    (run : Run refuses c false ⟨.entering, k⟩ (earlier ++ .forked pid :: later)
      ⟨.returned answer, k'⟩)
    (hready : k.Ready) : Concluded k' pid later answer := by
  cases run.attended_of_fork hready with
  | returned concluded => exact concluded

/-- Unless a wait was refused, the handler has not collected the foreground child. -/
theorem Attended.spared (h : Attended pid later t) (hcalm : ∀ e, .waitFailed e ∉ later) :
    ∀ fact ∈ collectedBy .handler later, fact.pid ≠ pid := by
  have hconcluded {k : Kernel} {answer : Except Failure Launched}
      (h : Concluded k pid later answer) : ∀ fact ∈ collectedBy .handler later, fact.pid ≠ pid := by
    rcases h with ⟨t, -, hsettled⟩ | ⟨e, hmem, -⟩
    · exact hsettled.spared
    · exact absurd hmem (hcalm e)
  cases h with
  | waiting before hblocked present =>
      rw [collectedBy_eq_nil .handler present.untouched]
      exact nofun
  | waited before settled => exact settled.spared
  | leaving before concluded => exact hconcluded concluded
  | returned concluded => exact hconcluded concluded

/-- What the launch has collected is its own child, which has ended since the fork. -/
theorem Attended.own (h : Attended pid later t) {fact : Fact}
    (hfact : fact ∈ collectedBy .launcher later) : fact.pid = pid ∧ .ended fact ∈ later := by
  have hsettled {k : Kernel} {t : Termination} (h : Settled k pid later t) :
      fact.pid = pid ∧ .ended fact ∈ later := by
    obtain ⟨status, -, hended, hown⟩ := h.own
    rw [hown, List.mem_singleton] at hfact
    exact hfact ▸ ⟨rfl, hended⟩
  have hconcluded {k : Kernel} {answer : Except Failure Launched}
      (h : Concluded k pid later answer) : fact.pid = pid ∧ .ended fact ∈ later := by
    rcases h with ⟨t, -, h⟩ | ⟨e, -, -, hnone⟩
    · exact hsettled h
    · rw [hnone] at hfact
      exact absurd hfact List.not_mem_nil
  cases h with
  | waiting before hblocked present =>
      rw [collectedBy_eq_nil .launcher present.untouched] at hfact
      exact absurd hfact List.not_mem_nil
  | waited before settled => exact hsettled settled
  | leaving before concluded => exact hconcluded concluded
  | returned concluded => exact hconcluded concluded

/-- Before the fork the launch has collected nothing. -/
theorem Run.launcher_earlier {history earlier : List Incident}
    (run : Run refuses c background ⟨.entering, k⟩ history t)
    (hsplit : history = earlier ++ .forked pid :: later) : collectedBy .launcher earlier = [] := by
  obtain ⟨before, k', signals, hearlier, -, -⟩ := run.exists_fork hsplit
  exact (hearlier.unattended rfl (Or.inr (hearlier.unforked rfl))).2

/-- Whatever a launch collects is its own foreground child. -/
theorem Run.own {history : List Incident} (run : Run refuses c background ⟨.entering, k⟩ history t)
    (hready : k.Ready) {fact : Fact} (hfact : .collected .launcher fact ∈ history) :
    background = false ∧ ∃ earlier later, history = earlier ++ .forked fact.pid :: later ∧
      .ended fact ∈ later ∧ .collected .launcher fact ∈ later := by
  rw [← mem_collectedBy] at hfact
  have hattended (hnone : background = true ∨ ∀ pid, .forked pid ∉ history) : False := by
    rw [(run.unattended rfl hnone).2] at hfact
    exact List.not_mem_nil hfact
  have hforeground : background = false := Bool.eq_false_iff.2 fun h => hattended (Or.inl h)
  have hfork : ∃ pid, .forked pid ∈ history := by
    by_contra hnone
    exact hattended (Or.inr fun pid hmem => hnone ⟨pid, hmem⟩)
  obtain ⟨pid, hpid⟩ := hfork
  obtain ⟨earlier, later, hsplit⟩ := List.append_of_mem hpid
  subst hforeground hsplit
  rw [collectedBy_append, run.launcher_earlier rfl, List.nil_append] at hfact
  have hlater : fact ∈ collectedBy .launcher later := hfact
  obtain ⟨rfl, hended⟩ := (run.attended_of_fork hready).own hlater
  exact ⟨rfl, earlier, later, rfl, hended, mem_collectedBy.1 hlater⟩

end Launching

end JobShell
