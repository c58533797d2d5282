import JobShell.Proofs.Kernel.Remaining
import JobShell.Proofs.Tracking.View

/-!
# What is reported next of a pid

A pid can be given away again once the handler has collected its child, while the fact of this
child still waits in the log, and facts are matched with jobs by their pid. What keeps the reports
of a pid apart is their order: the log is a queue, and a child that was not collected keeps its
pid to itself. So when a job is tracked and the fact of its child is the first of its pid
(`Tracking.Due`), this fact is what the next report of the pid tells, whatever else is launched
and whatever pids the system gives to it (`Tracking.Run.due`).
-/

namespace JobShell

namespace Event

/-- How a child of this pid is reported to have ended, if the event is such a report. -/
def report? (pid : Pid) : Event → Option Termination
  | reported other t => if pid == other then some t else none
  | _ => none

/-- What the first report of a pid tells. -/
def firstReport? (pid : Pid) (history : List Event) : Option Termination :=
  history.findSome? (report? pid)

theorem firstReport?_append (pid : Pid) (history later : List Event) :
    firstReport? pid (history ++ later) =
      (firstReport? pid history).or (firstReport? pid later) :=
  List.findSome?_append

theorem firstReport?_map_ofFact (pid : Pid) (facts : List Fact) :
    firstReport? pid (facts.map ofFact) = none := by
  rw [firstReport?, List.findSome?_eq_none_iff]
  intro event hevent
  obtain ⟨fact, -, rfl⟩ := List.mem_map.1 hevent
  rfl

theorem firstReport?_map_ofReport (pid : Pid) (reports : List (Pid × Termination)) :
    firstReport? pid (reports.map ofReport) = reports.lookup pid := by
  rw [firstReport?, List.findSome?_map, List.lookup_eq_findSome?]
  rfl

end Event

section Statuses

variable {pid : Pid} {status : StatusWord} {facts later : List Fact}

theorem statusesOf_eq_nil_iff : statusesOf pid facts = [] ↔ pid ∉ facts.map Fact.pid := by
  simp [statusesOf, List.filter_eq_nil_iff]

theorem head?_statusesOf_append_of_ne_nil (h : statusesOf pid facts ≠ []) :
    (statusesOf pid (facts ++ later)).head? = (statusesOf pid facts).head? := by
  rw [statusesOf_append, List.head?_append_of_ne_nil _ h]

end Statuses

namespace JobTable

variable {t : JobTable} {pid : Pid} {status : StatusWord} {termination : Termination}
  {facts : List Fact}

theorem mem_pids_settle_of_ne {fact : Fact} (h : pid ≠ fact.pid) :
    pid ∈ (t.settle fact).pids ↔ pid ∈ t.pids := by
  rw [settle]
  split
  · rw [mem_pids_erase, and_iff_left h]
  · rfl

theorem lookup_report?_of_ne {fact : Fact} (h : pid ≠ fact.pid) :
    (t.report? fact).toList.lookup pid = none := by
  rw [report?]
  split
  · simp [h]
  · rfl

/-- Facts of other pids leave a job tracked and give no report of it. -/
theorem reports_of_absent (h : statusesOf pid facts = []) :
    (t.reports facts).lookup pid = none ∧ (pid ∈ (t.settleAll facts).pids ↔ pid ∈ t.pids) := by
  induction facts generalizing t with
  | nil => exact ⟨rfl, Iff.rfl⟩
  | cons fact facts ih =>
      rw [statusesOf_eq_nil_iff, List.map_cons, List.mem_cons, not_or] at h
      obtain ⟨hlater, htracked⟩ := ih (t := t.settle fact) (statusesOf_eq_nil_iff.2 h.2)
      rw [reports, List.lookup_append, lookup_report?_of_ne h.1, hlater]
      exact ⟨rfl, htracked.trans (mem_pids_settle_of_ne h.1)⟩

/-- The first report of a tracked job is what the first fact of its pid tells. -/
theorem lookup_reports (htracked : pid ∈ t.pids)
    (hfirst : (statusesOf pid facts).head? = some status)
    (hend : Termination.ofStatus? status = some termination) :
    (t.reports facts).lookup pid = some termination := by
  induction facts generalizing t with
  | nil => cases hfirst
  | cons fact facts ih =>
      rw [reports, List.lookup_append]
      by_cases hpid : fact.pid = pid
      · subst hpid
        rw [statusesOf_cons_self] at hfirst
        cases hfirst
        rw [report?_of_mem hend htracked]
        simp
      · rw [statusesOf_cons_of_ne _ hpid] at hfirst
        rw [lookup_report?_of_ne (Ne.symm hpid), Option.none_or]
        exact ih ((mem_pids_settle_of_ne (Ne.symm hpid)).2 htracked) hfirst

end JobTable

namespace Kernel

variable {k k' : Kernel} {pid other : Pid} {word : StatusWord} {facts : List Fact}

/-- The end of another child is a fact of another pid. -/
theorem statusesOf_terminate_of_ne (h : other ≠ pid) :
    statusesOf pid (k.terminate other word).reapable = statusesOf pid k.reapable := by
  rw [reapable, reapable, terminate]
  induction k.children with
  | nil => rfl
  | cons c cs ih =>
      by_cases hmatch : c.pid = other ∧ c.isRunning = true
      · rw [markEnded_cons_of_pos cs hmatch, List.filterMap_cons_none (fact?_of_isRunning hmatch.2)]
        exact (statusesOf_cons_of_ne _ (hmatch.1.trans_ne h)).trans ih
      · rw [markEnded_cons_of_neg cs hmatch]
        cases hfact : c.fact? with
        | none => rwa [List.filterMap_cons_none hfact, List.filterMap_cons_none hfact]
        | some fact =>
            rw [List.filterMap_cons_some hfact, List.filterMap_cons_some hfact]
            simp only [statusesOf, List.filter_cons] at ih ⊢
            split <;> simp [ih]

theorem statusesOf_reap_of_ne (h : other ≠ pid) :
    statusesOf pid (k.reap other).2.reapable = statusesOf pid k.reapable := by
  rw [reapable_reap, statusesOf_filter_of_ne _ (Ne.symm h)]

/-- While the child signal is blocked nothing is recorded. -/
theorem Drifts.log_eq (h : k.Drifts k') (hsound : k.Sound)
    (hblocked : k.signals.childBlocked = true) : k'.log = k.log := by
  obtain ⟨facts, drift⟩ := h
  induction drift with
  | refl => rfl
  | @tail facts later k' k'' drift move ih =>
      have hdrifts : k.Drifts k' := ⟨_, drift⟩
      have hkept : k''.signals.childBlocked = true := by
        rw [move.signals_eq, hdrifts.signals_eq, hblocked]
      rw [← ih]
      cases later with
      | nil => exact ((move.quiet (hdrifts.sound hsound).log).held hkept).1
      | cons fact later =>
          cases move with
          | ends => rfl

end Kernel

namespace Tracking

/-- A job of this pid is tracked, or will be next, and the first fact of the pid that is outstanding
tells of this status. Where another child of the pid is about, this fact stands in the log. -/
structure Due (s : Tracking) (pid : Pid) (status : StatusWord) : Prop where
  minded : pid ∈ s.jobs.pids ∨ s.stage = .handed pid
  first : (statusesOf pid s.kernel.outstanding).head? = some status
  logged : s.kernel.isRunning pid = true ∨ s.stage = .waiting pid →
    statusesOf pid s.kernel.log.waiting ≠ []

variable {s t : Tracking} {pid other : Pid} {status : StatusWord} {termination : Termination}
  {history later events : List Event} {k : Kernel}

/-- A background child that has ended and is left, while the log holds nothing of its pid. -/
theorem Due.of_left (hstage : s.stage = .handed pid) (hleft : s.kernel.Left pid status)
    (hlog : pid ∉ s.kernel.log.waiting.map Fact.pid) : s.Due pid status where
  minded := Or.inr hstage
  first := by
    rw [Kernel.outstanding, statusesOf_append, statusesOf_eq_nil_iff.2 hlog, List.nil_append]
    have hmem := mem_statusesOf.2 ((hleft.sole status).2 rfl)
    cases hstatuses : statusesOf pid s.kernel.reapable with
    | nil =>
        rw [hstatuses] at hmem
        cases hmem
    | cons word rest =>
        have hword : word ∈ statusesOf pid s.kernel.reapable := hstatuses ▸ List.mem_cons_self
        rw [List.head?_cons, (hleft.sole word).1 (mem_statusesOf.1 hword)]
  logged habout := by
    rw [hleft.ended, hstage] at habout
    obtain hruns | hwaits := habout
    · cases hruns
    · cases hwaits

section Steps

theorem Due.tracked (h : s.Due pid status) (hstage : s.stage ≠ .handed pid) : pid ∈ s.jobs.pids :=
  h.minded.resolve_right hstage

/-- A fact in the log stays the first of its pid, whatever becomes of the children. -/
theorem Due.first_of_logged (h : s.Due pid status)
    (hlogged : statusesOf pid s.kernel.log.waiting ≠ []) (facts : List Fact) :
    (statusesOf pid (s.kernel.log.waiting ++ facts)).head? = some status := by
  rw [head?_statusesOf_append_of_ne_nil hlogged, ← h.first, Kernel.outstanding,
    head?_statusesOf_append_of_ne_nil hlogged]

/-- The handler moves facts to the end of the log at most. -/
theorem Due.quiet (h : s.Due pid status) (hquiet : s.kernel.Quiet k)
    (hunseen : s.kernel.Unseen k) : Due { s with kernel := k } pid status where
  minded := h.minded
  first := by
    rw [hunseen.outstanding]
    exact h.first
  logged habout := by
    have hrunning : k.isRunning pid = s.kernel.isRunning pid := by
      rw [Bool.eq_iff_iff, ← Kernel.mem_runningPids, ← Kernel.mem_runningPids, hunseen.runningPids]
    obtain ⟨facts, hlog, -⟩ := hquiet.moved
    rw [hlog, statusesOf_append]
    exact List.append_ne_nil_of_left_ne_nil (h.logged (hrunning ▸ habout)) _

/-- Another child of the pid ends behind this one. -/
theorem Due.terminate (h : s.Due pid status) (word : StatusWord)
    (hrunning : s.kernel.isRunning other = true) :
    Due { s with kernel := s.kernel.terminate other word } pid status where
  minded := h.minded
  first := by
    by_cases hother : other = pid
    · subst hother
      exact h.first_of_logged (h.logged (Or.inl hrunning)) _
    · have hfirst := h.first
      rw [Kernel.outstanding, statusesOf_append] at hfirst ⊢
      rwa [Kernel.statusesOf_terminate_of_ne hother]
  logged habout := by
    refine h.logged (habout.imp_left fun hruns => ?_)
    rw [← Kernel.mem_runningPids, Kernel.runningPids_terminate] at hruns
    exact Kernel.mem_runningPids.1 (List.mem_of_mem_filter hruns)

theorem Due.move (h : s.Due pid status) (hsound : s.kernel.Sound) {facts : List Fact}
    (move : s.kernel.Move facts k) : Due { s with kernel := k } pid status := by
  cases facts with
  | nil => exact h.quiet (move.quiet hsound.log) (move.unseen hsound)
  | cons fact facts =>
      cases move with
      | ends other word t hrunning => exact h.terminate word hrunning

theorem Due.drifts (h : s.Due pid status) (hsound : s.kernel.Sound) (hdrifts : s.kernel.Drifts k) :
    Due { s with kernel := k } pid status := by
  obtain ⟨facts, drift⟩ := hdrifts
  induction drift with
  | refl => exact h
  | tail drift move ih => exact ih.move (Kernel.Drifts.sound ⟨_, drift⟩ hsound) move

/-- A new child has another pid, unless the fact stands in the log. -/
theorem Due.start (h : s.Due pid status) (hidle : s.stage = .idle)
    (hfree : s.kernel.holds other = false) (signals : SignalSetup) (stage : Stage)
    (hstage : stage = .waiting pid → other = pid) :
    Due { s with kernel := s.kernel.start other signals, stage } pid status where
  minded := Or.inl (h.tracked (by rw [hidle]; exact nofun))
  first := by
    rw [Kernel.outstanding_start]
    exact h.first
  logged habout := by
    change statusesOf pid s.kernel.log.waiting ≠ []
    by_cases hother : other = pid
    · -- nobody holds the pid, so its first fact can only stand in the log
      subst hother
      intro hnone
      have hfirst := h.first
      rw [Kernel.outstanding, statusesOf_append, hnone, List.nil_append,
        statusesOf_eq_nil_iff.2] at hfirst
      · cases hfirst
      · intro hmem
        obtain ⟨fact, hfact, rfl⟩ := List.mem_map.1 hmem
        exact Kernel.holds_eq_false_iff.1 hfree (Kernel.pid_mem_childPids hfact)
    · refine h.logged (Or.inl (habout.elim (fun hruns => ?_) fun hwaits =>
        absurd (hstage hwaits) hother))
      rw [← Kernel.mem_runningPids, Kernel.runningPids_start, List.mem_append,
        List.mem_singleton, or_iff_left (Ne.symm hother)] at hruns
      exact Kernel.mem_runningPids.1 hruns

theorem Due.register (h : s.Due pid status) (line : String) (hstage : s.stage = .handed other) :
    Due { s with jobs := s.jobs.create other line, stage := .idle } pid status where
  minded := by
    rw [JobTable.mem_pids_create]
    refine Or.inl (h.minded.elim Or.inr fun hhanded => Or.inl ?_)
    exact (Stage.handed.inj (hstage.symm.trans hhanded)).symm
  first := h.first
  logged habout := h.logged (habout.imp_right nofun)

theorem Due.wait (h : s.Due pid status) (hstage : s.stage = .waiting other) :
    Due { s with kernel := (s.kernel.reap other).2, stage := .idle } pid status where
  minded := Or.inl (h.tracked (by rw [hstage]; exact nofun))
  first := by
    have hlog : (s.kernel.reap other).2.log = s.kernel.log := s.kernel.log_reap other
    rw [Kernel.outstanding, hlog]
    by_cases hother : other = pid
    · subst hother
      exact h.first_of_logged (h.logged (Or.inr hstage)) _
    · have hfirst := h.first
      rw [Kernel.outstanding, statusesOf_append] at hfirst
      rwa [statusesOf_append, Kernel.statusesOf_reap_of_ne hother]
  logged habout := by
    have hlog : (s.kernel.reap other).2.log = s.kernel.log := s.kernel.log_reap other
    rw [hlog]
    obtain hruns | hwaits := habout
    · rw [← Kernel.mem_runningPids, Kernel.runningPids_reap] at hruns
      exact h.logged (Or.inl (Kernel.mem_runningPids.1 hruns))
    · cases hwaits

end Steps

section Notify

/-- A notification that tells nothing of the pid has not come to its first fact. -/
theorem Due.notified (h : s.Due pid status) (hsound : s.kernel.Sound) (hidle : s.stage = .idle)
    (sink : Sink)
    (hnone : statusesOf pid (Kernel.drainBatches JobTable.maxDrainPasses s.kernel).1.flatten = []) :
    (s.notified sink).Due pid status := by
  obtain ⟨hfacts, hrunning, -, -⟩ :=
    Kernel.drainBatches_conserves JobTable.maxDrainPasses hsound
  have htracked := h.tracked (by rw [hidle]; exact nofun)
  refine ⟨Or.inl ?_, ?_, fun habout => ?_⟩
  · rw [jobs_notified]
    exact (JobTable.reports_of_absent hnone).2.2 htracked
  · have hfirst := h.first
    rwa [← hfacts, statusesOf_append, hnone, List.nil_append, ← kernel_notified s sink] at hfirst
  · -- what stood in the log has been taken
    rw [kernel_notified, ← Kernel.mem_runningPids, hrunning, Kernel.mem_runningPids] at habout
    refine absurd ?_ (h.logged habout)
    rw [statusesOf_eq_nil_iff] at hnone ⊢
    exact fun hmem => hnone
      (((Kernel.waiting_prefix_drainBatches 15 _).map Fact.pid).subset hmem)

/-- A notification leaves the first fact of the pid for later, or it reports it before any other. -/
theorem Due.reported (h : s.Due pid status) (hsound : s.kernel.Sound) (hidle : s.stage = .idle)
    (hend : Termination.ofStatus? status = some termination) (sink : Sink) :
    (s.reports.lookup pid = none ∧ (s.notified sink).Due pid status) ∨
      s.reports.lookup pid = some termination := by
  obtain ⟨hfacts, -⟩ := Kernel.drainBatches_conserves JobTable.maxDrainPasses hsound
  by_cases hnone :
      statusesOf pid (Kernel.drainBatches JobTable.maxDrainPasses s.kernel).1.flatten = []
  · exact Or.inl ⟨(JobTable.reports_of_absent hnone).1, h.notified hsound hidle sink hnone⟩
  · have hfirst := h.first
    rw [← hfacts, head?_statusesOf_append_of_ne_nil hnone] at hfirst
    exact Or.inr (JobTable.lookup_reports (h.tracked (by rw [hidle]; exact nofun)) hfirst hend)

end Notify

/-- Whatever happens, the first fact of the pid stays the first one until it is reported. -/
theorem Step.due (step : Step .unheld s events t) (h : s.Due pid status) (hsound : s.kernel.Sound)
    (hend : Termination.ofStatus? status = some termination) :
    (Event.firstReport? pid events = none ∧ t.Due pid status) ∨
      Event.firstReport? pid events = some termination := by
  cases step with
  | notify sink hidle =>
      rw [Event.firstReport?_map_ofReport]
      exact h.reported hsound hidle hend sink
  | launchBackground other signals hidle hpid =>
      exact Or.inl ⟨rfl, h.start hidle hpid signals _ nofun⟩
  | launchForeground other signals hidle hblocked hpid =>
      exact Or.inl ⟨rfl, h.start hidle hpid signals _ fun hwaits => Stage.waiting.inj hwaits⟩
  | register other line hstage => exact Or.inl ⟨rfl, h.register line hstage⟩
  | wait other word t hstage => exact Or.inl ⟨rfl, h.wait hstage⟩
  | move move => exact Or.inl ⟨Event.firstReport?_map_ofFact pid _, h.move hsound move⟩
  | mask mask hheld =>
      exact Or.inl ⟨rfl, h.quiet (.setMask hsound.log mask) (.setMask hsound mask)⟩

/-- So the first report of the pid is of this fact. -/
theorem Run.due (run : Run .unheld s later t) (h : s.Due pid status) (hsound : s.kernel.Sound)
    (hend : Termination.ofStatus? status = some termination) :
    (Event.firstReport? pid later = none ∧ t.Due pid status) ∨
      Event.firstReport? pid later = some termination := by
  induction run with
  | nil => exact Or.inl ⟨rfl, h⟩
  | snoc run step ih =>
      rw [Event.firstReport?_append]
      obtain ⟨hnone, hdue⟩ | htold := ih
      · rw [hnone, Option.none_or]
        exact step.due hdue (run.sound hsound) hend
      · exact Or.inr (by rw [htold, Option.some_or])

/-- A notification that takes all that is outstanding reports it. -/
theorem Due.lookup_reports (h : s.Due pid status) (hsound : s.kernel.Sound)
    (hidle : s.stage = .idle) (hend : Termination.ofStatus? status = some termination)
    (hblocked : s.kernel.signals.childBlocked = false)
    (hpending : s.kernel.childPending = false)
    (hfits : s.kernel.outstanding.length ≤ 16 * 64) :
    s.reports.lookup pid = some termination := by
  obtain ⟨htaken, -⟩ :=
    Kernel.drainBatches_take hsound hblocked hpending JobTable.maxDrainPasses
  rw [reports, htaken.trans (List.take_of_length_le hfits)]
  exact JobTable.lookup_reports (h.tracked (by rw [hidle]; exact nofun)) h.first hend

end Tracking

end JobShell
