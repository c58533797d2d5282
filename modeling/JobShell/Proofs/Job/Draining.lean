import JobShell.Job.Notification
import JobShell.Proofs.Job.Pids
import JobShell.Proofs.Kernel.Outstanding

/-!
# Draining the log

A notification is described in two halves. On the side of the table, applying facts is
`JobTable.settleAll`, and what is reported on the way is `JobTable.reports`; neither depends
on where the reports go. On the side of the kernel, `Kernel.drainBatches` lists what the
takings of a notification yield.

The takings hand over outstanding facts from the first one on (`drainBatches_conserves`).
While the child signal can be delivered, `n` takings hand over as many as fit into `n`
buffers (`drainBatches_take`): a full buffer is marked, so the signal is raised again and the
next buffer is filled from the children that were left.
-/

namespace JobShell

namespace JobTable

/-- The report that a fact gives rise to: who has ended, and how. -/
def report? (t : JobTable) (fact : Fact) : Option (Pid × Termination) :=
  match Termination.ofStatus? fact.status, t.find? fact.pid with
  | some termination, some _ => some (fact.pid, termination)
  | _, _ => none

/-- The line of a report. -/
def reportLine (report : Pid × Termination) : String :=
  "background pid " ++ toString report.1 ++ " is done: " ++ report.2.message ++ "\n"

/-- The lines of reports. -/
def reportText : List (Pid × Termination) → String
  | [] => ""
  | report :: reports => reportLine report ++ reportText reports

/-- Writes a report. -/
def writeReport (sink : Sink) (report : Pid × Termination) : Sink :=
  (sink.write (reportLine report)).2

/-- The table after a fact. -/
def settle (t : JobTable) (fact : Fact) : JobTable :=
  if (Termination.ofStatus? fact.status).isSome then t.erase fact.pid else t

/-- The table after facts. -/
def settleAll (t : JobTable) (facts : List Fact) : JobTable :=
  facts.foldl settle t

/-- The reports that facts give rise to. -/
def reports (t : JobTable) : List Fact → List (Pid × Termination)
  | [] => []
  | fact :: facts => (t.report? fact).toList ++ (t.settle fact).reports facts

section Fact

variable {t : JobTable} {fact : Fact} {termination : Termination}

theorem report?_of_mem (hend : Termination.ofStatus? fact.status = some termination)
    (hmem : fact.pid ∈ t.pids) : t.report? fact = some (fact.pid, termination) := by
  cases hjob : t.find? fact.pid with
  | none => exact absurd hmem (find?_eq_none_iff.1 hjob)
  | some job => rw [report?, hend, hjob]

theorem report?_of_notMem (hfree : fact.pid ∉ t.pids) : t.report? fact = none := by
  rw [report?, find?_eq_none_iff.2 hfree]
  cases Termination.ofStatus? fact.status <;> rfl

theorem mem_pids_settle (hend : (Termination.ofStatus? fact.status).isSome) {pid : Pid} :
    pid ∈ (t.settle fact).pids ↔ pid ∈ t.pids ∧ pid ≠ fact.pid := by
  rw [settle, if_pos hend, mem_pids_erase]

end Fact

theorem reportText_append (reports later : List (Pid × Termination)) :
    reportText (reports ++ later) = reportText reports ++ reportText later := by
  induction reports with
  | nil => exact (String.empty_append).symm
  | cons report reports ih =>
      rw [List.cons_append, reportText, reportText, ih, String.append_assoc]

theorem settleAll_append (t : JobTable) (facts later : List Fact) :
    t.settleAll (facts ++ later) = (t.settleAll facts).settleAll later :=
  List.foldl_append

theorem reports_append (t : JobTable) (facts later : List Fact) :
    t.reports (facts ++ later) = t.reports facts ++ (t.settleAll facts).reports later := by
  induction facts generalizing t with
  | nil => rfl
  | cons fact facts ih =>
      rw [List.cons_append, reports, reports, ih, List.append_assoc]
      rfl

/-- One fact, on the table and on the sink. -/
theorem reconcileFact_eq (t : JobTable) (sink : Sink) (fact : Fact) :
    t.reconcileFact sink fact =
      (t.settle fact,
        (t.report? fact).elim sink fun report => writeReport sink report) := by
  rw [reconcileFact, settle, report?]
  cases hend : Termination.ofStatus? fact.status with
  | none => rfl
  | some termination =>
      cases hjob : t.find? fact.pid with
      | none =>
          rw [Option.isSome_some, if_pos rfl, erase_of_notMem (find?_eq_none_iff.1 hjob)]
          rfl
      | some job =>
          obtain ⟨-, hpid⟩ := find?_eq_some hjob
          have hline : (job.finish termination).report ++ "\n" =
              reportLine (fact.pid, termination) := by
            rw [← hpid]
            rfl
          simp only [hline]
          rfl

/-- Facts in one batch: every report is written, and the sink is told to pass them on. -/
theorem reconcile_eq (t : JobTable) (sink : Sink) (facts : List Fact) :
    t.reconcile sink facts =
      (t.settleAll facts, ((t.reports facts).foldl writeReport sink).flush.2) := by
  have hfold : facts.foldl (fun s fact => reconcileFact s.1 s.2 fact) (t, sink) =
      (t.settleAll facts, (t.reports facts).foldl writeReport sink) := by
    induction facts generalizing t sink with
    | nil => rfl
    | cons fact facts ih =>
        rw [List.foldl_cons, reconcileFact_eq, ih, reports, List.foldl_append]
        cases t.report? fact <;> rfl
  rw [reconcile, hfold]

/-- The table and the sink after batches of facts. -/
def reconcileBatches (t : JobTable) (sink : Sink) (batches : List (List Fact)) :
    JobTable × Sink :=
  batches.foldl (fun s facts => s.1.reconcile s.2 facts) (t, sink)

theorem reconcileBatches_fst (t : JobTable) (sink : Sink) (batches : List (List Fact)) :
    (t.reconcileBatches sink batches).1 = t.settleAll batches.flatten := by
  induction batches generalizing t sink with
  | nil => rfl
  | cons facts batches ih =>
      change ((t.reconcile sink facts).1.reconcileBatches (t.reconcile sink facts).2 batches).1 = _
      rw [ih, reconcile_eq, List.flatten_cons, settleAll_append]

/-- The reports that a sink takes when it is asked to write these one after the other. -/
def accepted (sink : Sink) (reports : List (Pid × Termination)) : List (Pid × Termination) :=
  (reports.zipIdx sink.operations).filterMap fun entry =>
    if sink.failsAt entry.2 false then none else some entry.1

/-- Each report is one operation, whatever has become of the others. -/
theorem foldl_writeReport (reports : List (Pid × Termination)) (sink : Sink) :
    reports.foldl writeReport sink =
      { sink with
        text := sink.text ++ reportText (accepted sink reports)
        operations := sink.operations + reports.length } := by
  induction reports generalizing sink with
  | nil =>
      have htext : sink.text ++ reportText (accepted sink []) = sink.text := String.append_empty
      rw [List.foldl_nil, htext, List.length_nil, Nat.add_zero]
  | cons report reports ih =>
      rw [List.foldl_cons, ih, List.length_cons, ← Nat.add_assoc, Nat.add_right_comm]
      simp only [accepted, List.zipIdx_cons, List.filterMap_cons, writeReport, Sink.write]
      split
      · rfl
      · simp only [reportText, String.append_assoc]

theorem accepted_of_takes {sink : Sink} (h : ∀ n, sink.failsAt n false = false)
    (reports : List (Pid × Termination)) : accepted sink reports = reports := by
  simp only [accepted, h, Bool.false_eq_true, if_false]
  rw [List.filterMap_eq_map', List.zipIdx_map_fst]

/-- On a sink that takes everything, reports are written as they are. -/
theorem foldl_writeReport_healthy (reports : List (Pid × Termination)) (sink : Sink)
    (h : ∀ n passing, sink.failsAt n passing = false) :
    (reports.foldl writeReport sink).text = sink.text ++ reportText reports ∧
      (reports.foldl writeReport sink).failsAt = sink.failsAt := by
  rw [foldl_writeReport, accepted_of_takes fun n => h n false]
  exact ⟨rfl, rfl⟩

/-- On such a sink the text of batches is the lines of their reports. -/
theorem text_reconcileBatches (t : JobTable) (sink : Sink) (batches : List (List Fact))
    (h : ∀ n passing, sink.failsAt n passing = false) :
    (t.reconcileBatches sink batches).2.text =
      sink.text ++ reportText (t.reports batches.flatten) := by
  induction batches generalizing t sink with
  | nil => exact (String.append_empty).symm
  | cons facts batches ih =>
      obtain ⟨htext, hfails⟩ := foldl_writeReport_healthy (t.reports facts) sink h
      have hnext := ih (t.settleAll facts) ((t.reports facts).foldl writeReport sink).flush.2
        (fun n passing => (congrFun (congrFun hfails n) passing).trans (h n passing))
      have hfirst : t.reconcileBatches sink (facts :: batches) =
          (t.settleAll facts).reconcileBatches
            ((t.reports facts).foldl writeReport sink).flush.2 batches := by
        rw [reconcileBatches, List.foldl_cons, reconcile_eq]
        rfl
      rw [hfirst, hnext, List.flatten_cons, reports_append, reportText_append,
        ← String.append_assoc, ← htext]
      rfl

end JobTable

namespace Kernel

/-- The log is taken. -/
def takeLog (k : Kernel) : Kernel :=
  { k with log := k.log.take.2 }

/-- What the takings of a notification yield, each in one batch. -/
def drainBatches : Nat → Kernel → List (List Fact) × Kernel
  | 0, k => ([], k)
  | passes + 1, k =>
    if k.log.active.saturated then
      let (batches, k') := drainBatches passes k.takeLog.raiseChild
      (k.log.waiting :: batches, k')
    else ([k.log.waiting], k.takeLog)

end Kernel

namespace JobTable

/-- A notification reconciles its takings one after the other. -/
theorem drain_eq (passes : Nat) (t : JobTable) (sink : Sink) (k : Kernel) :
    drain passes t sink k =
      ((t.reconcileBatches sink (Kernel.drainBatches passes k).1).1,
        (t.reconcileBatches sink (Kernel.drainBatches passes k).1).2,
        (Kernel.drainBatches passes k).2) := by
  induction passes generalizing t sink k with
  | zero => rfl
  | succ passes ih =>
      change (if k.log.active.saturated then
          drain passes (t.reconcile sink k.log.waiting).1 (t.reconcile sink k.log.waiting).2
            k.takeLog.raiseChild
        else ((t.reconcile sink k.log.waiting).1, (t.reconcile sink k.log.waiting).2,
          k.takeLog)) = _
      rw [Kernel.drainBatches]
      split
      · rw [ih]
        rfl
      · rfl

end JobTable

namespace Kernel

section TakeLog

variable {k : Kernel}

theorem outstanding_takeLog (h : k.log.WellFormed) : k.takeLog.outstanding = k.reapable := by
  change k.log.take.2.waiting ++ k.reapable = _
  rw [h.waiting_take, List.nil_append]

/-- Taking the log hands over the first outstanding facts. -/
theorem waiting_append_outstanding_takeLog (h : k.log.WellFormed) :
    k.log.waiting ++ k.takeLog.outstanding = k.outstanding := by
  rw [outstanding_takeLog h]
  rfl

variable (h : k.Sound)
include h

theorem Sound.raiseChild_takeLog : k.takeLog.raiseChild.Sound :=
  .of_raiseChild h.log.take h.handler

theorem Unseen.raiseChild_takeLog : k.takeLog.Unseen k.takeLog.raiseChild :=
  .raiseChild h.log.take h.handler

/-- An unmarked log can be taken without more ado. -/
theorem Sound.takeLog (hmark : k.log.active.saturated = false) : k.takeLog.Sound where
  log := h.log.take
  handler := h.handler
  wakeful hleft := by
    cases h.wakeful hleft with
    | inl hpending => exact Or.inl hpending
    | inr hmarked => exact absurd (hmark.symm.trans hmarked) Bool.false_ne_true

end TakeLog

/-- A notification takes the log first as it is. -/
theorem waiting_prefix_drainBatches (passes : Nat) (k : Kernel) :
    k.log.waiting <+: (drainBatches (passes + 1) k).1.flatten := by
  rw [drainBatches]
  split
  · exact List.prefix_append ..
  · exact List.prefix_append ..

/-- However many takings there are, no fact is lost on the way and none comes twice. -/
theorem drainBatches_conserves (passes : Nat) {k : Kernel} (h : k.Sound) :
    (drainBatches passes k).1.flatten ++ (drainBatches passes k).2.outstanding =
        k.outstanding ∧
      (drainBatches passes k).2.runningPids = k.runningPids ∧
      (drainBatches passes k).2.signals = k.signals ∧
      (drainBatches passes k).2.Sound := by
  induction passes generalizing k with
  | zero => exact ⟨rfl, rfl, rfl, h⟩
  | succ passes ih =>
      rw [drainBatches]
      cases hmark : k.log.active.saturated with
      | true =>
          -- what the raised signal brings in is only moved, so the rest drains what is left
          rcases ih h.raiseChild_takeLog with ⟨hfacts, hrunning, hsignals, hsound⟩
          have hunseen := Unseen.raiseChild_takeLog h
          refine ⟨?_, ?_, ?_, hsound⟩
          · calc
              _ = k.log.waiting ++ ((drainBatches passes k.takeLog.raiseChild).1.flatten ++
                  (drainBatches passes k.takeLog.raiseChild).2.outstanding) :=
                List.append_assoc ..
              _ = k.log.waiting ++ k.takeLog.outstanding := by
                rw [hfacts, hunseen.outstanding]
              _ = k.outstanding := waiting_append_outstanding_takeLog h.log
          · exact hrunning.trans hunseen.runningPids
          · exact hsignals.trans k.takeLog.signals_raiseChild
      | false =>
          refine ⟨?_, rfl, rfl, h.takeLog hmark⟩
          rw [← waiting_append_outstanding_takeLog h.log]
          simp

section Open

variable {k : Kernel} (h : k.Sound) (hblocked : k.signals.childBlocked = false)
  (hpending : k.childPending = false)
include h hpending

/-- Where the child signal is neither blocked nor waiting, an unmarked log leaves no child to
collect. -/
theorem outstanding_of_unmarked (hmark : k.log.active.saturated = false) :
    k.outstanding = k.log.waiting := by
  have hnone : k.reapable = [] := by
    cases hreapable : k.reapable with
    | nil => rfl
    | cons fact facts =>
        have hwake := h.wakeful (by rw [hreapable]; exact List.cons_ne_nil _ _)
        rw [hpending, hmark] at hwake
        simp at hwake
  rw [outstanding, hnone, List.append_nil]

include hblocked

theorem raiseChild_takeLog_of_unblocked :
    k.takeLog.raiseChild.signals.childBlocked = false ∧
      k.takeLog.raiseChild.childPending = false := by
  rw [raiseChild_of_unblocked (k := k.takeLog) h.handler hblocked]
  exact ⟨hblocked, hpending⟩

/-- While the child signal can be delivered, each taking but the last hands over a full
buffer, and what is raised after it fills the next one. -/
theorem drainBatches_take (passes : Nat) :
    (drainBatches passes k).1.flatten = k.outstanding.take (passes * FactBuffer.capacity) ∧
      (drainBatches passes k).2.childPending = false := by
  induction passes generalizing k with
  | zero =>
      rw [Nat.zero_mul, List.take_zero]
      exact ⟨rfl, hpending⟩
  | succ passes ih =>
      rw [drainBatches]
      cases hmark : k.log.active.saturated with
      | true =>
          obtain ⟨hblocked', hpending'⟩ := raiseChild_takeLog_of_unblocked h hblocked hpending
          rcases ih h.raiseChild_takeLog hblocked' hpending' with ⟨hfacts, hlast⟩
          have hfull : k.log.waiting.length = FactBuffer.capacity := by
            rw [h.log.length_waiting, h.log.full_of_saturated hmark]
          have htake : k.outstanding.take ((passes + 1) * FactBuffer.capacity) =
              k.log.waiting ++ k.reapable.take (passes * FactBuffer.capacity) := by
            rw [outstanding, Nat.succ_mul, Nat.add_comm, ← hfull, List.take_length_add_append]
          rw [(Unseen.raiseChild_takeLog h).outstanding, outstanding_takeLog h.log] at hfacts
          rw [htake, ← hfacts]
          exact ⟨rfl, hlast⟩
      | false =>
          refine ⟨?_, hpending⟩
          have hlength := h.log.length_waiting
          have hle := h.log.pending_le
          rw [outstanding_of_unmarked h hpending hmark,
            List.take_of_length_le (by rw [hlength, Nat.succ_mul]; omega)]
          exact List.append_nil _

end Open

end Kernel

end JobShell
