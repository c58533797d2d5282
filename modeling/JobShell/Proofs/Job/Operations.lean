import JobShell.Proofs.Job.History

/-!
# Operations on a job table

Any operations on a new job table, on one sink, leave the table and the reports that their
history says (`JobTable.table_follows_history`). A notification counts with the facts of all its
takings (`Kernel.drainBatches`), whatever the log and the kernel are by then.
-/

namespace JobShell

/-- What can be asked of a job table. -/
inductive JobOperation where
  | create (pid : Pid) (input : String)
  | reconcile (facts : List Fact)
  | notify (k : Kernel)
  | terminateAll (k : Kernel)

namespace JobOperation

/-- The facts that are handed over. -/
def facts : JobOperation → List Fact
  | create _ _ | terminateAll _ => []
  | reconcile facts => facts
  | notify k => (Kernel.drainBatches JobTable.maxDrainPasses k).1.flatten

/-- What an operation does, one event after the other. -/
def events : JobOperation → List JobEvent
  | create pid input => [.created pid input]
  | reconcile facts => facts.map .given
  | notify k => (notify k).facts.map .given
  | terminateAll _ => [.cleared]

/-- The operation on a table that reports to a sink. -/
def perform (s : JobTable × Sink) : JobOperation → JobTable × Sink
  | create pid input => (s.1.create pid input, s.2)
  | reconcile facts => s.1.reconcile s.2 facts
  | notify k => ((s.1.notify s.2 k).1, (s.1.notify s.2 k).2.1)
  | terminateAll k => ((s.1.terminateAll k).1, s.2)

end JobOperation

namespace JobTable

open JobHistory JobOperation

variable {t : JobTable} {history : List JobEvent}

theorem foldl_apply_given (t : JobTable) (facts : List Fact) :
    (facts.map JobEvent.given).foldl JobTable.apply t = t.settleAll facts := by
  rw [List.foldl_map]
  rfl

/-- Where an operation reports to makes no difference to the table. -/
theorem fst_perform (s : JobTable × Sink) (operation : JobOperation) :
    (operation.perform s).1 = operation.events.foldl JobTable.apply s.1 := by
  cases operation with
  | create | terminateAll => rfl
  | reconcile facts => rw [perform, events, foldl_apply_given, reconcile_eq]
  | notify k => rw [perform, events, foldl_apply_given, notify, drain_eq, reconcileBatches_fst]; rfl

theorem failsAt_reconcile (t : JobTable) (sink : Sink) (facts : List Fact) :
    (t.reconcile sink facts).2.failsAt = sink.failsAt := by
  rw [reconcile_eq, foldl_writeReport]
  rfl

theorem failsAt_reconcileBatches (t : JobTable) (sink : Sink) (batches : List (List Fact)) :
    (t.reconcileBatches sink batches).2.failsAt = sink.failsAt := by
  induction batches generalizing t sink with
  | nil => rfl
  | cons facts batches ih =>
      rw [reconcileBatches, List.foldl_cons]
      exact (ih _ _).trans (failsAt_reconcile t sink facts)

theorem failsAt_perform (s : JobTable × Sink) (operation : JobOperation) :
    (operation.perform s).2.failsAt = s.2.failsAt := by
  cases operation with
  | create | terminateAll => rfl
  | reconcile facts => exact failsAt_reconcile ..
  | notify k =>
      rw [perform, notify, drain_eq]
      exact failsAt_reconcileBatches ..

/-- On a sink that takes everything an operation writes the reports of its events. -/
theorem text_perform (s : JobTable × Sink) (h : s.1.Records history)
    (hhealthy : ∀ n passing, s.2.failsAt n passing = false) (operation : JobOperation) :
    (operation.perform s).2.text =
      s.2.text ++ reportText (reportsAfter history operation.events) := by
  cases operation with
  | create | terminateAll => exact String.append_empty.symm
  | reconcile facts =>
      have htext := text_reconcileBatches s.1 s.2 [facts] hhealthy
      rw [List.flatten_singleton, h.reports_eq] at htext
      exact htext
  | notify k =>
      rw [perform, notify, drain_eq, events, ← h.reports_eq]
      exact text_reconcileBatches s.1 s.2 _ hhealthy

theorem Records.foldl_perform {s : JobTable × Sink} (h : s.1.Records history)
    (operations : List JobOperation) :
    (operations.foldl perform s).1.Records
        (history ++ operations.flatMap JobOperation.events) ∧
      ((∀ n passing, s.2.failsAt n passing = false) →
        (operations.foldl perform s).2.text = s.2.text ++
          reportText (reportsAfter history (operations.flatMap JobOperation.events))) := by
  induction operations generalizing s history with
  | nil => exact ⟨by rwa [List.flatMap_nil, List.append_nil], fun _ => String.append_empty.symm⟩
  | cons operation operations ih =>
      have hnext : (operation.perform s).1.Records (history ++ operation.events) := by
        rw [fst_perform]
        exact h.foldl_apply operation.events
      obtain ⟨hrecords, htext⟩ := ih hnext
      rw [List.foldl_cons, List.flatMap_cons, ← List.append_assoc]
      refine ⟨hrecords, fun hhealthy => ?_⟩
      rw [htext (by rwa [failsAt_perform]), text_perform s h hhealthy, reportsAfter_append,
        reportText_append, String.append_assoc]

/-- **The job table has exact trace semantics.** -/
theorem table_follows_history (operations : List JobOperation) (sink : Sink) :
    let s := operations.foldl perform (.empty, sink)
    let history := operations.flatMap JobOperation.events
    -- a pid is tracked as long as some creation of it was not followed by an end of it
    (∀ pid, pid ∈ s.1.pids ↔ Tracked history pid) ∧
    -- by a running job with the input of its latest creation
    (∀ job, job ∈ s.1.jobs ↔ job.state = .running ∧ Latest history job.pid job.input) ∧
    (s.1.hasJobs = true ↔ ∃ pid, Tracked history pid) ∧
    -- the listing shows each tracked pid once, in increasing order, under the right number
    s.1.pids.Pairwise (· < ·) ∧
    Text.lines s.1.shown = (toString s.1.pids.length ++ " jobs") :: s.1.jobs.map jobLine ∧
    -- a fact is reported if it is an end of a tracked pid, and otherwise writes nothing
    (∀ fact, (s.1.reconcileFact s.2 fact).2 =
      (reported? history fact).elim s.2 fun report => writeReport s.2 report) ∧
    ((∀ n passing, sink.failsAt n passing = false) →
      s.2.text = sink.text ++ reportText (reportsAfter [] history)) ∧
    -- between two reports of a pid a job of it is created
    ∀ before between after fact fact',
      history = before ++ .given fact :: between ++ .given fact' :: after →
        fact'.pid = fact.pid → (reported? before fact).isSome →
          (reported? (before ++ .given fact :: between) fact').isSome →
            ∃ input, .created fact.pid input ∈ between := by
  intro s history
  obtain ⟨hrecords, htext⟩ := records_empty.foldl_perform (s := (.empty, sink)) operations
  refine ⟨fun pid => hrecords.mem_pids_iff, fun job => ?_, ?_, hrecords.sorted, lines_shown _,
    fun fact => ?_, htext, fun before between after fact fact' _ => exists_created_between⟩
  · rw [Sorted.mem_jobs_iff hrecords.sorted, hrecords.find?_eq_some_iff]
    constructor
    · rintro ⟨input, heq, hlatest⟩
      rw [heq]
      exact ⟨rfl, hlatest⟩
    · rintro ⟨hstate, hlatest⟩
      exact ⟨job.input, by rw [← hstate], hlatest⟩
  · rw [hasJobs_iff]
    exact exists_congr fun pid => hrecords.mem_pids_iff
  · rw [reconcileFact_eq, hrecords.report?_eq]
    rfl

/-- A pid that is created again while it is tracked has one job, the later one, whose end is
reported once. -/
theorem table_follows_history_recreated :
    let operations : List JobOperation :=
      [.create 9 "b &", .create 7 "a &", .create 9 "c &",
        .reconcile [⟨9, Termination.exitStatus 3⟩, ⟨9, Termination.exitStatus 4⟩]]
    let s := operations.foldl perform (.empty, .healthy)
    let history := operations.flatMap JobOperation.events
    Tracked history 7 ∧ ¬ Tracked history 9 ∧
      Text.lines s.1.shown =
        ["1 jobs", "Job \x7b pid: Pid(7), input: \"a &\", state: Running \x7d"] ∧
      s.2.text = "background pid 9 is done: exit value 3\n" := by
  intro operations s history
  obtain ⟨htracked, -, -, -, hlines, -, htext, -⟩ := table_follows_history operations .healthy
  refine ⟨(htracked 7).1 (by decide), mt (htracked 9).2 (by decide), ?_, ?_⟩
  · exact hlines.trans (by decide +kernel)
  · exact (htext fun _ _ => rfl).trans (by decide +kernel)

end JobTable

end JobShell
