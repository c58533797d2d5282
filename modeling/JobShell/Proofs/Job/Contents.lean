import JobShell.Proofs.Job.Draining
import JobShell.Proofs.Text.OneLine

/-!
# The contents of the job table

What is found under a pid after each operation, and that the jobs stand in strictly increasing
order of their pids (`JobTable.Sorted`), so the listing shows each tracked pid in one line
(`JobTable.lines_shown`).
-/

namespace JobShell

namespace JobTable

variable {t : JobTable} {pid other : Pid} {input : String}

/-- The jobs are in strictly increasing order of their pids. -/
def Sorted (t : JobTable) : Prop :=
  t.pids.Pairwise (· < ·)

theorem sorted_empty : empty.Sorted :=
  .nil

theorem find?_cons_pid (job : Job) (jobs : List Job) (pid : Pid) :
    (job :: jobs).find? (fun j => j.pid == pid) =
      if pid = job.pid then some job else jobs.find? fun j => j.pid == pid := by
  rw [List.find?_cons]
  by_cases hpid : job.pid = pid
  · rw [beq_iff_eq.2 hpid, if_pos hpid.symm]
  · rw [beq_false_of_ne hpid, if_neg (Ne.symm hpid)]

theorem find?_insertJob (job : Job) (jobs : List Job) (pid : Pid) :
    (insertJob job jobs).find? (fun j => j.pid == pid) =
      if pid = job.pid then some job else jobs.find? fun j => j.pid == pid := by
  induction jobs with
  | nil => exact find?_cons_pid job [] pid
  | cons j js ih =>
      rw [insertJob]
      split
      · exact find?_cons_pid job (j :: js) pid
      · split
        · next hsame =>
            rw [find?_cons_pid, find?_cons_pid, hsame]
            split <;> rfl
        · next hless hsame =>
            rw [find?_cons_pid, find?_cons_pid, ih]
            by_cases hpid : pid = j.pid
            · rw [if_pos hpid, if_pos hpid, if_neg (hpid ▸ Ne.symm hsame)]
            · rw [if_neg hpid, if_neg hpid]

/-- Only what is found under the pid itself changes. -/
theorem find?_create (t : JobTable) (pid : Pid) (input : String) (other : Pid) :
    (t.create pid input).find? other =
      if other = pid then some { pid, input } else t.find? other :=
  find?_insertJob { pid, input } t.jobs other

theorem find?_erase (t : JobTable) (pid other : Pid) :
    (t.erase pid).find? other = if other = pid then none else t.find? other := by
  rw [erase, find?, List.find?_filter]
  split
  · next hsame => simp [hsame]
  · next hother =>
      refine congrArg (List.find? · t.jobs) (funext fun j => ?_)
      by_cases hpid : j.pid = other
      · simp [hpid, hother]
      · simp [hpid]

/-- A new job goes to its place. -/
theorem pairwise_insertJob (job : Job) {jobs : List Job}
    (h : (jobs.map Job.pid).Pairwise (· < ·)) :
    ((insertJob job jobs).map Job.pid).Pairwise (· < ·) := by
  induction jobs with
  | nil => exact List.pairwise_singleton _ _
  | cons j js ih =>
      rw [List.map_cons, List.pairwise_cons] at h
      obtain ⟨hfirst, hlater⟩ := h
      rw [insertJob]
      split
      · next hless =>
          rw [List.map_cons, List.map_cons, List.pairwise_cons, List.pairwise_cons]
          refine ⟨fun pid hpid => ?_, hfirst, hlater⟩
          cases List.mem_cons.1 hpid with
          | inl heq => exact heq ▸ hless
          | inr hmem => exact Int.lt_trans hless (hfirst pid hmem)
      · split
        · next hsame =>
            rw [List.map_cons, List.pairwise_cons, hsame]
            exact ⟨hfirst, hlater⟩
        · next hless hsame =>
            rw [List.map_cons, List.pairwise_cons]
            refine ⟨fun pid hpid => ?_, ih hlater⟩
            cases mem_map_insertJob.1 hpid with
            | inl heq =>
                have hplace := ((Int.lt_trichotomy job.pid j.pid).resolve_left hless)
                exact heq ▸ hplace.resolve_left hsame
            | inr hmem => exact hfirst pid hmem

theorem Sorted.create (h : t.Sorted) (pid : Pid) (input : String) :
    (t.create pid input).Sorted :=
  pairwise_insertJob { pid, input } h

theorem Sorted.erase (h : t.Sorted) (pid : Pid) : (t.erase pid).Sorted :=
  List.Pairwise.sublist ((List.filter_sublist).map Job.pid) h

/-- Since each pid stands in the table once, every job in it is found. -/
theorem Sorted.mem_jobs_iff (h : t.Sorted) {job : Job} :
    job ∈ t.jobs ↔ t.find? job.pid = some job := by
  obtain ⟨jobs⟩ := t
  change (jobs.map Job.pid).Pairwise (· < ·) at h
  change job ∈ jobs ↔ jobs.find? (fun j => j.pid == job.pid) = some job
  induction jobs with
  | nil => simp
  | cons j js ih =>
      rw [List.map_cons, List.pairwise_cons] at h
      obtain ⟨hfirst, hlater⟩ := h
      rw [find?_cons_pid, List.mem_cons, ih hlater]
      split
      · next hsame =>
          have hnone : job ∉ js := fun hmem =>
            absurd (hfirst job.pid (List.mem_map_of_mem hmem)) (hsame ▸ Int.lt_irrefl j.pid)
          rw [← ih hlater, or_iff_left hnone, Option.some_inj]
          exact eq_comm
      · next hother => exact or_iff_right fun heq => hother (heq ▸ rfl)

theorem hasJobs_iff : t.hasJobs = true ↔ ∃ pid, pid ∈ t.pids := by
  rw [hasJobs, pids]
  cases t.jobs with
  | nil => simp
  | cons job jobs => simp

section Listing

/-- A job as the listing shows it, without the end of the line. -/
def jobLine (job : Job) : String :=
  "Job \x7b pid: Pid(" ++ toString job.pid ++ "), input: " ++ Text.quoted job.input ++
    ", state: " ++ job.state.shown ++ " \x7d"

theorem shownJob_eq (job : Job) : shownJob job = jobLine job ++ "\n" := by
  have hend : " \x7d\n" = " \x7d" ++ "\n" := by decide
  unfold shownJob jobLine
  rw [hend, ← String.append_assoc]

theorem lineFeed_notMem_shown (state : JobState) : '\n' ∉ state.shown.toList := by
  cases state with
  | running => decide
  | ended t =>
      cases t <;>
        simp only [JobState.shown, Termination.shown, String.toList_append, List.mem_append,
          not_or, Text.lineFeed_notMem_toString, not_false_eq_true] <;> decide

theorem lineFeed_notMem_jobLine (job : Job) : '\n' ∉ (jobLine job).toList := by
  unfold jobLine
  simp only [String.toList_append, List.mem_append, not_or, Text.lineFeed_notMem_toString,
    Text.lineFeed_notMem_quoted, lineFeed_notMem_shown, not_false_eq_true]
  decide

theorem getLast?_jobLine (job : Job) : (jobLine job).toList.getLast? ≠ some '\r' := by
  have hend : (" \x7d").toList.getLast? = some '\x7d' := by decide
  unfold jobLine
  rw [String.toList_append, List.getLast?_append, hend, Option.some_or]
  decide

/-- The listing is the number of jobs and then each job, in one line each. -/
theorem lines_shown (t : JobTable) :
    Text.lines t.shown = (toString t.pids.length ++ " jobs") :: t.jobs.map jobLine := by
  have hjobs (jobs : List Job) :
      Text.lines ((jobs.map shownJob).foldr (· ++ ·) "") = jobs.map jobLine := by
    induction jobs with
    | nil => rfl
    | cons job jobs ih =>
        rw [List.map_cons, List.foldr_cons, shownJob_eq,
          Text.lines_line_append (lineFeed_notMem_jobLine job) (getLast?_jobLine job), ih]
        rfl
  have hcount : toString t.jobs.length ++ " jobs\n" =
      toString t.jobs.length ++ " jobs" ++ "\n" := by
    have hend : " jobs\n" = " jobs" ++ "\n" := by decide
    rw [hend, String.append_assoc]
  have hopen : '\n' ∉ (toString t.jobs.length ++ " jobs").toList := by
    rw [String.toList_append, List.mem_append, not_or]
    exact ⟨Text.lineFeed_notMem_toString t.jobs.length, by decide⟩
  have hreturn : (toString t.jobs.length ++ " jobs").toList.getLast? ≠ some '\r' := by
    have hend : " jobs".toList.getLast? = some 's' := by decide
    rw [String.toList_append, List.getLast?_append, hend, Option.some_or]
    decide
  rw [shown, hcount, Text.lines_line_append hopen hreturn, hjobs, pids, List.length_map]

end Listing

end JobTable

end JobShell
