import JobShell.Job.Table

/-!
# The tracked pids

What the operations on the job table do to the pids in it.
-/

namespace JobShell

namespace JobTable

variable {t : JobTable} {pid other : Pid}

theorem find?_eq_some {job : Job} (h : t.find? pid = some job) :
    job ∈ t.jobs ∧ job.pid = pid :=
  ⟨List.mem_of_find?_eq_some h, by simpa using List.find?_some h⟩

theorem find?_eq_none_iff : t.find? pid = none ↔ pid ∉ t.pids := by
  rw [find?, List.find?_eq_none, pids, List.mem_map]
  constructor
  · rintro h ⟨job, hjob, rfl⟩
    exact h job hjob (beq_self_eq_true _)
  · intro h job hjob hpid
    exact h ⟨job, hjob, by simpa using hpid⟩

theorem mem_map_insertJob {job : Job} {js : List Job} :
    pid ∈ (insertJob job js).map Job.pid ↔ pid = job.pid ∨ pid ∈ js.map Job.pid := by
  induction js with
  | nil => simp [insertJob]
  | cons j js ih =>
      rw [insertJob]
      split
      · simp
      · split
        · next hsame => simp [hsame]
        · rw [List.map_cons, List.mem_cons, ih, List.map_cons, List.mem_cons]
          exact or_left_comm

theorem mem_pids_create {input : String} :
    other ∈ (t.create pid input).pids ↔ other = pid ∨ other ∈ t.pids :=
  mem_map_insertJob

theorem mem_pids_erase : other ∈ (t.erase pid).pids ↔ other ∈ t.pids ∧ other ≠ pid := by
  simp only [pids, erase, List.mem_map, List.mem_filter, bne_iff_ne]
  constructor
  · rintro ⟨job, ⟨hjob, hpid⟩, rfl⟩
    exact ⟨⟨job, hjob, rfl⟩, hpid⟩
  · rintro ⟨⟨job, hjob, rfl⟩, hpid⟩
    exact ⟨job, ⟨hjob, hpid⟩, rfl⟩

theorem erase_of_notMem (h : pid ∉ t.pids) : t.erase pid = t := by
  rw [erase]
  congr 1
  rw [List.filter_eq_self]
  intro job hjob
  exact bne_iff_ne.2 fun hpid => h (List.mem_map.2 ⟨job, hjob, hpid⟩)

end JobTable

end JobShell
