import JobShell.Proofs.Job.Contents
import Mathlib.Data.List.Induction

/-!
# The job table and its history

The history of a job table is a list of `JobEvent`s: jobs created, facts handed over, the table
cleared. It decides which pids are tracked (`JobHistory.Tracked`), by which job
(`JobHistory.latest?`) and which facts are reported (`JobHistory.reported?`), and after any
operations the table holds just that (`JobTable.Records`).

One event is one step of the table (`JobTable.Records.apply`); a notification is as many steps
as its takings hand over facts.
-/

namespace JobShell

/-- What happens to a job table. -/
inductive JobEvent where
  | created (pid : Pid) (input : String)
  /-- A fact is handed over. -/
  | given (fact : Fact)
  | cleared
deriving DecidableEq, Repr

namespace JobEvent

/-- The event ends the tracking of a pid: it hands over an end of it, or clears the table. -/
def ends (pid : Pid) : JobEvent → Bool
  | created _ _ => false
  | given fact => fact.pid == pid && (Termination.ofStatus? fact.status).isSome
  | cleared => true

/-- The event starts a job of this pid. -/
def starts (pid : Pid) : JobEvent → Bool
  | created other _ => other == pid
  | given _ | cleared => false

/-- The input of the job that is tracked under a pid, from the input before the event. -/
def update (pid : Pid) (found : Option String) : JobEvent → Option String
  | created other input => if other = pid then some input else found
  | given fact =>
    if fact.pid == pid && (Termination.ofStatus? fact.status).isSome then none else found
  | cleared => none

variable {pid : Pid} {event : JobEvent}

theorem starts_eq_true_iff : event.starts pid = true ↔ ∃ input, event = created pid input := by
  cases event with
  | created other input =>
      rw [starts, beq_iff_eq]
      exact ⟨fun h => ⟨input, h ▸ rfl⟩, fun ⟨_, h⟩ => (created.inj h).1⟩
  | given | cleared => simp [starts]

theorem update_of_ends (h : event.ends pid = true) (found : Option String) :
    event.update pid found = none := by
  cases event with
  | created => cases h
  | given fact => exact if_pos h
  | cleared => rfl

theorem update_of_other (hends : event.ends pid = false) (hstarts : event.starts pid = false)
    (found : Option String) : event.update pid found = found := by
  cases event with
  | created other input => exact if_neg (beq_eq_false_iff_ne.1 hstarts)
  | given fact => exact if_neg (Bool.eq_false_iff.1 hends)
  | cleared => cases hends

@[simp] theorem update_created (pid : Pid) (input : String) (found : Option String) :
    (created pid input).update pid found = some input :=
  if_pos rfl

end JobEvent

namespace JobHistory

/-- The pid is tracked: some job of it was created, and nothing has ended its tracking since. -/
def Tracked (history : List JobEvent) (pid : Pid) : Prop :=
  ∃ before input after, history = before ++ .created pid input :: after ∧
    ∀ event ∈ after, event.ends pid = false

/-- The pid is tracked, and this is the input of the latest job created for it. -/
def Latest (history : List JobEvent) (pid : Pid) (input : String) : Prop :=
  ∃ before after, history = before ++ .created pid input :: after ∧
    ∀ event ∈ after, event.ends pid = false ∧ event.starts pid = false

/-- The input of the job that is tracked under a pid, read off the history. -/
def latest? (history : List JobEvent) (pid : Pid) : Option String :=
  history.foldl (fun found event => event.update pid found) none

variable {history later : List JobEvent} {pid : Pid} {input : String} {event : JobEvent}

@[simp] theorem latest?_nil (pid : Pid) : latest? [] pid = none := rfl

theorem latest?_concat (history : List JobEvent) (event : JobEvent) (pid : Pid) :
    latest? (history ++ [event]) pid = event.update pid (latest? history pid) := by
  rw [latest?, List.foldl_append]
  rfl

/-- Behind an event that a history holds there is nothing, or the last event. -/
theorem concat_eq_append_cons_iff {before after : List JobEvent} {first : JobEvent} :
    history ++ [event] = before ++ first :: after ↔
      (after = [] ∧ history = before ∧ event = first) ∨
        ∃ mid, after = mid ++ [event] ∧ history = before ++ first :: mid := by
  cases after using List.reverseRecOn with
  | nil =>
      constructor
      · intro h
        obtain ⟨rfl, hlast⟩ := List.append_inj' h rfl
        exact Or.inl ⟨rfl, rfl, (List.cons.inj hlast).1⟩
      · rintro (⟨-, rfl, rfl⟩ | ⟨mid, hnil, -⟩)
        · rfl
        · simp at hnil
  | append_singleton mid last _ =>
      rw [← List.cons_append, ← List.append_assoc]
      constructor
      · intro h
        obtain ⟨rfl, hlast⟩ := List.append_inj' h rfl
        obtain rfl := (List.cons.inj hlast).1
        exact Or.inr ⟨mid, rfl, rfl⟩
      · rintro (⟨hnil, -⟩ | ⟨mid', heq, rfl⟩)
        · simp at hnil
        · obtain ⟨rfl, hlast⟩ := List.append_inj' heq rfl
          rw [hlast]

theorem tracked_concat_iff : Tracked (history ++ [event]) pid ↔
    event.starts pid = true ∨ (event.ends pid = false ∧ Tracked history pid) := by
  constructor
  · rintro ⟨before, input, after, heq, hafter⟩
    rcases concat_eq_append_cons_iff.1 heq with ⟨-, -, rfl⟩ | ⟨mid, rfl, rfl⟩
    · exact Or.inl (beq_self_eq_true pid)
    · rw [List.forall_mem_append, List.forall_mem_singleton] at hafter
      exact Or.inr ⟨hafter.2, before, input, mid, rfl, hafter.1⟩
  · rintro (hstarts | ⟨hends, before, input, after, rfl, hafter⟩)
    · obtain ⟨input, rfl⟩ := JobEvent.starts_eq_true_iff.1 hstarts
      exact ⟨history, input, [], rfl, fun _ hmem => by cases hmem⟩
    · refine ⟨before, input, after ++ [event], by rw [List.append_assoc]; rfl, ?_⟩
      rw [List.forall_mem_append, List.forall_mem_singleton]
      exact ⟨hafter, hends⟩

theorem latest_concat_iff : Latest (history ++ [event]) pid input ↔
    event = .created pid input ∨
      ((event.ends pid = false ∧ event.starts pid = false) ∧ Latest history pid input) := by
  constructor
  · rintro ⟨before, after, heq, hafter⟩
    rcases concat_eq_append_cons_iff.1 heq with ⟨-, -, rfl⟩ | ⟨mid, rfl, rfl⟩
    · exact Or.inl rfl
    · rw [List.forall_mem_append, List.forall_mem_singleton] at hafter
      exact Or.inr ⟨hafter.2, before, mid, rfl, hafter.1⟩
  · rintro (rfl | ⟨hother, before, after, rfl, hafter⟩)
    · exact ⟨history, [], rfl, fun _ hmem => by cases hmem⟩
    · refine ⟨before, after ++ [event], by rw [List.append_assoc]; rfl, ?_⟩
      rw [List.forall_mem_append, List.forall_mem_singleton]
      exact ⟨hafter, hother⟩

theorem latest?_eq_some_iff : latest? history pid = some input ↔ Latest history pid input := by
  induction history using List.reverseRecOn with
  | nil => simp [Latest]
  | append_singleton history event ih =>
      rw [latest?_concat, latest_concat_iff, ← ih]
      cases hstarts : event.starts pid with
      | true =>
          obtain ⟨started, rfl⟩ := JobEvent.starts_eq_true_iff.1 hstarts
          simp
      | false =>
          have hother : event ≠ .created pid input := by
            rintro rfl
            simp [JobEvent.starts] at hstarts
          cases hends : event.ends pid with
          | true => simp [JobEvent.update_of_ends hends, hother]
          | false => simp [JobEvent.update_of_other hends hstarts, hother]

theorem isSome_latest?_iff : (latest? history pid).isSome ↔ Tracked history pid := by
  induction history using List.reverseRecOn with
  | nil => simp [Tracked]
  | append_singleton history event ih =>
      rw [latest?_concat, tracked_concat_iff, ← ih]
      cases hstarts : event.starts pid with
      | true =>
          obtain ⟨started, rfl⟩ := JobEvent.starts_eq_true_iff.1 hstarts
          simp
      | false =>
          cases hends : event.ends pid with
          | true => simp [JobEvent.update_of_ends hends]
          | false => simp [JobEvent.update_of_other hends hstarts]

instance (history : List JobEvent) (pid : Pid) : Decidable (Tracked history pid) :=
  decidable_of_iff _ isSome_latest?_iff

section Reports

/-- What has ended the tracking of a pid has not started it. -/
theorem not_tracked_of_ends (hends : event.ends pid = true) :
    ¬ Tracked (history ++ [event]) pid := by
  rw [← isSome_latest?_iff, latest?_concat, JobEvent.update_of_ends hends]
  exact Bool.false_ne_true

/-- A pid that has come to be tracked was created in between. -/
theorem exists_created (hbefore : ¬ Tracked history pid)
    (hafter : Tracked (history ++ later) pid) : ∃ input, .created pid input ∈ later := by
  induction later using List.reverseRecOn with
  | nil =>
      rw [List.append_nil] at hafter
      exact absurd hafter hbefore
  | append_singleton later event ih =>
      rw [← List.append_assoc, tracked_concat_iff] at hafter
      obtain hstarts | ⟨-, hearlier⟩ := hafter
      · obtain ⟨input, rfl⟩ := JobEvent.starts_eq_true_iff.1 hstarts
        exact ⟨input, List.mem_append_right _ List.mem_cons_self⟩
      · obtain ⟨input, hmem⟩ := ih hearlier
        exact ⟨input, List.mem_append_left _ hmem⟩

/-- The report that a fact gives rise to when it is handed over after these events. -/
def reported? (history : List JobEvent) (fact : Fact) : Option (Pid × Termination) :=
  if Tracked history fact.pid then
    (Termination.ofStatus? fact.status).map fun t => (fact.pid, t)
  else none

theorem isSome_reported?_iff {fact : Fact} : (reported? history fact).isSome ↔
    Tracked history fact.pid ∧ (Termination.ofStatus? fact.status).isSome := by
  rw [reported?]
  split
  · next htracked => rw [Option.isSome_map, and_iff_right htracked]
  · next hnot => exact ⟨fun h => absurd h Bool.false_ne_true, fun h => absurd h.1 hnot⟩

/-- The reports that events give rise to, from the first one on, after others. -/
def reportsAfter (history : List JobEvent) : List JobEvent → List (Pid × Termination)
  | [] => []
  | .given fact :: later =>
    (reported? history fact).toList ++ reportsAfter (history ++ [.given fact]) later
  | event :: later => reportsAfter (history ++ [event]) later

theorem reportsAfter_append (history events later : List JobEvent) :
    reportsAfter history (events ++ later) =
      reportsAfter history events ++ reportsAfter (history ++ events) later := by
  induction events generalizing history with
  | nil => rw [List.append_nil]; rfl
  | cons event events ih =>
      have hnext := ih (history ++ [event])
      rw [List.append_assoc, List.singleton_append] at hnext
      cases event with
      | given fact => rw [List.cons_append, reportsAfter, hnext, reportsAfter, List.append_assoc]
      | created | cleared => exact hnext

/-- Between two reports of a pid a job of it is created. -/
theorem exists_created_between {before between : List JobEvent} {fact fact' : Fact}
    (hpid : fact'.pid = fact.pid) (hfirst : (reported? before fact).isSome)
    (hsecond : (reported? (before ++ .given fact :: between) fact').isSome) :
    ∃ input, .created fact.pid input ∈ between := by
  rw [isSome_reported?_iff] at hfirst hsecond
  have hended : ¬ Tracked (before ++ [.given fact]) fact.pid :=
    not_tracked_of_ends (by rw [JobEvent.ends, beq_self_eq_true, hfirst.2]; rfl)
  refine exists_created hended ?_
  rw [List.append_assoc, ← hpid]
  exact hsecond.1

end Reports

end JobHistory

namespace JobTable

open JobHistory

/-- The table after an event. -/
def apply (t : JobTable) : JobEvent → JobTable
  | .created pid input => t.create pid input
  | .given fact => t.settle fact
  | .cleared => .empty

/-- The table holds what the history says, each pid once. -/
structure Records (t : JobTable) (history : List JobEvent) : Prop where
  sorted : t.Sorted
  find : ∀ pid, t.find? pid = (latest? history pid).map fun input => { pid, input }

variable {t : JobTable} {history : List JobEvent}

theorem records_empty : empty.Records [] where
  sorted := sorted_empty
  find _ := rfl

/-- One event, on the table and in the history. -/
theorem Records.apply (h : t.Records history) (event : JobEvent) :
    (t.apply event).Records (history ++ [event]) := by
  cases event with
  | created pid input =>
      refine ⟨h.sorted.create pid input, fun other => ?_⟩
      rw [JobTable.apply, find?_create, latest?_concat, JobEvent.update, h.find]
      by_cases hsame : other = pid
      · rw [if_pos hsame, if_pos hsame.symm, Option.map_some, hsame]
      · rw [if_neg hsame, if_neg (Ne.symm hsame)]
  | given fact =>
      rw [JobTable.apply, settle]
      cases hend : (Termination.ofStatus? fact.status).isSome with
      | false =>
          refine ⟨h.sorted, fun other => ?_⟩
          rw [latest?_concat, JobEvent.update, hend, Bool.and_false]
          exact h.find other
      | true =>
          refine ⟨h.sorted.erase fact.pid, fun other => ?_⟩
          rw [if_pos rfl, find?_erase, latest?_concat, JobEvent.update, hend, Bool.and_true,
            h.find]
          by_cases hsame : other = fact.pid
          · rw [if_pos hsame, if_pos (beq_iff_eq.2 hsame.symm)]
            rfl
          · rw [if_neg hsame, if_neg (mt beq_iff_eq.1 (Ne.symm hsame))]
  | cleared =>
      refine ⟨sorted_empty, fun other => ?_⟩
      rw [latest?_concat]
      rfl

theorem Records.foldl_apply (h : t.Records history) (events : List JobEvent) :
    (events.foldl JobTable.apply t).Records (history ++ events) := by
  induction events generalizing t history with
  | nil => rwa [List.append_nil]
  | cons event events ih =>
      have hnext := ih (h.apply event)
      rwa [List.append_assoc] at hnext

theorem Records.mem_pids_iff (h : t.Records history) {pid : Pid} :
    pid ∈ t.pids ↔ Tracked history pid := by
  rw [← isSome_latest?_iff, ← Option.isSome_map (f := fun input => ({ pid, input } : Job)),
    ← h.find, ← not_iff_not, ← find?_eq_none_iff, Option.not_isSome_iff_eq_none]

theorem Records.find?_eq_some_iff (h : t.Records history) {pid : Pid} {job : Job} :
    t.find? pid = some job ↔ ∃ input, job = { pid, input } ∧ Latest history pid input := by
  rw [h.find, Option.map_eq_some_iff]
  simp only [latest?_eq_some_iff]
  exact exists_congr fun input => and_comm.trans (and_congr_left fun _ => eq_comm)

theorem Records.report?_eq (h : t.Records history) (fact : Fact) :
    t.report? fact = reported? history fact := by
  rw [report?, reported?]
  cases hjob : t.find? fact.pid with
  | none =>
      rw [if_neg (mt h.mem_pids_iff.2 (find?_eq_none_iff.1 hjob))]
      split
      · next hnone => cases hnone
      · rfl
  | some job =>
      have htracked : Tracked history fact.pid := by
        rw [← isSome_latest?_iff, ← Option.isSome_map, ← h.find, hjob]
        rfl
      rw [if_pos htracked]
      cases Termination.ofStatus? fact.status <;> rfl

theorem Records.reports_eq (h : t.Records history) (facts : List Fact) :
    t.reports facts = reportsAfter history (facts.map .given) := by
  induction facts generalizing t history with
  | nil => rfl
  | cons fact facts ih =>
      have hlater : (t.settle fact).reports facts = _ := ih (h.apply (.given fact))
      rw [reports, h.report?_eq, hlater]
      rfl

end JobTable

end JobShell
