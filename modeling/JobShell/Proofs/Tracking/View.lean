import JobShell.Proofs.Tracking.Fate

/-!
# States that agree with a history

A state agrees with a history when it holds each pid as the events of the pid say
(`View.Agrees`): a child that was launched and has not ended runs, once; one that has ended
and of whom nothing is told has left its own status word, once; and whoever is to tell of it,
the job table or the main loop, knows its pid. `View.Accounted` says this of all pids, and the
theorems about it go through what may happen, one event at a time. Each of them looks at the
pid that the event is about; all other pids stand as before.

`View` holds what matters of a state. The facts that a notification has taken out of the log
and not applied yet are part of it.
-/

namespace JobShell

/-- The status words that facts hold for a pid. -/
def statusesOf (pid : Pid) (facts : List Fact) : List StatusWord :=
  (facts.filter fun fact => fact.pid == pid).map Fact.status

theorem statusesOf_append (pid : Pid) (facts later : List Fact) :
    statusesOf pid (facts ++ later) = statusesOf pid facts ++ statusesOf pid later := by
  rw [statusesOf, List.filter_append, List.map_append]
  rfl

theorem statusesOf_cons_self (fact : Fact) (facts : List Fact) :
    statusesOf fact.pid (fact :: facts) = fact.status :: statusesOf fact.pid facts := by
  rw [statusesOf, List.filter_cons, if_pos (beq_self_eq_true _)]
  rfl

theorem statusesOf_cons_of_ne {pid : Pid} {fact : Fact} (facts : List Fact)
    (h : fact.pid ≠ pid) : statusesOf pid (fact :: facts) = statusesOf pid facts := by
  rw [statusesOf, List.filter_cons, if_neg (by simpa using h)]
  rfl

theorem mem_statusesOf {pid : Pid} {status : StatusWord} {facts : List Fact} :
    status ∈ statusesOf pid facts ↔ ⟨pid, status⟩ ∈ facts := by
  simp only [statusesOf, List.mem_map, List.mem_filter, beq_iff_eq]
  constructor
  · rintro ⟨fact, ⟨hfact, rfl⟩, rfl⟩
    exact hfact
  · intro hfact
    exact ⟨_, ⟨hfact, rfl⟩, rfl⟩

theorem statusesOf_filter_self (pid : Pid) (facts : List Fact) :
    statusesOf pid (facts.filter fun fact => fact.pid != pid) = [] := by
  rw [statusesOf, List.filter_filter, List.map_eq_nil_iff, List.filter_eq_nil_iff]
  intro fact _
  simp

theorem statusesOf_filter_of_ne {pid other : Pid} (facts : List Fact) (h : other ≠ pid) :
    statusesOf other (facts.filter fun fact => fact.pid != pid) = statusesOf other facts := by
  rw [statusesOf, List.filter_filter]
  congr 1
  apply List.filter_congr
  intro fact _
  by_cases hpid : fact.pid = other
  · simp [hpid, h]
  · simp [hpid]

theorem statusesOf_perm {facts facts' : List Fact} (pid : Pid) (h : facts.Perm facts') :
    (statusesOf pid facts).Perm (statusesOf pid facts') :=
  (h.filter _).map _

namespace Stage

/-- The main loop is with a launch. -/
def ofLaunch (pid : Pid) (background : Bool) : Stage :=
  if background then .handed pid else .waiting pid

/-- Whether the main loop is with a launch of a pid, and if so, of which kind. -/
def launching (stage : Stage) (pid : Pid) : Option Bool :=
  match stage with
  | .idle => none
  | .waiting other => if other = pid then some false else none
  | .handed other => if other = pid then some true else none

@[simp] theorem launching_idle (pid : Pid) : idle.launching pid = none := rfl

@[simp] theorem launching_ofLaunch_self (pid : Pid) (background : Bool) :
    (ofLaunch pid background).launching pid = some background := by
  cases background <;> exact if_pos rfl

theorem launching_ofLaunch_of_ne {pid other : Pid} (background : Bool) (h : other ≠ pid) :
    (ofLaunch pid background).launching other = none := by
  cases background <;> exact if_neg (Ne.symm h)

end Stage

/-- What matters of a state: the table, the facts that are not applied yet, the pids of the
running children, and the stage. -/
structure View where
  jobs : JobTable
  facts : List Fact
  running : List Pid
  stage : Stage

namespace View

variable {v v' : View} {history : List Event} {pid : Pid}

/-- The launch of a child is remembered: a background child by the table, or by the main loop
until it is registered, and a foreground child by the main loop. -/
def Minds (v : View) (pid : Pid) : Bool → Prop
  | true =>
    (pid ∈ v.jobs.pids ∧ v.stage.launching pid = none) ∨
      (pid ∉ v.jobs.pids ∧ v.stage.launching pid = some true)
  | false => pid ∉ v.jobs.pids ∧ v.stage.launching pid = some false

/-- A pid stands in the state as its fate says. -/
def Agrees (v : View) (pid : Pid) : Fate → Prop
  | .free =>
    v.running.count pid = 0 ∧ statusesOf pid v.facts = [] ∧
      pid ∉ v.jobs.pids ∧ v.stage.launching pid = none
  | .running background =>
    v.running.count pid = 1 ∧ statusesOf pid v.facts = [] ∧ v.Minds pid background
  | .ended background status =>
    v.running.count pid = 0 ∧ statusesOf pid v.facts = [status] ∧
      (Termination.ofStatus? status).isSome ∧ v.Minds pid background

/-- Every pid stands in the state as the history says. -/
def Accounted (v : View) (history : List Event) : Prop :=
  ∀ pid, ∃ fate, fate? pid history = some fate ∧ v.Agrees pid fate

/-- The two states do not differ as far as a pid is concerned. -/
structure Alike (v v' : View) (pid : Pid) : Prop where
  running : v'.running.count pid = v.running.count pid
  facts : (statusesOf pid v'.facts).Perm (statusesOf pid v.facts)
  jobs : pid ∈ v'.jobs.pids ↔ pid ∈ v.jobs.pids
  stage : v'.stage.launching pid = v.stage.launching pid

theorem Agrees.alike {fate : Fate} (h : v.Agrees pid fate) (halike : v.Alike v' pid) :
    v'.Agrees pid fate := by
  obtain ⟨hrunning, hfacts, hjobs, hstage⟩ := halike
  have hminds (background : Bool) : v'.Minds pid background ↔ v.Minds pid background := by
    cases background <;> simp only [Minds, hjobs, hstage]
  cases fate with
  | free =>
      rcases h with ⟨hcount, hnone, hfree⟩
      rw [hnone, List.perm_nil] at hfacts
      exact ⟨hrunning.trans hcount, hfacts, mt hjobs.1 hfree.1, hstage.trans hfree.2⟩
  | running background =>
      obtain ⟨hcount, hnone, hminded⟩ := h
      rw [hnone, List.perm_nil] at hfacts
      exact ⟨hrunning.trans hcount, hfacts, (hminds background).2 hminded⟩
  | ended background status =>
      rcases h with ⟨hcount, hone, hend, hminded⟩
      rw [hone, List.perm_singleton] at hfacts
      exact ⟨hrunning.trans hcount, hfacts, hend, (hminds background).2 hminded⟩

/-- A change that only the pid of an event is concerned by. -/
theorem Accounted.snoc {event : Event} (h : v.Accounted history) (pid : Pid)
    (hpid : event.pid = pid) (hothers : ∀ other, other ≠ pid → v.Alike v' other)
    (hself : ∀ fate, v.Agrees pid fate →
      ∃ fate', fate.next? event = some fate' ∧ v'.Agrees pid fate') :
    v'.Accounted (history ++ [event]) := by
  intro other
  rcases h other with ⟨fate, hfate, hagrees⟩
  by_cases hother : other = pid
  · subst hother
    obtain ⟨fate', hnext, hagrees'⟩ := hself fate hagrees
    refine ⟨fate', ?_, hagrees'⟩
    rw [← hpid] at hfate ⊢
    rw [fate?_append_self, hfate]
    exact hnext
  · refine ⟨fate, ?_, hagrees.alike (hothers other hother)⟩
    rw [fate?_append_of_ne history (by rw [hpid]; exact Ne.symm hother), hfate]

section Agrees

variable {fate : Fate} (h : v.Agrees pid fate)
include h

/-- While the main loop is with no launch, a pid that is not tracked is free. -/
theorem Agrees.eq_free (hidle : v.stage = .idle) (hfree : pid ∉ v.jobs.pids) :
    fate = .free := by
  have hminds (background : Bool) : ¬ v.Minds pid background := by
    cases background <;> simp [Minds, hfree, hidle]
  cases fate with
  | free => rfl
  | running background => exact absurd h.2.2 (hminds background)
  | ended background status => exact absurd h.2.2.2 (hminds background)

theorem Agrees.eq_running (hrunning : pid ∈ v.running) :
    ∃ background, fate = .running background := by
  have hcount := List.count_pos_iff.2 hrunning
  cases fate with
  | running background => exact ⟨background, rfl⟩
  | free | ended => exact absurd h.1 (Nat.ne_of_gt hcount)

theorem Agrees.eq_ended (status : StatusWord) (hfact : ⟨pid, status⟩ ∈ v.facts) :
    ∃ background, fate = .ended background status := by
  have hmem := mem_statusesOf.2 hfact
  cases fate with
  | free | running =>
      rw [h.2.1] at hmem
      exact absurd hmem List.not_mem_nil
  | ended background other =>
      rw [h.2.1, List.mem_singleton] at hmem
      exact ⟨background, by rw [hmem]⟩

end Agrees

section Changes

variable (h : v.Accounted history)
include h

theorem Accounted.launched (hidle : v.stage = .idle) (hfree : pid ∉ v.jobs.pids)
    (background : Bool) :
    View.Accounted
      { v with running := v.running ++ [pid], stage := .ofLaunch pid background }
      (history ++ [.launched pid background]) := by
  refine h.snoc pid rfl ?_ ?_
  · intro other hne
    refine ⟨?_, .rfl, .rfl, ?_⟩
    · rw [List.count_append, List.count_singleton, if_neg (by simpa using Ne.symm hne)]
      rfl
    · rw [Stage.launching_ofLaunch_of_ne _ hne, hidle, Stage.launching_idle]
  · intro fate hagrees
    obtain rfl := hagrees.eq_free hidle hfree
    rcases hagrees with ⟨hcount, hnone, -⟩
    refine ⟨.running background, rfl, ?_, hnone, ?_⟩
    · rw [List.count_append, hcount, List.count_singleton_self]
    · cases background with
      | true => exact Or.inr ⟨hfree, Stage.launching_ofLaunch_self pid true⟩
      | false => exact ⟨hfree, Stage.launching_ofLaunch_self pid false⟩

/-- The main loop hands the launch of a child on to the table. -/
theorem Accounted.registered (line : String) (hstage : v.stage = .handed pid) :
    View.Accounted { v with jobs := v.jobs.create pid line, stage := .idle } history := by
  have hself : v.stage.launching pid = some true := by
    rw [hstage]
    exact Stage.launching_ofLaunch_self pid true
  intro other
  obtain ⟨fate, hfate, hagrees⟩ := h other
  refine ⟨fate, hfate, ?_⟩
  by_cases hother : other = pid
  · subst hother
    have hminds (background : Bool) (hminded : v.Minds other background) :
        View.Minds { v with jobs := v.jobs.create other line, stage := .idle } other
          background := by
      cases background with
      | true => exact Or.inl ⟨JobTable.mem_pids_create.2 (Or.inl rfl), rfl⟩
      | false => exact absurd (hself.symm.trans hminded.2) (by simp)
    cases fate with
    | free => exact absurd (hself.symm.trans hagrees.2.2.2) (by simp)
    | running background => exact ⟨hagrees.1, hagrees.2.1, hminds _ hagrees.2.2⟩
    | ended background status =>
        exact ⟨hagrees.1, hagrees.2.1, hagrees.2.2.1, hminds _ hagrees.2.2.2⟩
  · refine hagrees.alike ⟨rfl, .rfl, ?_, ?_⟩
    · rw [JobTable.mem_pids_create, or_iff_right hother]
    · rw [hstage]
      exact (Stage.launching_ofLaunch_of_ne true hother).symm

theorem Accounted.ended {status : StatusWord} {facts : List Fact}
    (hend : (Termination.ofStatus? status).isSome) (hrunning : pid ∈ v.running)
    (hfacts : facts.Perm (⟨pid, status⟩ :: v.facts)) :
    View.Accounted { v with facts, running := v.running.filter (· != pid) }
      (history ++ [.ended pid status]) := by
  refine h.snoc pid rfl ?_ ?_
  · intro other hne
    refine ⟨List.count_filter (by simpa using hne), ?_, .rfl, rfl⟩
    exact (statusesOf_perm other hfacts).trans
      (.of_eq (statusesOf_cons_of_ne _ (Ne.symm hne)))
  · intro fate hagrees
    rcases hagrees.eq_running hrunning with ⟨background, rfl⟩
    obtain ⟨-, hnone, hminded⟩ := hagrees
    refine ⟨.ended background status, if_pos hend, ?_, ?_, hend, hminded⟩
    · simp [List.count_eq_zero]
    · have hperm := statusesOf_perm pid hfacts
      rwa [statusesOf_cons_self ⟨pid, status⟩, hnone, List.perm_singleton] at hperm

theorem Accounted.waited {status : StatusWord} {t : Termination}
    (hend : Termination.ofStatus? status = some t) (hstage : v.stage = .waiting pid)
    (hfact : ⟨pid, status⟩ ∈ v.facts) :
    View.Accounted
      { v with facts := v.facts.filter fun fact => fact.pid != pid, stage := .idle }
      (history ++ [.waited pid t]) := by
  have hself : v.stage.launching pid = some false := by
    rw [hstage]
    exact Stage.launching_ofLaunch_self pid false
  refine h.snoc pid rfl ?_ ?_
  · intro other hne
    refine ⟨rfl, .of_eq (statusesOf_filter_of_ne _ hne), .rfl, ?_⟩
    rw [hstage]
    exact (Stage.launching_ofLaunch_of_ne false hne).symm
  · intro fate hagrees
    rcases hagrees.eq_ended status hfact with ⟨background, rfl⟩
    obtain ⟨hcount, -, -, hminded⟩ := hagrees
    cases background with
    | true => simp [Minds, hself] at hminded
    | false =>
        exact ⟨.free, if_pos hend, hcount, statusesOf_filter_self pid _, hminded.1, rfl⟩

/-- Applying the next fact reports it, since its job is tracked. -/
theorem Accounted.reported {fact : Fact} {facts : List Fact} (hidle : v.stage = .idle)
    (hfacts : v.facts = fact :: facts) :
    View.Accounted { v with jobs := v.jobs.settle fact, facts }
      (history ++ (v.jobs.report? fact).toList.map Event.ofReport) := by
  rcases h fact.pid with ⟨fate, -, hagrees⟩
  obtain ⟨background, rfl⟩ := hagrees.eq_ended fact.status
    (hfacts ▸ List.mem_cons_self)
  obtain ⟨-, -, hend, hminded⟩ := hagrees
  rcases Option.isSome_iff_exists.1 hend with ⟨t, ht⟩
  -- while the main loop is with no launch, only the table can mind the child
  have htracked : fact.pid ∈ v.jobs.pids := by
    cases background <;> simp [Minds, hidle] at hminded
    exact hminded
  have hreport := JobTable.report?_of_mem ht htracked
  have hsettle : v.jobs.settle fact = v.jobs.erase fact.pid := if_pos hend
  rw [hreport, hsettle]
  refine h.snoc fact.pid rfl ?_ ?_
  · intro other hne
    refine ⟨rfl, .of_eq ?_, ?_, rfl⟩
    · rw [hfacts, statusesOf_cons_of_ne _ (Ne.symm hne)]
    · rw [JobTable.mem_pids_erase, and_iff_left hne]
  · intro fate hagrees
    obtain ⟨background, rfl⟩ := hagrees.eq_ended fact.status
      (hfacts ▸ List.mem_cons_self)
    obtain ⟨hcount, hone, -, hminded⟩ := hagrees
    rw [hfacts, statusesOf_cons_self, List.cons.injEq] at hone
    cases background with
    | false => exact absurd htracked hminded.1
    | true =>
        refine ⟨.free, if_pos ht, hcount, hone.2, ?_, by rw [hidle]; rfl⟩
        intro hmem
        exact (JobTable.mem_pids_erase.1 hmem).2 rfl

/-- So does applying all facts that a notification has taken. -/
theorem Accounted.reports {facts rest : List Fact} (hidle : v.stage = .idle)
    (hfacts : v.facts = facts ++ rest) :
    View.Accounted { v with jobs := v.jobs.settleAll facts, facts := rest }
      (history ++ (v.jobs.reports facts).map Event.ofReport) := by
  induction facts generalizing v history with
  | nil =>
      rw [JobTable.reports, List.map_nil, List.append_nil]
      obtain rfl : v.facts = rest := hfacts
      exact h
  | cons fact facts ih =>
      have hnext := ih (h.reported hidle hfacts) hidle rfl
      rwa [List.append_assoc, ← List.map_append] at hnext

end Changes

end View

end JobShell
