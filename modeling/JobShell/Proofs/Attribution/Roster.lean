import JobShell.Proofs.Attribution.Basic

/-!
# Background launches in line

The background launches of one pid whose end was not applied yet stand in line, the oldest
first. A new launch joins the line at its end, and a fact of the pid is about the launch at its
front. A `Roster` has these lines, the job table and the launches that its jobs were created
for, and `Roster.Change` is what can happen to them.

A job is reported by the fact of its own launch if and only if this launch was at the front from
the beginning, that is, if it was not stale (`Roster.Run.reported`). As long as no other job is
reported there is one launch in line for every job that is not stale, and no fact is dropped
(`Roster.Run.clean`).
-/

namespace JobShell

section Verdict

variable {jobs : JobTable} {fact : Fact} (job : Pid → Nat) (teller : Nat)

theorem Notice.verdict_of_mem {t : Termination} (hend : Termination.ofStatus? fact.status = some t)
    (hmem : fact.pid ∈ jobs.pids) :
    verdict jobs job fact teller = reported (job fact.pid) teller (fact.pid, t) := by
  rw [verdict, JobTable.report?_of_mem hend hmem]

theorem Notice.verdict_of_notMem (hfree : fact.pid ∉ jobs.pids) :
    verdict jobs job fact teller = dropped teller := by
  rw [verdict, JobTable.report?_of_notMem hfree]

end Verdict

/-- A launch is among the launches, and no fact of an earlier child of its pid was in the log
when its child started. -/
def Launch.FreshIn (launches : List Launch) (n : Nat) : Prop :=
  ∃ l, launches[n]? = some l ∧ l.stale = false

/-- The launches with a job or in line for a report. -/
structure Roster where
  launches : List Launch
  /-- The background launches of a pid whose end was not applied yet, the oldest first. -/
  line : Pid → List Nat
  jobs : JobTable
  /-- The launch that the job of a pid was created for. -/
  job : Pid → Nat
  /-- The background child that is to be registered, and its launch. -/
  handed : Option (Pid × Nat)

namespace Roster

/-- The roster after a background launch. -/
def join (r : Roster) (pid : Pid) : Roster :=
  { r with
    launches := r.launches ++ [⟨pid, !(r.line pid).isEmpty⟩]
    line := Function.update r.line pid (r.line pid ++ [r.launches.length])
    handed := some (pid, r.launches.length) }

/-- The roster after a registration. -/
def register (r : Roster) (pid : Pid) (launch : Nat) (input : String) : Roster :=
  { r with
    jobs := r.jobs.create pid input
    job := Function.update r.job pid launch
    handed := none }

/-- The roster after a fact of whose pid these launches are left in line. -/
def settle (r : Roster) (fact : Fact) (later : List Nat) : Roster :=
  { r with
    jobs := r.jobs.settle fact
    line := Function.update r.line fact.pid later }

/-- What can happen, and what becomes known by it. -/
inductive Change : Roster → List Notice → Roster → Prop where
  /-- At most children end. -/
  | rest (r : Roster) (notices : List Notice)
      (hends : ∀ notice ∈ notices, ∃ launch status, notice = .ended launch status) :
      Change r notices r
  | foreground (r : Roster) (l : Launch) (hfree : r.handed = none) :
      Change r [.launched r.launches.length] { r with launches := r.launches ++ [l] }
  | background (r : Roster) (pid : Pid) (hfree : r.handed = none) :
      Change r [.launched r.launches.length] (r.join pid)
  | register (r : Roster) (pid : Pid) (launch : Nat) (input : String)
      (hhanded : r.handed = some (pid, launch)) :
      Change r (Notice.replacing r.jobs r.job pid) (r.register pid launch input)
  /-- A fact is applied. -/
  | settle (r : Roster) (fact : Fact) (teller : Nat) (later : List Nat)
      (hfree : r.handed = none) (hline : r.line fact.pid = teller :: later)
      (hend : (Termination.ofStatus? fact.status).isSome) :
      Change r [.verdict r.jobs r.job fact teller] (r.settle fact later)

/-- Any number of changes. -/
inductive Run (r : Roster) : List Notice → Roster → Prop where
  | nil : Run r [] r
  | snoc {history notices : List Notice} {s s' : Roster} (run : Run r history s)
      (change : Change s notices s') : Run r (history ++ notices) s'

/-- A launch stands in the line of its pid, at the front if it was not stale and only then. -/
def Stands (r : Roster) (pid : Pid) (n : Nat) : Prop :=
  ∃ l, r.launches[n]? = some l ∧ l.pid = pid ∧ n ∈ r.line pid ∧
    ((r.line pid).head? = some n ↔ l.stale = false)

/-- The launches of jobs stand in line. -/
structure Ordered (r : Roster) : Prop where
  numbered : ∀ pid, ∀ n ∈ r.line pid, n < r.launches.length
  tracked : ∀ pid ∈ r.jobs.pids, r.Stands pid (r.job pid)
  handed : ∀ pid n, r.handed = some (pid, n) →
    r.Stands pid n ∧ (pid ∈ r.jobs.pids → r.job pid ≠ n)

/-- Nobody stands in line without a job, and where a job is not stale nobody else. -/
structure Clean (r : Roster) : Prop where
  free : ∀ pid ∉ r.jobs.pids, (∀ n, r.handed ≠ some (pid, n)) → r.line pid = []
  tracked : ∀ pid ∈ r.jobs.pids, (∀ n, r.handed ≠ some (pid, n)) →
    Launch.FreshIn r.launches (r.job pid) → r.line pid = [r.job pid]
  handed : ∀ pid n, r.handed = some (pid, n) → Launch.FreshIn r.launches n → r.line pid = [n]

variable {r r' : Roster} {notices history : List Notice} {pid : Pid} {n : Nat}

theorem Stands.lt (h : r.Stands pid n) : n < r.launches.length := by
  obtain ⟨l, hl, -⟩ := h
  exact (List.getElem?_eq_some_iff.1 hl).1

theorem freshIn_append_iff {launches more : List Launch} (h : n < launches.length) :
    Launch.FreshIn (launches ++ more) n ↔ Launch.FreshIn launches n := by
  rw [Launch.FreshIn, List.getElem?_append_left h]
  rfl

/-- Who joins the line behind it does not move a launch. -/
theorem Stands.mono (h : r.Stands pid n) {more : List Launch}
    (hlaunches : r'.launches = r.launches ++ more) {behind : List Nat}
    (hline : r'.line pid = r.line pid ++ behind) : r'.Stands pid n := by
  have hlt := h.lt
  obtain ⟨l, hl, hpid, hmem, hfront⟩ := h
  refine ⟨l, ?_, hpid, ?_, ?_⟩
  · rw [hlaunches, List.getElem?_append_left hlt, hl]
  · rw [hline]
    exact List.mem_append_left _ hmem
  · have hhead : (r.line pid ++ behind).head? = (r.line pid).head? := by
      cases hfirst : r.line pid with
      | nil => exact absurd (hfirst ▸ hmem) List.not_mem_nil
      | cons first rest => rfl
    rw [hline, hhead]
    exact hfront

theorem Stands.same (h : r.Stands pid n) (hlaunches : r'.launches = r.launches)
    (hline : r'.line pid = r.line pid) : r'.Stands pid n :=
  h.mono (hlaunches.trans (List.append_nil _).symm) (hline.trans (List.append_nil _).symm)

theorem line_join (r : Roster) (pid other : Pid) :
    (r.join pid).line other =
      r.line other ++ if other = pid then [r.launches.length] else [] := by
  change Function.update r.line pid _ other = _
  split
  · next hother => rw [hother, Function.update_self]
  · next hother => rw [Function.update_of_ne hother, List.append_nil]

theorem line_settle_of_ne {fact : Fact} (later : List Nat) (h : pid ≠ fact.pid) :
    (r.settle fact later).line pid = r.line pid :=
  Function.update_of_ne h ..

/-- A launch that joins a line is at its front if the line was empty. -/
theorem stands_join (h : r.Ordered) (pid : Pid) :
    (r.join pid).Stands pid r.launches.length := by
  refine ⟨⟨pid, !(r.line pid).isEmpty⟩, List.getElem?_concat_length, rfl, ?_, ?_⟩
  · rw [line_join, if_pos rfl]
    exact List.mem_append_right _ List.mem_cons_self
  · rw [line_join, if_pos rfl]
    cases hfront : r.line pid with
    | nil => simp
    | cons first later =>
        have hlt := h.numbered pid first (hfront ▸ List.mem_cons_self)
        simp [Nat.ne_of_lt hlt]

section Ordered

variable (h : r.Ordered)
include h

theorem Ordered.foreground (l : Launch) (hfree : r.handed = none) :
    Ordered { r with launches := r.launches ++ [l] } where
  numbered pid n hn := by
    rw [List.length_append]
    exact Nat.lt_add_right _ (h.numbered pid n hn)
  tracked pid hpid := (h.tracked pid hpid).mono rfl (List.append_nil _).symm
  handed pid n hn := absurd (hfree.symm.trans hn) nofun

theorem Ordered.join (pid : Pid) : (r.join pid).Ordered where
  numbered other n hn := by
    have hlength : (r.join pid).launches.length = r.launches.length + 1 :=
      List.length_append
    rw [line_join, List.mem_append] at hn
    cases hn with
    | inl hearlier => exact hlength ▸ Nat.lt_add_right _ (h.numbered other n hearlier)
    | inr hlast =>
        rw [List.mem_ite_nil_right, List.mem_singleton] at hlast
        rw [hlength, hlast.2]
        exact Nat.lt_succ_self _
  tracked other hother := (h.tracked other hother).mono rfl (line_join r pid other)
  handed other n hn := by
    obtain ⟨rfl, rfl⟩ : pid = other ∧ r.launches.length = n := by
      simpa [Roster.join] using hn
    refine ⟨stands_join h pid, fun htracked => ?_⟩
    exact Nat.ne_of_lt (h.tracked pid htracked).lt

theorem Ordered.register {launch : Nat} (hhanded : r.handed = some (pid, launch))
    (input : String) : (r.register pid launch input).Ordered where
  numbered := h.numbered
  tracked other hother := by
    cases JobTable.mem_pids_create.1 hother with
    | inl hself =>
        subst hself
        change Stands _ other (Function.update r.job other launch other)
        rw [Function.update_self]
        exact (h.handed other launch hhanded).1.same rfl rfl
    | inr htracked =>
        change Stands _ other (Function.update r.job pid launch other)
        by_cases hself : other = pid
        · rw [hself, Function.update_self]
          exact (h.handed pid launch hhanded).1.same rfl rfl
        · rw [Function.update_of_ne hself]
          exact (h.tracked other htracked).same rfl rfl
  handed other n hn := nomatch hn

theorem Ordered.settle {fact : Fact} {teller : Nat} {later : List Nat} (hfree : r.handed = none)
    (hline : r.line fact.pid = teller :: later)
    (hend : (Termination.ofStatus? fact.status).isSome) : (r.settle fact later).Ordered where
  numbered other n hn := by
    by_cases hself : other = fact.pid
    · subst hself
      refine h.numbered fact.pid n ?_
      rw [hline]
      exact List.mem_cons_of_mem _ (by simpa [Roster.settle] using hn)
    · rw [line_settle_of_ne later hself] at hn
      exact h.numbered other n hn
  tracked other hother := by
    obtain ⟨htracked, hother⟩ := (JobTable.mem_pids_settle hend).1 hother
    exact (h.tracked other htracked).same rfl (line_settle_of_ne later hother)
  handed other n hn := absurd (hfree.symm.trans hn) nofun

theorem Change.ordered (change : Change r notices r') : r'.Ordered := by
  cases change with
  | rest hends => exact h
  | foreground l hfree => exact h.foreground l hfree
  | background pid hfree => exact h.join pid
  | register pid launch input hhanded => exact h.register hhanded input
  | settle fact teller later hfree hline hend => exact h.settle hfree hline hend

/-- A job that is reported is reported by the fact of its own launch if this launch was not
stale, and only then. -/
theorem Change.reported (change : Change r notices r') {teller : Nat}
    {report : Pid × Termination} (hmem : .reported n teller report ∈ notices) :
    ∃ l, r.launches[n]? = some l ∧ l.pid = report.1 ∧ (n = teller ↔ l.stale = false) := by
  cases change with
  | rest _ hends =>
      obtain ⟨launch, status, hended⟩ := hends _ hmem
      cases hended
  | foreground | background => simp at hmem
  | register =>
      rw [Notice.replacing] at hmem
      split at hmem <;> simp at hmem
  | settle fact other later hfree hline hend =>
      obtain ⟨t, ht⟩ := Option.isSome_iff_exists.1 hend
      rw [List.mem_singleton] at hmem
      by_cases htracked : fact.pid ∈ r.jobs.pids
      · rw [Notice.verdict_of_mem r.job other ht htracked] at hmem
        obtain ⟨rfl, rfl, rfl⟩ : n = r.job fact.pid ∧ teller = other ∧ report = (fact.pid, t) := by
          simpa using hmem
        obtain ⟨l, hl, hpid, -, hfront⟩ := h.tracked fact.pid htracked
        rw [hline, List.head?_cons, Option.some.injEq, eq_comm] at hfront
        exact ⟨l, hl, hpid, hfront⟩
      · rw [Notice.verdict_of_notMem r.job other htracked] at hmem
        cases hmem

end Ordered

/-- Launches stay among the launches. -/
theorem Change.getElem?_launches (change : Change r notices r') {l : Launch}
    (hl : r.launches[n]? = some l) : r'.launches[n]? = some l := by
  have hlt := (List.getElem?_eq_some_iff.1 hl).1
  cases change with
  | foreground | background => exact (List.getElem?_append_left hlt).trans hl
  | rest | register | settle => exact hl

section Clean

variable (h : r.Clean) (hordered : r.Ordered)
include h

include hordered in
theorem Clean.foreground (l : Launch) (hfree : r.handed = none) :
    Clean { r with launches := r.launches ++ [l] } where
  free := h.free
  tracked pid htracked hnone hfresh := by
    have hlt := (hordered.tracked pid htracked).lt
    exact h.tracked pid htracked hnone ((freshIn_append_iff hlt).1 hfresh)
  handed pid n hn := absurd (hfree.symm.trans hn) nofun

include hordered in
theorem Clean.join (hfree : r.handed = none) (pid : Pid) : (r.join pid).Clean where
  free other huntracked hnone := by
    have hother : other ≠ pid := fun hsame => hnone r.launches.length (hsame ▸ rfl)
    rw [line_join, if_neg hother, List.append_nil]
    exact h.free other huntracked fun n hn => nomatch hfree.symm.trans hn
  tracked other htracked hnone hfresh := by
    have hother : other ≠ pid := fun hsame => hnone r.launches.length (hsame ▸ rfl)
    have hlt := (hordered.tracked other htracked).lt
    rw [line_join, if_neg hother, List.append_nil]
    exact h.tracked other htracked (fun n hn => nomatch hfree.symm.trans hn)
      ((freshIn_append_iff hlt).1 hfresh)
  handed other n hn hfresh := by
    obtain ⟨rfl, rfl⟩ : pid = other ∧ r.launches.length = n := by
      simpa [Roster.join] using hn
    -- the launch is fresh only if the line was empty
    obtain ⟨l, hl, hstale⟩ := hfresh
    obtain rfl : ⟨pid, !(r.line pid).isEmpty⟩ = l :=
      Option.some.inj (List.getElem?_concat_length.symm.trans hl)
    have hempty : r.line pid = [] := by simpa using hstale
    rw [line_join, if_pos rfl, hempty]
    rfl

theorem Clean.register {launch : Nat} (hhanded : r.handed = some (pid, launch))
    (input : String) : (r.register pid launch input).Clean where
  free other huntracked hnone := by
    have huntracked' := mt JobTable.mem_pids_create.2 huntracked
    rw [not_or] at huntracked'
    refine h.free other huntracked'.2 fun n hn => ?_
    rw [hhanded] at hn
    exact huntracked'.1 (by simpa using (congrArg (Option.map Prod.fst) hn).symm)
  tracked other htracked hnone hfresh := by
    by_cases hself : other = pid
    · subst hself
      change Launch.FreshIn r.launches (Function.update r.job other launch other) at hfresh
      change r.line other = [Function.update r.job other launch other]
      rw [Function.update_self] at hfresh ⊢
      exact h.handed other launch hhanded hfresh
    · change Launch.FreshIn r.launches (Function.update r.job pid launch other) at hfresh
      change r.line other = [Function.update r.job pid launch other]
      rw [Function.update_of_ne hself] at hfresh ⊢
      have htracked' := (JobTable.mem_pids_create.1 htracked).resolve_left hself
      refine h.tracked other htracked' (fun n hn => ?_) hfresh
      rw [hhanded] at hn
      exact hself (by simpa using (congrArg (Option.map Prod.fst) hn).symm)
  handed other n hn := nomatch hn

/-- The fact at the front of a line finds a job, and if this job is not stale nobody stands
behind it. -/
theorem Clean.settle {fact : Fact} {teller : Nat} {later : List Nat} (hfree : r.handed = none)
    (hline : r.line fact.pid = teller :: later)
    (hend : (Termination.ofStatus? fact.status).isSome)
    (hfresh : fact.pid ∈ r.jobs.pids → Launch.FreshIn r.launches (r.job fact.pid)) :
    fact.pid ∈ r.jobs.pids ∧ (r.settle fact later).Clean := by
  have hnone (pid : Pid) (n : Nat) : r.handed ≠ some (pid, n) := by
    rw [hfree]
    exact nofun
  have htracked : fact.pid ∈ r.jobs.pids := by
    by_contra huntracked
    have hempty := h.free fact.pid huntracked (hnone fact.pid)
    rw [hline] at hempty
    cases hempty
  have hempty : later = [] := by
    have hone := h.tracked fact.pid htracked (hnone fact.pid) (hfresh htracked)
    rw [hline] at hone
    exact (List.cons.inj hone).2
  refine ⟨htracked, ?_, ?_, fun other n hn => absurd hn (hnone other n)⟩
  · intro other huntracked hnone'
    by_cases hself : other = fact.pid
    · rw [hself, hempty]
      exact Function.update_self ..
    · rw [line_settle_of_ne later hself]
      refine h.free other (fun hmem => huntracked ?_) (hnone other)
      exact (JobTable.mem_pids_settle hend).2 ⟨hmem, hself⟩
  · intro other hmem hnone'
    obtain ⟨htracked', hself⟩ := (JobTable.mem_pids_settle hend).1 hmem
    rw [line_settle_of_ne later hself]
    exact h.tracked other htracked' (hnone other)

include hordered in
/-- A change that does not report the job of a stale launch keeps the lines clean and drops no
fact. -/
theorem Change.clean (change : Change r notices r')
    (hfresh : ∀ n teller report, .reported n teller report ∈ notices →
      Launch.FreshIn r.launches n) :
    r'.Clean ∧ ∀ teller, .dropped teller ∉ notices := by
  cases change with
  | rest _ hends =>
      refine ⟨h, fun teller hmem => ?_⟩
      obtain ⟨launch, status, hended⟩ := hends _ hmem
      cases hended
  | foreground l hfree => exact ⟨h.foreground hordered l hfree, by simp⟩
  | background pid hfree => exact ⟨h.join hordered hfree pid, by simp⟩
  | register pid launch input hhanded =>
      refine ⟨h.register hhanded input, fun teller hmem => ?_⟩
      rw [Notice.replacing] at hmem
      split at hmem <;> simp at hmem
  | settle fact other later hfree hline hend =>
      obtain ⟨t, ht⟩ := Option.isSome_iff_exists.1 hend
      obtain ⟨htracked, hclean⟩ := h.settle hfree hline hend fun htracked =>
        hfresh _ other (fact.pid, t) <| by
          rw [Notice.verdict_of_mem r.job other ht htracked]
          exact List.mem_cons_self
      refine ⟨hclean, fun teller hmem => ?_⟩
      rw [Notice.verdict_of_mem r.job other ht htracked, List.mem_singleton] at hmem
      cases hmem

end Clean

section Run

variable {s : Roster}

theorem Run.ordered (run : Run r history s) (h : r.Ordered) : s.Ordered := by
  induction run with
  | nil => exact h
  | snoc run change ih => exact change.ordered ih

theorem Run.reported (run : Run r history s) (h : r.Ordered) {teller : Nat}
    {report : Pid × Termination} (hmem : .reported n teller report ∈ history) :
    ∃ l, s.launches[n]? = some l ∧ l.pid = report.1 ∧ (n = teller ↔ l.stale = false) := by
  induction run with
  | nil => cases hmem
  | @snoc _ _ t _ run change ih =>
      obtain ⟨l, hl, hreported⟩ :
          ∃ l, t.launches[n]? = some l ∧ l.pid = report.1 ∧ (n = teller ↔ l.stale = false) := by
        cases List.mem_append.1 hmem with
        | inl hearlier => exact ih hearlier
        | inr hlast => exact change.reported (run.ordered h) hlast
      exact ⟨l, change.getElem?_launches hl, hreported⟩

/-- As long as no job of a stale launch is reported, the lines stay clean and no fact is
dropped. -/
theorem Run.clean (run : Run r history s) (hordered : r.Ordered) (h : r.Clean)
    (hfresh : ∀ n teller report, .reported n teller report ∈ history →
      Launch.FreshIn s.launches n) :
    s.Clean ∧ ∀ teller, .dropped teller ∉ history := by
  induction run with
  | nil => exact ⟨h, fun _ => List.not_mem_nil⟩
  | @snoc earlier notices t t' run change ih =>
      have hordered' := run.ordered hordered
      have hfresh' (n teller : Nat) (report : Pid × Termination)
          (hmem : .reported n teller report ∈ earlier ++ notices)
          {l : Launch} (hl : t.launches[n]? = some l) : Launch.FreshIn t.launches n := by
        obtain ⟨l', hl', hstale⟩ := hfresh n teller report hmem
        obtain rfl : l = l' :=
          Option.some.inj ((change.getElem?_launches hl).symm.trans hl')
        exact ⟨l, hl, hstale⟩
      obtain ⟨hclean, hkept⟩ := ih fun n teller report hmem =>
        have ⟨_, hl, _⟩ := run.reported hordered hmem
        hfresh' n teller report (List.mem_append_left _ hmem) hl
      obtain ⟨hclean', hkept'⟩ := change.clean hclean hordered' fun n teller report hmem =>
        have ⟨_, hl, _⟩ := change.reported hordered' hmem
        hfresh' n teller report (List.mem_append_right _ hmem) hl
      refine ⟨hclean', fun teller hmem => ?_⟩
      exact (List.mem_append.1 hmem).elim (hkept teller) (hkept' teller)

end Run

end Roster

end JobShell
