import JobShell.Proofs.Attribution.Following

/-!
# When facts are attributed to their own launches

A history is right about its launches (`Notice.Attributed`) if no job is reported or makes room
before the child of its own launch has ended, and every fact that is applied reports the job of
the launch it tells of. A run has such a history if and only if none of the jobs that it reports
is the one of a stale launch (`Attribution.attributed_iff`). Runs with other histories exist:
nothing prevents the launch of a child under the pid of a job whose fact is in the log, and then
this fact reports the new job (`Attribution.reports_running_child`).
-/

namespace JobShell

namespace Notice

/-- What stands in a history before a notice of this kind. -/
def Justified (earlier : List Notice) : Notice → Prop
  | reported _ teller report =>
    ∃ status, ended teller status ∈ earlier ∧ Termination.ofStatus? status = some report.2
  | dropped n | replaced n => ∃ status, ended n status ∈ earlier
  | launched _ | ended _ _ => True

/-- Every fact is attributed to the launch of the child that it tells of. -/
structure Attributed (history : List Notice) : Prop where
  /-- No job is reported done before the child of its launch has ended. -/
  reported : ∀ earlier n teller report later,
    history = earlier ++ .reported n teller report :: later →
      ∃ status, ended n status ∈ earlier
  /-- Nor does it make room for another one. -/
  replaced : ∀ earlier n later, history = earlier ++ .replaced n :: later →
    ∃ status, ended n status ∈ earlier
  /-- Every report comes from the launch's own child. -/
  own : ∀ n teller report, .reported n teller report ∈ history → n = teller
  /-- Every fact that is applied gives rise to a report. -/
  kept : ∀ teller, .dropped teller ∉ history

theorem Justified.append {earlier : List Notice} {notice : Notice}
    (h : notice.Justified earlier) (more : List Notice) : notice.Justified (earlier ++ more) := by
  cases notice with
  | launched | ended => trivial
  | replaced n | dropped n =>
      obtain ⟨status, hended⟩ := h
      exact ⟨status, List.mem_append_left _ hended⟩
  | reported n teller report =>
      obtain ⟨status, hended, hend⟩ := h
      exact ⟨status, List.mem_append_left _ hended, hend⟩

end Notice

namespace Attribution

variable {a b : Attribution} {history notices : List Notice} {signals : SignalSetup}

theorem kept_start (signals : SignalSetup) : Kept [] (start signals) :=
  kept_of_idle
    { ready :=
        { handler := rfl, formed := TerminationLog.WellFormed.empty, pids := List.nodup_nil }
      logged := rfl
      told := nofun
      left := nofun }

theorem Run.kept (run : Run (start signals) history a) : Kept history a :=
  run.kept_of (kept_start signals)

/-- Seen through its roster, a run is a run of the roster. -/
theorem Run.roster (run : Run (start signals) history a) :
    Roster.Run (start signals).roster history a.roster := by
  induction run with
  | nil => exact .nil
  | snoc run step ih => exact ih.snoc (step.change run.kept)

theorem line_start (signals : SignalSetup) (pid : Pid) : (start signals).line pid = [] :=
  Ledger.line_of_hands_empty rfl List.not_mem_nil

theorem ordered_start (signals : SignalSetup) : (start signals).roster.Ordered where
  numbered pid n hn := by
    change n ∈ (start signals).line pid at hn
    rw [line_start] at hn
    cases hn
  tracked _ hpid := nomatch hpid
  handed _ _ hn := nomatch hn

theorem clean_start (signals : SignalSetup) : (start signals).roster.Clean where
  free pid _ _ := line_start signals pid
  tracked _ hpid := nomatch hpid
  handed _ _ hn := nomatch hn

/-- Nothing has to come before what incidents make known. -/
theorem justified_of_mem_notices {l : Ledger} {incidents : List Incident} {notice : Notice}
    (hmem : notice ∈ l.notices incidents) (earlier : List Notice) : notice.Justified earlier := by
  induction incidents generalizing l with
  | nil => cases hmem
  | cons incident incidents ih =>
      cases List.mem_append.1 hmem with
      | inl hfirst =>
          rw [Option.mem_toList] at hfirst
          cases incident with
          | forked | ended =>
              cases hfirst
              trivial
          | collected | waitFailed => cases hfirst
      | inr hrest => exact ih hrest

/-- A fact that is applied tells of a child that has ended. -/
theorem justified_verdict {jobs : JobTable} {job : Pid → Nat} {fact : Fact} {teller : Nat}
    (htold : Ledger.Told history (fact, teller)) :
    (Notice.verdict jobs job fact teller).Justified history := by
  obtain ⟨hended, hend⟩ := htold
  obtain ⟨t, ht⟩ := Option.isSome_iff_exists.1 hend
  by_cases htracked : fact.pid ∈ jobs.pids
  · rw [Notice.verdict_of_mem job teller ht htracked]
    exact ⟨fact.status, hended, ht⟩
  · rw [Notice.verdict_of_notMem job teller htracked]
    exact ⟨fact.status, hended⟩

/-- Where a pid is registered that has a job, the child of this job was collected, since its pid
could be given away. -/
theorem Kept.justified_replaced (h : Kept history a) (hordered : a.roster.Ordered) {pid : Pid}
    (hhanded : a.phase.handed? = some pid) (htracked : pid ∈ a.jobs.pids) :
    (Notice.replaced (a.ledger.job pid)).Justified history := by
  have hother : a.ledger.job pid ≠ a.ledger.child pid := by
    refine (hordered.handed pid _ ?_).2 htracked
    rw [roster, hhanded]
    rfl
  obtain ⟨-, -, -, hmem, -⟩ := hordered.tracked pid htracked
  change a.ledger.job pid ∈ a.line pid at hmem
  rw [line, Ledger.line, List.mem_append] at hmem
  obtain ⟨fact, hfact, -⟩ := Ledger.mem_tellers.1 <|
    hmem.resolve_right fun hheld => hother (List.eq_of_mem_replicate hheld)
  exact ⟨fact.status, (h.books.told _ hfact).1⟩

/-- What a step makes known is justified by what was known before. -/
theorem Step.justified (step : Step a notices b) (h : Kept history a)
    (hordered : a.roster.Ordered) {notice : Notice} (hmem : notice ∈ notices) :
    notice.Justified history := by
  cases step with
  | take | begin | conclude => cases hmem
  | launch | move => exact justified_of_mem_notices hmem history
  | settle fact teller rest htaken =>
      rw [List.mem_singleton.1 hmem]
      refine justified_verdict (h.books.told _ ?_)
      rw [htaken]
      exact List.mem_cons_self
  | register hphase =>
      rw [Notice.replacing] at hmem
      split at hmem
      · next htracked =>
          rw [List.mem_singleton.1 hmem]
          exact h.justified_replaced hordered (by rw [hphase]; rfl) htracked
      · cases hmem

theorem Run.ordered (run : Run (start signals) history a) : a.roster.Ordered :=
  run.roster.ordered (ordered_start signals)

theorem Run.justified (run : Run (start signals) history a) {earlier later : List Notice}
    {notice : Notice} (hsplit : history = earlier ++ notice :: later) :
    notice.Justified earlier := by
  induction run generalizing later with
  | nil => simp at hsplit
  | @snoc before notices _ _ run step ih =>
      obtain ⟨front, rfl, hnotices⟩ | ⟨rest, hbefore, hrest⟩ := List.append_eq_append_iff.1 hsplit
      · have hmem : notice ∈ notices := by simp [hnotices]
        exact (step.justified run.kept run.ordered hmem).append front
      · cases rest with
        | nil =>
            rw [List.nil_append] at hrest
            rw [List.append_nil] at hbefore
            have hmem : notice ∈ notices := hrest ▸ List.mem_cons_self
            exact hbefore ▸ step.justified run.kept run.ordered hmem
        | cons first rest =>
            obtain ⟨rfl, -⟩ := List.cons.inj hrest
            exact ih hbefore

/-- **When facts are attributed to their own launches.** In every run a report follows the end
that it tells of, it is about the pid of the launch whose job it removes, and the two belong to
one launch if no fact of the pid was in the log when the child started and only then. All facts
are attributed to their own launches if and only if this is so for every job that is
reported. -/
theorem attributed_iff (run : Run (start signals) history a) :
    (∀ earlier n teller report later,
        history = earlier ++ .reported n teller report :: later →
          (∃ status, .ended teller status ∈ earlier ∧
            Termination.ofStatus? status = some report.2) ∧
          ∃ l, a.ledger.launches[n]? = some l ∧ l.pid = report.1 ∧
            (n = teller ↔ l.stale = false)) ∧
      (Notice.Attributed history ↔
        ∀ n teller report, .reported n teller report ∈ history →
          Launch.FreshIn a.ledger.launches n) := by
  have hreported {n teller : Nat} {report : Pid × Termination}
      (hmem : .reported n teller report ∈ history) :=
    run.roster.reported (ordered_start signals) hmem
  refine ⟨fun earlier n teller report later hsplit => ?_, fun h n teller report hmem => ?_,
    fun hfresh => ?_⟩
  · exact ⟨run.justified hsplit, hreported (by rw [hsplit]; simp)⟩
  · obtain ⟨l, hl, -, hstale⟩ := hreported hmem
    exact ⟨l, hl, hstale.1 (h.own n teller report hmem)⟩
  · have hown (n teller : Nat) (report : Pid × Termination)
        (hmem : .reported n teller report ∈ history) : n = teller := by
      obtain ⟨l, hl, -, hstale⟩ := hreported hmem
      obtain ⟨l', hl', hfresh⟩ := hfresh n teller report hmem
      obtain rfl : l = l' := Option.some.inj (hl.symm.trans hl')
      exact hstale.2 hfresh
    refine ⟨fun earlier n teller report later hsplit => ?_, fun earlier n later hsplit => ?_,
      hown, ?_⟩
    · obtain ⟨status, hended, -⟩ := run.justified hsplit
      rw [hown n teller report (by rw [hsplit]; simp)]
      exact ⟨status, hended⟩
    · exact run.justified hsplit
    · exact (run.roster.clean (ordered_start signals) (clean_start signals) hfresh).2

/-- The launch of a background child while no child signal waits. -/
theorem spawns_background {c : Command} {image : ChildImage}
    (himage : ChildImage.ofCommand c true = .ok image) {k : Kernel} {pid : Pid}
    (hfree : k.holds pid = false) (hpending : k.childPending = false) :
    Launching.Run .absent c true ⟨.entering, k⟩ [.forked pid]
      ⟨.returned (.ok (.background pid)), k.start pid {}⟩ := by
  have hsame (k k' : Kernel) (hlog : k'.log = k.log) : Incident.recordings k k' = [] := by
    simp [Incident.recordings, hlog]
  have hlog : (k.setChildBlocked true).log = k.log := by rw [Kernel.setChildBlocked_true]
  have hholds : (k.setChildBlocked true).holds pid = false := by
    rw [Kernel.setChildBlocked_true]
    exact hfree
  have hleave : ((k.setChildBlocked true).start pid {}).setMask k.signals.mask =
      k.start pid {} := by
    rw [Kernel.setChildBlocked_true, Kernel.setMask_eq,
      if_neg (by simp [Kernel.start, hpending])]
    rfl
  have forked : Launching.Run .absent c true ⟨.entering, k⟩ [.forked pid]
      ⟨.leaving k.signals.mask (.ok (.background pid)),
        (k.setChildBlocked true).start pid {}⟩ := by
    have hguard : Launching.Run .absent c true ⟨.entering, k⟩ _ _ :=
      .of_step (.guard k image himage)
    rw [hsame k (k.setChildBlocked true) hlog] at hguard
    exact hguard.snoc (.fork _ _ pid {} hholds)
  have left := forked.snoc (.leave _ _ _)
  rw [hleave, hsame ((k.setChildBlocked true).start pid {}) (k.start pid {}) hlog.symm] at left
  exact left

/-- At the head of the main loop such a launch ends with the registration of its child. -/
theorem Run.background {a₀ : Attribution} (run : Run a₀ history a) (hidle : a.phase = .idle)
    (hempty : a.ledger.taken = []) {c : Command} {image : ChildImage}
    (himage : ChildImage.ofCommand c true = .ok image) (pid : Pid)
    (hfree : a.kernel.holds pid = false) (hpending : a.kernel.childPending = false)
    (line : String) :
    Run a₀
      (history ++ .launched a.ledger.launches.length ::
        Notice.replacing a.jobs a.ledger.job pid)
      { jobs := a.jobs.create pid line
        kernel := a.kernel.start pid {}
        ledger := { a.ledger.note (.forked pid) with
          job := Function.update a.ledger.job pid
            ((a.ledger.note (.forked pid)).child pid) } } := by
  have begun := run.snoc (.begin a c true line hidle hempty)
  have launched := begun.append
    (.of_launching rfl (spawns_background himage hfree hpending))
  have registered := launched.snoc (.register _ rfl)
  rw [List.append_nil, List.append_assoc] at registered
  exact registered

/-- A background child gets the pid of one that was collected and is not reported yet. The fact
of the first one reports the job of the second one while its child runs, and the fact of the
second one is dropped in the end. -/
theorem reports_running_child :
    ∃ (history later : List Notice) (a b : Attribution),
      Run (start {}) history a ∧
      history =
        [.launched 0, .ended 0 (Termination.exitStatus 0), .launched 1, .replaced 0,
          .reported 1 0 (7, .exited 0)] ∧
      a.kernel.isRunning 7 = true ∧ 7 ∉ a.jobs.pids ∧ ¬ Notice.Attributed history ∧
      Run a later b ∧ later = [.ended 1 (Termination.exitStatus 3), .dropped 1] := by
  obtain ⟨c, image, himage⟩ : ∃ c image, ChildImage.ofCommand c true = .ok image :=
    ⟨{ program := "sleep" }, _, rfl⟩
  have first : Run (start {}) _ _ := Run.nil.background rfl rfl himage 7 rfl rfl "sleep 1 &"
  have ended := first.snoc (.move _ rfl (.ends _ 7 (Termination.exitStatus 0) _ rfl rfl))
  have recorded := ended.snoc (.move _ rfl (.deliver _ rfl rfl))
  have second := recorded.background rfl rfl himage 7 rfl rfl "sleep 100 &"
  have taken := second.snoc (.take _ rfl rfl)
  have reported := taken.snoc (.settle _ _ _ _ rfl)
  refine ⟨_, _, _, _, reported, by decide +kernel, rfl, by decide +kernel, fun h => ?_,
    (((Run.of_step (.move _ rfl (.ends _ 7 (Termination.exitStatus 3) _ rfl rfl))).snoc
      (.move _ rfl (.deliver _ rfl rfl))).snoc (.take _ rfl rfl)).snoc (.settle _ _ _ _ rfl),
    by decide +kernel⟩
  -- the second launch was stale
  obtain ⟨l, hl, hfresh⟩ :=
    (attributed_iff reported).2.1 h 1 0 (7, .exited 0) (by decide +kernel)
  obtain rfl : ⟨7, true⟩ = l := Option.some.inj hl
  cases hfresh

end Attribution

end JobShell
