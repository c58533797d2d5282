import JobShell.Proofs.Tracking.View

/-!
# Every launch is accounted for

Whatever the steps of a run are and however they follow one another, every launch has at most
the events that belong to it, in their order, and what is told of a child is how it has ended
(`Tracking.launches_accounted`). At the head of the main loop the job table knows every
background launch that was not reported yet, and its child runs, or has ended and was not
collected, or stands in one fact of the log.

The invariant is `Tracking.Balanced`: the state agrees with the history, the log is sound, and
while a foreground child is waited for the handler cannot take its end away.
-/

namespace JobShell

/-- The facts in both buffers. -/
def TerminationLog.recorded (log : TerminationLog) : List Fact :=
  log.even.facts ++ log.odd.facts

theorem TerminationLog.WellFormed.recorded_eq {log : TerminationLog} (h : log.WellFormed) :
    log.recorded = log.waiting := by
  have hidle := h.idle_facts
  rw [recorded, waiting, active]
  rw [idle] at hidle
  cases hactive : log.oddActive with
  | true =>
      rw [hactive] at hidle
      change log.even.facts = [] at hidle
      rw [hidle]
      rfl
  | false =>
      rw [hactive] at hidle
      change log.odd.facts = [] at hidle
      rw [hidle, List.append_nil]
      rfl

/-- The child of a launch that is not told of yet is in exactly one place: it runs, or it has
ended and is not collected, or one fact of the log tells of its end. -/
inductive Kernel.Keeps (k : Kernel) (pid : Pid) : List Event → Prop where
  | running (hrunning : k.runningPids.count pid = 1) (hleft : statusesOf pid k.reapable = [])
      (hlog : statusesOf pid k.log.recorded = []) : Keeps k pid []
  | ended (status : StatusWord) (hrunning : k.runningPids.count pid = 0)
      (hleft : statusesOf pid k.reapable = [status])
      (hlog : statusesOf pid k.log.recorded = []) : Keeps k pid [.ended pid status]
  | recorded (status : StatusWord) (hrunning : k.runningPids.count pid = 0)
      (hleft : statusesOf pid k.reapable = [])
      (hlog : statusesOf pid k.log.recorded = [status]) : Keeps k pid [.ended pid status]

namespace Tracking

/-- What matters of a state. -/
def view (s : Tracking) : View where
  jobs := s.jobs
  facts := s.kernel.outstanding
  running := s.kernel.runningPids
  stage := s.stage

/-- What every state that a run reaches keeps to. -/
structure Balanced (history : List Event) (s : Tracking) : Prop where
  sound : s.kernel.Sound
  accounted : s.view.Accounted history
  withheld : ∀ pid, s.stage = .waiting pid →
    s.kernel.signals.childBlocked = true ∧ pid ∉ s.kernel.log.waiting.map Fact.pid

variable {s t : Tracking} {history events : List Event}

theorem balanced_start (signals : SignalSetup) : (start signals).Balanced [] where
  sound := sound_start signals
  accounted _ := ⟨.free, rfl, rfl, rfl, List.not_mem_nil, rfl⟩
  withheld _ hstage := nomatch hstage

/-- What the shell does not see upsets nothing, unless it opened the way for the handler while
a foreground child is waited for. -/
theorem Balanced.unseen (h : s.Balanced history) {k : Kernel} (hunseen : s.kernel.Unseen k)
    (hsound : k.Sound)
    (hheld : ∀ pid, s.stage = .waiting pid → k.signals.childBlocked = true) :
    Balanced history { s with kernel := k } where
  sound := hsound
  accounted := by
    rw [view, hunseen.outstanding, hunseen.runningPids]
    exact h.accounted
  withheld pid hstage := by
    refine ⟨hheld pid hstage, ?_⟩
    rw [hunseen.held (hheld pid hstage)]
    exact (h.withheld pid hstage).2

theorem Balanced.notified (h : s.Balanced history) (hidle : s.stage = .idle) (sink : Sink) :
    (s.notified sink).Balanced (history ++ s.reports.map Event.ofReport) where
  sound := sound_notified h.sound sink
  accounted := by
    obtain ⟨hfacts, hrunning, -, -⟩ :=
      Kernel.drainBatches_conserves JobTable.maxDrainPasses h.sound
    have hview : (s.notified sink).view =
        { s.view with
          jobs := s.jobs.settleAll
            (Kernel.drainBatches JobTable.maxDrainPasses s.kernel).1.flatten
          facts := (Kernel.drainBatches JobTable.maxDrainPasses s.kernel).2.outstanding } := by
      rw [view, jobs_notified, kernel_notified, hrunning]
      rfl
    rw [hview]
    exact h.accounted.reports hidle hfacts.symm
  withheld _ hstage := absurd (hidle.symm.trans hstage) nofun

theorem Balanced.launched (h : s.Balanced history) {pid : Pid} (signals : SignalSetup)
    (background : Bool) (hidle : s.stage = .idle) (hfree : pid ∉ s.jobs.pids)
    (hblocked : background = false → s.kernel.signals.childBlocked = true) :
    Balanced (history ++ [.launched pid background])
      { s with
        kernel := s.kernel.start pid signals, stage := .ofLaunch pid background } where
  sound := h.sound.start pid signals
  accounted := by
    rw [view, Kernel.outstanding_start, Kernel.runningPids_start]
    exact h.accounted.launched hidle hfree background
  withheld other hstage := by
    cases background with
    | true => cases hstage
    | false =>
        obtain rfl : pid = other := Stage.waiting.inj hstage
        refine ⟨hblocked rfl, ?_⟩
        -- the pid is free, so nothing of an earlier child of it is left in the log either
        rcases h.accounted pid with ⟨fate, -, hagrees⟩
        obtain rfl := hagrees.eq_free hidle hfree
        have hnone : statusesOf pid s.kernel.outstanding = [] := hagrees.2.1
        intro hmem
        obtain ⟨fact, hfact, rfl⟩ := List.mem_map.1 hmem
        have hstatus := mem_statusesOf.2 (List.mem_append_left s.kernel.reapable hfact)
        exact absurd hstatus (hnone ▸ List.not_mem_nil)

theorem Balanced.registered (h : s.Balanced history) {pid : Pid} (line : String)
    (hstage : s.stage = .handed pid) :
    Balanced history { s with jobs := s.jobs.create pid line, stage := .idle } where
  sound := h.sound
  accounted := h.accounted.registered line hstage
  withheld _ hidle := nomatch hidle

theorem Balanced.waited (h : s.Balanced history) {pid : Pid} {status : StatusWord}
    {t : Termination} (hstage : s.stage = .waiting pid)
    (hreap : (s.kernel.reap pid).1 = some status)
    (hend : Termination.ofStatus? status = some t) :
    Balanced (history ++ [.waited pid t])
      { s with kernel := (s.kernel.reap pid).2, stage := .idle } where
  sound := h.sound.reap pid
  accounted := by
    rw [view, s.kernel.outstanding_reap pid (h.withheld pid hstage).2, Kernel.runningPids_reap]
    exact h.accounted.waited hend hstage (s.kernel.mem_outstanding_of_reap pid hreap)
  withheld _ hidle := nomatch hidle

theorem Balanced.ended (h : s.Balanced history) {pid : Pid} {status : StatusWord}
    {t : Termination} (hrunning : s.kernel.isRunning pid = true)
    (hend : Termination.ofStatus? status = some t) :
    Balanced (history ++ [.ended pid status])
      { s with kernel := s.kernel.terminate pid status } where
  sound := h.sound.terminate pid status
  accounted := by
    have hmem : pid ∈ s.view.running := Kernel.mem_runningPids.2 hrunning
    -- no second child of this pid runs, so exactly one fact joins the outstanding ones
    have hcount : s.kernel.runningPids.count pid = 1 := by
      rcases h.accounted pid with ⟨fate, -, hagrees⟩
      obtain ⟨background, rfl⟩ := hagrees.eq_running hmem
      exact hagrees.1
    have hperm := s.kernel.outstanding_terminate pid status hcount
    rw [view, Kernel.runningPids_terminate]
    exact h.accounted.ended (by rw [hend]; rfl) hmem hperm
  withheld := h.withheld

theorem Balanced.moved (h : s.Balanced history) {facts : List Fact} {k : Kernel}
    (move : s.kernel.Move facts k) :
    Balanced (history ++ facts.map Event.ofFact) { s with kernel := k } := by
  cases facts with
  | nil =>
      rw [List.map_nil, List.append_nil]
      refine h.unseen (move.unseen h.sound) (move.sound h.sound) fun pid hstage => ?_
      rw [move.signals_eq]
      exact (h.withheld pid hstage).1
  | cons fact facts =>
      cases move with
      | ends pid status t hrunning hend => exact h.ended hrunning hend

/-- Every step keeps the accounts. -/
theorem Step.balanced (step : Step .untracked s events t) (h : s.Balanced history) :
    t.Balanced (history ++ events) := by
  cases step with
  | notify sink hidle => exact h.notified hidle sink
  | launchBackground pid signals hidle hfree =>
      exact h.launched signals true hidle hfree nofun
  | launchForeground pid signals hidle hblocked hfree =>
      exact h.launched signals false hidle hfree fun _ => hblocked
  | wait pid status t hstage hreap hend => exact h.waited hstage hreap hend
  | move move => exact h.moved move
  | register pid line hstage =>
      rw [List.append_nil]
      exact h.registered line hstage
  | mask mask hheld =>
      rw [List.append_nil]
      refine h.unseen (.setMask h.sound mask) (h.sound.setMask mask) fun pid hstage => ?_
      rw [Kernel.signals_setMask]
      exact hheld pid hstage

theorem Run.balanced {signals : SignalSetup} (run : Run .untracked (start signals) history s) :
    s.Balanced history := by
  induction run with
  | nil => exact balanced_start signals
  | snoc run step ih => exact step.balanced ih

/-- At the head of the main loop a background launch that is not reported yet is tracked, and
its child is kept. -/
theorem Balanced.tracked (h : s.Balanced history) (hidle : s.stage = .idle)
    {earlier later : List Event} {pid : Pid}
    (hsplit : history = earlier ++ .launched pid true :: later)
    (hopen : ∀ t, .reported pid t ∉ Event.own pid later) :
    pid ∈ s.jobs.pids ∧ s.kernel.Keeps pid (Event.own pid later) := by
  rcases h.accounted pid with ⟨fate, hfate, hagrees⟩
  have htracked (hminded : s.view.Minds pid true) : pid ∈ s.jobs.pids := by
    cases hminded with
    | inl hjob => exact hjob.1
    | inr hhanded =>
        change _ ∧ s.stage.launching pid = some true at hhanded
        rw [hidle] at hhanded
        exact nomatch hhanded.2
  have hfacts : statusesOf pid s.view.facts =
      statusesOf pid s.kernel.log.recorded ++ statusesOf pid s.kernel.reapable := by
    rw [h.sound.log.recorded_eq]
    exact statusesOf_append ..
  rw [hsplit] at hfate
  obtain ⟨hown, rfl⟩ | ⟨status, hown, rfl⟩ | ⟨status, t, hown, -⟩ := own_of_fate? hfate
  · obtain ⟨hcount, hnone, hminded⟩ := hagrees
    rw [hfacts, List.append_eq_nil_iff] at hnone
    rw [hown]
    exact ⟨htracked hminded, .running hcount hnone.2 hnone.1⟩
  · obtain ⟨hcount, hone, -, hminded⟩ := hagrees
    rw [hfacts, List.append_eq_singleton_iff] at hone
    rw [hown]
    refine ⟨htracked hminded, ?_⟩
    cases hone with
    | inl hleft => exact .ended status hcount hleft.2 hleft.1
    | inr hlogged => exact .recorded status hcount hlogged.2 hlogged.1
  · refine absurd ?_ (hopen t)
    rw [hown]
    exact List.mem_cons_of_mem _ List.mem_cons_self

/-- What a notification shows are its reports, a line for each. -/
theorem text_notified (s : Tracking) (sink : Sink)
    (hsink : ∀ n passing, sink.failsAt n passing = false) :
    (s.jobs.notify sink s.kernel).2.1.text =
      sink.text ++ JobTable.reportText s.reports := by
  rw [JobTable.notify, JobTable.drain_eq]
  exact JobTable.text_reconcileBatches _ _ _ hsink

/-- **Every launch is accounted for**, as long as no child is given the pid of a tracked job. In
every run every event but a launch follows a launch
of its pid, and the events that belong to a launch are none, or the end of the child, or its
end and, once and last, what is told of it, which is how the child has ended: the report of a
background child, the outcome of the wait for a foreground child. At the head of the main loop
a background launch that is not reported is in the job table, and its child is in exactly one
place, with the status word of its end if it has ended. What a notification writes is one line
for each of its reports. -/
theorem launches_accounted {signals : SignalSetup}
    (run : Run .untracked (start signals) history s) :
    (∀ earlier event later, history = earlier ++ event :: later → event.isLaunch = false →
        ∃ background, .launched event.pid background ∈ earlier) ∧
      (∀ earlier pid background later,
        history = earlier ++ .launched pid background :: later →
          Event.own pid later = [] ∨ (∃ status, Event.own pid later = [.ended pid status]) ∨
            ∃ status t,
              Event.own pid later = [.ended pid status, .told pid background t] ∧
                Termination.ofStatus? status = some t) ∧
      (s.stage = .idle →
        ∀ earlier pid later, history = earlier ++ .launched pid true :: later →
          (∀ t, .reported pid t ∉ Event.own pid later) →
            pid ∈ s.jobs.pids ∧ s.kernel.Keeps pid (Event.own pid later)) ∧
      ∀ sink : Sink, (∀ n passing, sink.failsAt n passing = false) →
        (s.jobs.notify sink s.kernel).2.1.text =
          sink.text ++ JobTable.reportText s.reports := by
  have hbalanced := run.balanced
  refine ⟨?_, ?_, ?_, s.text_notified⟩
  · rintro earlier event later rfl hevent
    obtain ⟨fate, hfate, -⟩ := hbalanced.accounted event.pid
    exact launched_before (Option.isSome_of_mem hfate) hevent
  · rintro earlier pid background later rfl
    rcases hbalanced.accounted pid with ⟨fate, hfate, -⟩
    obtain ⟨hown, -⟩ | ⟨status, hown, -⟩ | htold := own_of_fate? hfate
    · exact Or.inl hown
    · exact Or.inr (Or.inl ⟨status, hown⟩)
    · exact Or.inr (Or.inr htold)
  · intro hidle earlier pid later hsplit hopen
    exact hbalanced.tracked hidle hsplit hopen

/-- A background child that has ended before it was registered, while a foreground child was
launched and waited for. -/
theorem launches_accounted_early_end :
    ∃ (history : List Event) (s : Tracking), Run .untracked (start {}) history s ∧
      history =
        [.launched 7 true, .ended 7 (Termination.exitStatus 3), .launched 8 false,
          .ended 8 (Termination.signalStatus 9), .waited 8 (.signaled 9)] ∧
      s.stage = .idle ∧ 7 ∈ s.jobs.pids ∧
      s.kernel.Keeps 7 [.ended 7 (Termination.exitStatus 3)] := by
  have launched : Run .untracked (start {}) _ _ :=
    .of_step (.launchBackground (start {}) 7 {} rfl List.not_mem_nil)
  have ended := launched.snoc
    (.move _ (.ends _ 7 (Termination.exitStatus 3) _ rfl rfl))
  have collected := ended.snoc (.move _ (.deliver _ rfl rfl))
  have registered := collected.snoc (.register _ 7 "sleep 1 &" rfl)
  have masked := registered.snoc (.mask _ (SignalSet.insert {} Signal.child) nofun)
  have launched' := masked.snoc (.launchForeground _ 8 {} rfl rfl (by decide))
  have ended' := launched'.snoc
    (.move _ (.ends _ 8 (Termination.signalStatus 9) _ rfl rfl))
  have waited := ended'.snoc (.wait _ 8 (Termination.signalStatus 9) (.signaled 9) rfl rfl rfl)
  have hopen (t : Termination) :
      Event.reported 7 t ∉ [Event.ended 7 (Termination.exitStatus 3)] := by simp
  obtain ⟨-, -, hkept, -⟩ := launches_accounted waited
  exact ⟨_, _, waited, rfl, rfl, hkept rfl [] 7 _ rfl hopen⟩

end Tracking

end JobShell
