import JobShell.Proofs.Attribution.Lineup

/-!
# The shell moves launches in line

Seen through `Attribution.roster`, every step of the shell is one of the changes of a roster:
the launch of a background child, its registration and the application of a fact, or a step by
which nothing moves in line (`Attribution.Step.change`). This takes what `Attribution.Kept` says,
which every step preserves.
-/

namespace JobShell

namespace Attribution

open Incident
open Machine (Launched)

/-- The background launches of every pid, in line. -/
def line (a : Attribution) : Pid → List Nat :=
  a.ledger.line a.kernel a.phase.awaited?

/-- The launches with a job or in line. -/
def roster (a : Attribution) : Roster where
  launches := a.ledger.launches
  line := a.line
  jobs := a.jobs
  job := a.ledger.job
  handed := a.phase.handed?.map fun pid => (pid, a.ledger.child pid)

/-- What every state that a run reaches keeps to. -/
structure Kept (history : List Notice) (a : Attribution) : Prop where
  books : a.ledger.Books history a.kernel
  masked : ∀ c background line stage, a.phase = .launching c background line stage →
    ∃ before, Launching.Masked before ⟨stage, a.kernel⟩
  reaped : ∀ pid, a.phase.reaped? = some pid → pid ∉ a.kernel.childPids
  /-- While a child is launched no facts are at hand. -/
  hands : a.phase ≠ .idle → a.ledger.taken = []

/-- After a wait no background child is handed on, and at most the same child is waited for. -/
theorem handed?_afterWait (c : Command) (background : Bool) (line : String) (before : SignalSet)
    (pid : Pid) (status : StatusWord) :
    let phase := Phase.launching c background line (Launching.afterWait before pid status)
    phase.handed? = none ∧ (phase.awaited? = none ∨ phase.awaited? = some pid) := by
  rw [Launching.afterWait]
  split
  · exact ⟨rfl, Or.inl rfl⟩
  · exact ⟨rfl, Or.inr rfl⟩

variable {a b : Attribution} {history notices : List Notice} {k : Kernel} {facts : List Fact}

/-- While a foreground child is waited for the child signal is blocked. -/
theorem Kept.blocked (h : Kept history a) (hawaited : a.phase.awaited?.isSome) :
    a.kernel.signals.childBlocked = true := by
  cases hphase : a.phase with
  | idle =>
      rw [hphase] at hawaited
      cases hawaited
  | launching c background line stage =>
      obtain ⟨before, hmasked⟩ := h.masked c background line stage hphase
      rw [hphase] at hawaited
      cases stage with
      | waiting kept pid => exact hmasked.childBlocked rfl
      | entering | guarded | waited | leaving | returned => cases hawaited

section Silent

variable {phase : Phase}

theorem roster_eq_of_line (hline : a.ledger.line k phase.awaited? = a.line)
    (hhanded : phase.handed? = a.phase.handed?) :
    roster { a with kernel := k, phase } = a.roster := by
  rw [roster, roster, line, hline, hhanded]

theorem change_of_line (hline : a.ledger.line k phase.awaited? = a.line)
    (hhanded : phase.handed? = a.phase.handed?) :
    Roster.Change a.roster [] (roster { a with kernel := k, phase }) := by
  rw [roster_eq_of_line hline hhanded]
  exact .rest _ [] nofun

/-- Nothing moves in line when the handler collects children. -/
theorem change_collects (collects : a.kernel.Collects facts k)
    (hawaited : phase.awaited? = a.phase.awaited?) (hhanded : phase.handed? = a.phase.handed?)
    (hblocked : a.phase.awaited?.isSome → k.signals.childBlocked = true) :
    Roster.Change a.roster (a.ledger.notices (facts.map (collected .handler)))
      (roster { a with
        kernel := k
        phase
        ledger := a.ledger.noteAll (facts.map (collected .handler)) }) := by
  have hsame : roster { a with
      kernel := k
      phase
      ledger := a.ledger.noteAll (facts.map (collected .handler)) } = a.roster := by
    rw [roster, roster, line, line, hawaited, hhanded,
      Ledger.line_collects collects hblocked, Ledger.noteAll_recorded]
  rw [hsame, Ledger.notices_recorded]
  exact .rest _ [] nofun

/-- Nor when something happens by itself. -/
theorem change_move (h : Kept history a) (move : a.kernel.Move facts k) :
    Roster.Change a.roster
      (a.ledger.notices (facts.map .ended ++ recordings a.kernel k))
      (roster { a with
        kernel := k
        ledger := a.ledger.noteAll (facts.map .ended ++ recordings a.kernel k) }) := by
  cases facts with
  | nil =>
      have hquiet := move.quiet h.books.ready.formed
      obtain ⟨facts, collects, hrecordings⟩ := hquiet.exists_collects move.runningPids_eq
      rw [List.map_nil, List.nil_append, hrecordings]
      refine change_collects collects rfl rfl fun hawaited => ?_
      rw [move.signals_eq]
      exact h.blocked hawaited
  | cons fact facts =>
      cases move with
      | ends pid status t hrunning hend =>
          have hnone : recordings a.kernel (a.kernel.terminate pid status) = [] :=
            recordings_eq (List.append_nil _).symm
          have hsame : roster { a with kernel := a.kernel.terminate pid status } = a.roster :=
            roster_eq_of_line (Ledger.line_terminate pid status) rfl
          rw [hnone]
          change Roster.Change _ [.ended _ status]
            (roster { a with kernel := a.kernel.terminate pid status })
          rw [hsame]
          exact .rest _ _ fun notice hmem => ⟨_, _, List.mem_singleton.1 hmem⟩

end Silent

/-- A background child that starts joins the line of its pid. -/
theorem roster_start (h : Kept history a) {c : Command} {input : String} {before : SignalSet}
    {pid : Pid} (hphase : a.phase = .launching c true input (.guarded before))
    (hfree : a.kernel.holds pid = false) (signals : SignalSetup) :
    roster { a with
      kernel := a.kernel.start pid signals
      phase := .launching c true input (.leaving before (.ok (.background pid)))
      ledger := a.ledger.note (.forked pid) } = a.roster.join pid := by
  have hempty : a.ledger.taken = [] := h.hands (by rw [hphase]; nofun)
  have hline : a.line = a.ledger.line a.kernel none := by rw [line, hphase]; rfl
  have hchild : (a.ledger.note (.forked pid)).child pid = a.ledger.launches.length :=
    Function.update_self ..
  have hstale : (a.ledger.logged.any fun entry => entry.1.pid == pid) = !(a.line pid).isEmpty := by
    rw [hline, Ledger.line_of_hands_empty hempty (Kernel.holds_eq_false_iff.1 hfree),
      Ledger.any_eq_not_isEmpty_tellers]
  rw [Roster.join, roster, roster, line, Roster.mk.injEq]
  refine ⟨?_, ?_, rfl, rfl, congrArg (fun n => some (pid, n)) hchild⟩
  · rw [← hstale]
    rfl
  · rw [hline]
    exact Ledger.line_start_background hfree signals

section Launch

variable {c : Command} {background : Bool} {line : String} {stage stage' : LaunchStage}
  {incidents : List Incident}

/-- A launch puts its background child in line, and nothing else moves. -/
theorem Kept.change_launch (h : Kept history a)
    (hphase : a.phase = .launching c background line stage)
    (step : Launching.Step .absent c background ⟨stage, a.kernel⟩ incidents ⟨stage', k⟩) :
    Roster.Change a.roster (a.ledger.notices incidents)
      (roster { a with
        kernel := k
        phase := .launching c background line stage'
        ledger := a.ledger.noteAll incidents }) := by
  obtain ⟨jobs, kernel, phase, ledger⟩ := a
  obtain rfl : phase = .launching c background line stage := hphase
  cases step with
  | refuse | refuseFork | interrupted | succeed => exact .rest _ [] nofun
  | guard kernel image himage =>
      have hquiet : kernel.Quiet (kernel.setChildBlocked true) := .setMask h.books.ready.formed _
      obtain ⟨facts, collects, hrecordings⟩ :=
        hquiet.exists_collects (kernel.runningPids_setMask _)
      rw [hrecordings]
      exact change_collects collects rfl rfl nofun
  | leave kernel before answer =>
      obtain ⟨facts, collects, hrecordings⟩ :=
        (Kernel.Quiet.setMask h.books.ready.formed before).exists_collects
          (kernel.runningPids_setMask before)
      rw [hrecordings]
      exact change_collects collects rfl rfl nofun
  | fork kernel before pid signals hfree =>
      cases background with
      | true =>
          have hjoin := roster_start h rfl hfree signals
          exact hjoin ▸ .background _ pid rfl
      | false =>
          have hline := Ledger.line_start_foreground (l := ledger) hfree signals
          have hlaunched : roster ⟨jobs, kernel.start pid signals,
              .launching c false line (.waiting before pid), ledger.note (.forked pid)⟩ =
              { roster ⟨jobs, kernel, .launching c false line (.guarded before), ledger⟩ with
                launches := (ledger.note (.forked pid)).launches } := by
            rw [roster, roster, Attribution.line, Attribution.line, Roster.mk.injEq]
            exact ⟨rfl, hline, rfl, rfl, rfl⟩
          exact hlaunched ▸ .foreground _ _ rfl
  | failWait kernel before pid e hother hrefused =>
      obtain ⟨rfl, hnone⟩ := hrefused
      have hline := Ledger.line_of_notMem (l := ledger) (Kernel.holds_eq_false_iff.1 hnone)
      exact change_of_line hline.symm rfl
  | wait kernel before pid status hreap =>
      have hphase := handed?_afterWait c background line before pid status
      exact change_of_line (Ledger.line_reap h.books.ready.pids hreap hphase.2) hphase.1
  | ensure kernel before pid t hfailed =>
      have hgone := h.reaped pid rfl
      rw [Kernel.reap_of_notMem hgone]
      exact .rest _ [] nofun
  | move stage move => exact change_move h move

/-- Whoever was waited for is gone. -/
theorem Kept.gone_launch (h : Kept history a)
    (hphase : a.phase = .launching c background line stage)
    (step : Launching.Step .absent c background ⟨stage, a.kernel⟩ incidents ⟨stage', k⟩) {pid : Pid}
    (hreaped : (Phase.launching c background line stage').reaped? = some pid) :
    pid ∉ k.childPids := by
  obtain ⟨jobs, kernel, phase, ledger⟩ := a
  obtain rfl : phase = .launching c background line stage := hphase
  cases step with
  | wait kernel before other status hreap =>
      rw [Launching.afterWait] at hreaped
      split at hreaped
      · obtain rfl : other = pid := Option.some.inj hreaped
        exact Kernel.notMem_childPids_reap h.books.ready.pids hreap
      · cases hreaped
  | @move _ _ _ facts move =>
      have hgone := h.reaped pid hreaped
      cases facts with
      | nil =>
          have hquiet := move.quiet h.books.ready.formed
          exact fun hmem => hgone (hquiet.pids.subset hmem)
      | cons fact facts =>
          cases move with
          | ends other status t hrunning hend => rwa [Kernel.childPids_terminate]
  | fork => cases background <;> cases hreaped
  | refuse | guard | refuseFork | interrupted | failWait | succeed | ensure | leave =>
      cases hreaped

theorem Kept.launch (h : Kept history a)
    (hphase : a.phase = .launching c background line stage)
    (step : Launching.Step .absent c background ⟨stage, a.kernel⟩ incidents ⟨stage', k⟩) :
    Kept (history ++ a.ledger.notices incidents)
      { a with
        kernel := k
        phase := .launching c background line stage'
        ledger := a.ledger.noteAll incidents } where
  books := h.books.deed (step.deed h.books.ready.formed)
  masked _ _ _ _ hsame := by
    cases hsame
    obtain ⟨before, hmasked⟩ := h.masked c background line stage hphase
    exact ⟨before, step.masked hmasked⟩
  reaped _ hreaped := h.gone_launch hphase step hreaped
  hands _ := by
    rw [Ledger.taken_noteAll]
    exact h.hands (by rw [hphase]; nofun)

end Launch

/-- A shell that is about to do something else has nothing to remember of a launch. -/
theorem kept_of_idle {jobs : JobTable} {ledger : Ledger} (hbooks : ledger.Books history k) :
    Kept history ⟨jobs, k, .idle, ledger⟩ where
  books := hbooks
  masked _ _ _ _ hphase := nomatch hphase
  reaped _ hreaped := nomatch hreaped
  hands hphase := absurd rfl hphase

theorem Kept.idle_of_taken (h : Kept history a) {entry : Fact × Nat} {rest : List (Fact × Nat)}
    (htaken : a.ledger.taken = entry :: rest) : a.phase = .idle := by
  by_contra hphase
  have hempty := h.hands hphase
  rw [htaken] at hempty
  cases hempty

/-- Every step keeps the books right. -/
theorem Step.kept (step : Step a notices b) (h : Kept history a) :
    Kept (history ++ notices) b := by
  obtain ⟨jobs, kernel, phase, ledger⟩ := a
  cases step with
  | take hidle hempty =>
      obtain rfl : phase = .idle := hidle
      exact kept_of_idle (h.books.take.append [])
  | settle fact teller rest htaken =>
      obtain rfl : phase = .idle := h.idle_of_taken htaken
      exact kept_of_idle (h.books.settle htaken _)
  | begin c background line hidle hempty =>
      refine ⟨h.books.append [], fun _ _ _ _ hphase => ?_, nofun, fun _ => hempty⟩
      cases hphase
      exact ⟨_, rfl⟩
  | launch hphase step => exact h.launch hphase step
  | @register _ _ _ pid hphase =>
      have hbooks := h.books.append (Notice.replacing jobs ledger.job pid)
      exact kept_of_idle ⟨hbooks.ready, hbooks.logged, hbooks.told, hbooks.left⟩
  | conclude hphase hnone => exact kept_of_idle (h.books.append [])
  | move hidle move =>
      obtain rfl : phase = .idle := hidle
      exact kept_of_idle (h.books.deed (.of_move h.books.ready.formed move))

/-- The books stay right in the course of a run. -/
theorem Run.kept_of {later : List Notice} (run : Run a later b) (h : Kept history a) :
    Kept (history ++ later) b := by
  induction run with
  | nil => rwa [List.append_nil]
  | snoc run step ih =>
      rw [← List.append_assoc]
      exact step.kept ih

/-- Every step is a change of the roster. -/
theorem Step.change (step : Step a notices b) (h : Kept history a) :
    Roster.Change a.roster notices b.roster := by
  obtain ⟨jobs, kernel, phase, ledger⟩ := a
  cases step with
  | take hidle hempty =>
      obtain rfl : phase = .idle := hidle
      have hsame : roster ⟨jobs, kernel.takeLog, .idle,
          { ledger with taken := ledger.logged, logged := [] }⟩ =
          roster ⟨jobs, kernel, .idle, ledger⟩ := by
        rw [roster, roster, line, line, Ledger.line_take hempty]
      exact hsame ▸ .rest _ [] nofun
  | settle fact teller rest htaken =>
      obtain rfl : phase = .idle := h.idle_of_taken htaken
      have hend := (h.books.told (fact, teller) (by rw [htaken]; exact List.mem_cons_self)).2
      obtain ⟨hfront, hothers⟩ :
          ledger.line kernel none fact.pid =
              teller :: { ledger with taken := rest }.line kernel none fact.pid ∧
            { ledger with taken := rest }.line kernel none =
              Function.update (ledger.line kernel none) fact.pid
                ({ ledger with taken := rest }.line kernel none fact.pid) :=
        Ledger.line_of_taken htaken
      have hsettled : roster ⟨jobs.settle fact, kernel, .idle, { ledger with taken := rest }⟩ =
          (roster ⟨jobs, kernel, .idle, ledger⟩).settle fact
            ({ ledger with taken := rest }.line kernel none fact.pid) := by
        rw [Roster.settle, roster, roster, line, Roster.mk.injEq]
        exact ⟨rfl, hothers, rfl, rfl, rfl⟩
      exact hsettled ▸ .settle _ fact teller _ rfl hfront hend
  | begin c background line hidle hempty =>
      obtain rfl : phase = .idle := hidle
      exact change_of_line rfl rfl
  | launch hphase step => exact h.change_launch hphase step
  | @register c background line pid hphase =>
      obtain rfl : phase = .launching c background line (.returned (.ok (.background pid))) :=
        hphase
      exact .register _ pid _ line rfl
  | @conclude c background line answer hphase hnone =>
      obtain rfl : phase = .launching c background line (.returned answer) := hphase
      have hanswer : Phase.background? answer = none := by
        cases answer with
        | error _ => rfl
        | ok launched =>
            cases launched with
            | foreground _ => rfl
            | background pid => exact absurd rfl (hnone pid)
      exact change_of_line rfl hanswer.symm
  | move hidle move => exact change_move h move

end Attribution

end JobShell
