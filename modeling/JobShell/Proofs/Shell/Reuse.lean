import JobShell.Proofs.Attribution.Shell
import JobShell.Proofs.Shell.Going

/-!
# Pids that are given again

Wherever the loop brings the shell, a run of tracking leads there in which the system gives any pid
that no uncollected child holds, be it tracked or not (`Shell.Goes.continues`). A launch goes by the
steps of `Launching.Step`, and each of them is a step of tracking or changes nothing that tracking
knows of (`Launching.Step.tracked`).
-/

namespace JobShell

/-- How far the main loop is when a launch is this far. -/
def LaunchStage.tracked : LaunchStage → Stage
  | waiting _ pid => .waiting pid
  | leaving _ answer | returned answer => Machine.stageAfter answer
  | entering | guarded _ | waited _ _ _ => .idle

namespace Launching

open Incident
open Machine (stageAfter)

variable {c : Command} {background : Bool} {s t : Launching} {incidents history : List Incident}
  {k : Kernel} {pid : Pid}

/-- A launch that is occupied with a foreground child attends to it. -/
theorem Run.exists_attended (run : Run .absent c background ⟨.entering, k⟩ history t)
    (hready : k.Ready) (hchild : t.stage.child? = some pid) : ∃ later, Attended pid later t := by
  have hoccupied : ¬ (background = true ∨ ∀ other, .forked other ∉ history) := fun hnone =>
    Option.some_ne_none pid (hchild.symm.trans (run.unattended rfl hnone).1)
  rw [not_or, Bool.not_eq_true] at hoccupied
  obtain ⟨rfl, hforked⟩ := hoccupied
  push Not at hforked
  obtain ⟨other, hother⟩ := hforked
  obtain ⟨earlier, later, rfl⟩ := List.append_of_mem hother
  have hattended := run.attended_of_fork hready
  refine ⟨later, ?_⟩
  cases hattended with
  | waiting before hblocked present =>
      cases hchild
      exact .waiting before hblocked present
  | waited before settled =>
      cases hchild
      exact .waited before settled
  | leaving | returned => cases hchild

/-- A step of a launch, as tracking sees it. -/
theorem Step.tracked (step : Step .absent c background s incidents t) (jobs : JobTable)
    (hblocked : s.stage.isGuarded = true → s.kernel.signals.childBlocked = true)
    (hattended : ∀ pid, s.stage.child? = some pid → ∃ later, Attended pid later s) :
    ∃ events, Tracking.Run .unheld ⟨jobs, s.kernel, s.stage.tracked⟩ events
      ⟨jobs, t.kernel, t.stage.tracked⟩ := by
  cases step with
  | refuse | refuseFork | interrupted | succeed => exact ⟨[], .nil⟩
  | guard k => exact ⟨_, .of_step (.mask _ (k.signals.mask.insert Signal.child) nofun)⟩
  | fork k before pid signals hfree =>
      cases background with
      | true => exact ⟨_, .of_step (.launchBackground _ pid signals rfl hfree)⟩
      | false => exact ⟨_, .of_step (.launchForeground _ pid signals rfl (hblocked rfl) hfree)⟩
  | failWait k before pid e hother hrefused =>
      -- the child is still there
      obtain ⟨later, hwaiting⟩ := hattended pid rfl
      cases hwaiting with
      | waiting _ _ present => exact absurd present.held (Kernel.holds_eq_false_iff.1 hrefused.2)
  | wait k before pid status hreap =>
      obtain ⟨later, hwaiting⟩ := hattended pid rfl
      cases hwaiting with
      | waiting _ _ present =>
          obtain ⟨-, hdecodes⟩ := present.ended status (Kernel.mem_reapable_of_reap hreap)
          obtain ⟨t, hend⟩ := Option.isSome_iff_exists.1 hdecodes
          rw [afterWait, hend]
          exact ⟨_, .of_step (.wait _ pid status t rfl hreap hend)⟩
  | ensure k before pid t hfailed =>
      -- the child is not there any more
      obtain ⟨later, hwaited⟩ := hattended pid rfl
      cases hwaited with
      | waited _ settled =>
          rw [Kernel.reap_of_notMem settled.gone]
          exact ⟨[], .nil⟩
  | leave k before answer =>
      refine ⟨_, .of_step (.mask _ before fun pid hwaiting => ?_)⟩
      change stageAfter answer = .waiting pid at hwaiting
      cases answer with
      | error => cases hwaiting
      | ok launched => cases launched <;> cases hwaiting
  | move stage move => exact ⟨_, .of_step (.move _ move)⟩

/-- So a launch is a run of tracking. -/
theorem Run.tracked (run : Run .absent c background ⟨.entering, k⟩ history t) (hready : k.Ready)
    (jobs : JobTable) :
    ∃ events, Tracking.Run .unheld ⟨jobs, k, .idle⟩ events ⟨jobs, t.kernel, t.stage.tracked⟩ := by
  induction run with
  | nil => exact ⟨[], .nil⟩
  | snoc run step ih =>
      obtain ⟨events, hrun⟩ := ih
      obtain ⟨later, hstep⟩ := step.tracked jobs (run.masked rfl).childBlocked
        fun pid hchild => run.exists_attended hready hchild
      exact ⟨_, hrun.append hstep⟩

end Launching

namespace Shell

/-- The shell has come from `s` by a run of tracking, and is one that some run leads to. -/
structure Continues (s : Shell) (signals : SignalSetup) (t : Shell) : Prop where
  follows : ∃ history l, t.Follows signals history l
  run : ∃ later, Tracking.Run .unheld s.tracking later t.tracking

variable {host : Host} {allows : Shell → String → Prop} {s t u : Shell} {signals : SignalSetup}
  {history : List Notice} {l : Ledger}

theorem Continues.refl (h : s.Follows signals history l) : s.Continues signals s where
  follows := ⟨history, l, h⟩
  run := ⟨[], .nil⟩

/-- Neither the table nor the kernel has changed, nor what is still to come. -/
theorem Continues.same (h : s.Continues signals t) (hjobs : u.jobs = t.jobs)
    (hkernel : u.machine.kernel = t.machine.kernel)
    (hsleepers : u.machine.sleepers = t.machine.sleepers)
    (houtside : u.machine.outside = t.machine.outside) : s.Continues signals u where
  follows := by
    obtain ⟨history, l, hfollows⟩ := h.follows
    refine ⟨history, l, ?_⟩
    rw [Shell.Follows, hjobs]
    exact Machine.Follows.same hfollows hkernel hsleepers houtside
  run := by
    have htracking : u.tracking = t.tracking := by rw [tracking, tracking, hjobs, hkernel]
    rw [htracking]
    exact h.run

theorem Continues.pause (h : s.Continues signals t) : s.Continues signals t.pause := by
  obtain ⟨⟨history, l, hfollows⟩, later, hrun⟩ := h
  obtain ⟨facts, drift⟩ := (Machine.pause_drifts hfollows.orderly).kernel
  obtain ⟨notices, l', hpaused, -⟩ := follows_pause hfollows
  exact ⟨⟨_, l', hpaused⟩, _, hrun.append (.of_drift (s := t.tracking) drift)⟩

theorem Continues.notify (h : s.Continues signals t) : s.Continues signals t.notify := by
  obtain ⟨⟨history, l, hfollows⟩, later, hrun⟩ := h
  obtain ⟨notices, l', hnotified, -⟩ := follows_notify hfollows
  exact ⟨⟨_, l', hnotified⟩, _, hrun.snoc (.notify t.tracking .healthy rfl)⟩

theorem Continues.launch (hhost : host.Ends) (h : s.Continues signals t) (line : String)
    (c : Command) : s.Continues signals (t.launch host line c) := by
  obtain ⟨⟨history, l, hfollows⟩, later, hrun⟩ := h
  obtain ⟨notices, l', hlaunched, -⟩ := follows_launch hhost hfollows line c
  refine ⟨⟨_, l', hlaunched⟩, ?_⟩
  have hready := hfollows.run.kept.books.ready
  obtain ⟨incidents, hspawn, -⟩ := Machine.run_spawn hhost hfollows.orderly hready c
    (c.background && !t.machine.kernel.mode.isForegroundOnly)
  have horderly := hfollows.orderly.spawn hhost c
    (c.background && !t.machine.kernel.mode.isForegroundOnly)
  obtain ⟨events, htracked⟩ := hspawn.tracked hready t.jobs
  have hspawned := hrun.append htracked
  rw [Shell.launch]
  generalize t.machine.spawn host c
    (c.background && !t.machine.kernel.mode.isForegroundOnly) = answered at horderly hspawned ⊢
  obtain ⟨answer, m⟩ := answered
  cases answer with
  | error f => exact ⟨_, hspawned⟩
  | ok launched =>
      cases launched with
      | foreground ended =>
          cases ended with
          | none => exact ⟨_, hspawned⟩
          | some t => cases t <;> exact ⟨_, hspawned⟩
      | background pid =>
          -- the handler may run once more before the pid is registered
          obtain ⟨facts, drift⟩ := (Machine.pause_drifts horderly).kernel
          have hpaused := hspawned.append
            (.of_drift (s := ⟨t.jobs, m.kernel, .handed pid⟩) drift)
          exact ⟨_, hpaused.snoc (.register _ pid line rfl)⟩

theorem Continues.executeLine (hhost : host.Ends) (h : s.Continues signals t) {line : String}
    (hline : t.executeLine host line = .running u) : s.Continues signals u := by
  have hdispatch := dispatch_executeLine host t line
  rw [hline] at hdispatch
  generalize t.fate host line = fate at hdispatch
  generalize hanswer : Progress.running u = answer at hdispatch
  cases hdispatch with
  | skipped =>
      cases hanswer
      exact h
  | refused e =>
      cases hanswer
      exact h.same rfl rfl rfl rfl
  | builtin b arguments =>
      rw [runBuiltin] at hanswer
      dsimp only at hanswer
      split at hanswer
      · cases hanswer
        exact h.same rfl rfl rfl rfl
      · cases hanswer
        exact h.same rfl rfl rfl rfl
      · cases hanswer
      · cases hanswer
  | launched c hmode =>
      cases hanswer
      exact h.pause.launch hhost line c

/-- Wherever the loop gets to, a run of tracking leads there, whatever pids the system has given to
new children. -/
theorem Goes.continues (hhost : host.Ends) (h : s.Follows signals history l)
    (goes : Goes host allows s t) : s.Continues signals t := by
  induction goes with
  | refl => exact .refl h
  | pause _ ih => exact ih.pause
  | notify _ ih => exact ih.notify
  | announce _ ih =>
      rw [announce_eq]
      exact ih.same rfl rfl rfl rfl
  | @read t _ source prompt ih =>
      obtain ⟨input, output, hread⟩ := readLine_machine source prompt t.machine
      rw [hread]
      exact ih.same rfl rfl rfl rfl
  | complain _ text ih => exact ih.same rfl rfl rfl rfl
  | line _ hallows hline ih => exact ih.executeLine hhost hline

end Shell

end JobShell
