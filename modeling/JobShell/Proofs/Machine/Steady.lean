import JobShell.Proofs.Kernel.Steady
import JobShell.Proofs.Machine.Launch

/-!
# What changes the mode

Of all that happens while the shell is interrupted, lets time pass, launches or waits, only a
terminal stop changes the mode. `Machine.Steady` says so of a stretch of the machine's life: what
comes from outside is met event by event, and the mode has been toggled once for each terminal
stop among the events, provided that no program sends the shell such a signal by itself
(`Course.Spares`). On the way the shell sends nothing, and the log stays well formed.
-/

namespace JobShell

/-- However a run goes on, it sends no terminal stop to the process of this pid. -/
inductive Course.Spares (shell : Pid) : Course → Prop where
  | ended {r : Effect} {status : StatusWord} (hsent : (shell, Signal.terminalStop) ∉ r.sent) :
      Spares shell (.ended r status)
  | asleep {r : Effect} {duration : Nat} {resume : Surroundings → Course}
      (hsent : (shell, Signal.terminalStop) ∉ r.sent)
      (hresume : ∀ around, Spares shell (resume around)) :
      Spares shell (.asleep r duration resume)

/-- No program sends a terminal stop to the process that started it. -/
def Host.SparesParents (host : Host) : Prop :=
  ∀ e around, (host.run e around).Spares e.parent

def Sleeper.Spares (shell : Pid) (s : Sleeper) : Prop :=
  ∀ around, (s.resume around).Spares shell

namespace Machine

/-- One machine has become the other while the events of some pauses were met and the shell has
sent nothing. If the shell is spared by the programs, the terminal stops that have reached it are
those among the events. -/
structure Steady (spared : Prop) (m m' : Machine) : Prop where
  shellPid : m'.shellPid = m.shellPid
  sleepers : spared → ∀ s ∈ m'.sleepers, s ∈ m.sleepers ∨ s.Spares m.shellPid
  met : ∃ met stops, m.outside.arrivals = met ++ m'.outside.arrivals ∧
    m.kernel.Steady stops m'.kernel ∧ (spared → stops = met.flatten.count .stop)

/-- Nothing that sleeps on the machine will send the shell a terminal stop. -/
def Spared (m : Machine) : Prop :=
  ∀ s ∈ m.sleepers, s.Spares m.shellPid

variable {spared : Prop} {m m' m'' : Machine}

theorem Steady.of_kernel (hkernel : m.kernel.Steady 0 m'.kernel)
    (hpid : m'.shellPid = m.shellPid) (hsleepers : ∀ s ∈ m'.sleepers, s ∈ m.sleepers)
    (harrivals : m'.outside.arrivals = m.outside.arrivals) : m.Steady spared m' where
  shellPid := hpid
  sleepers _ s hs := Or.inl (hsleepers s hs)
  met := ⟨[], 0, harrivals.symm, hkernel, fun _ => rfl⟩

theorem Steady.refl (spared : Prop) (m : Machine) : m.Steady spared m :=
  .of_kernel (.refl _) rfl (fun _ hs => hs) rfl

theorem Steady.trans (first : m.Steady spared m') (second : m'.Steady spared m'') :
    m.Steady spared m'' where
  shellPid := second.shellPid.trans first.shellPid
  sleepers hspared s hs := by
    cases second.sleepers hspared s hs with
    | inl hold => exact first.sleepers hspared s hold
    | inr hnew => exact Or.inr (first.shellPid ▸ hnew)
  met := by
    obtain ⟨met, stops, harrivals, hkernel, hstops⟩ := first.met
    obtain ⟨later, stops', harrivals', hkernel', hstops'⟩ := second.met
    refine ⟨met ++ later, stops + stops', ?_, hkernel.trans hkernel', fun hspared => ?_⟩
    · rw [harrivals, harrivals', List.append_assoc]
    · rw [hstops hspared, hstops' hspared, List.flatten_append, List.count_append]

theorem Steady.sent (h : m.Steady spared m') : m'.kernel.sent = m.kernel.sent := by
  obtain ⟨met, stops, -, hkernel, -⟩ := h.met
  exact hkernel.sent

theorem Steady.log (h : m.Steady spared m') (hlog : m.kernel.log.WellFormed) :
    m'.kernel.log.WellFormed := by
  obtain ⟨met, stops, -, hkernel, -⟩ := h.met
  exact hkernel.log hlog

theorem Steady.suffix (h : m.Steady spared m') :
    m'.outside.arrivals <:+ m.outside.arrivals := by
  obtain ⟨met, stops, harrivals, -⟩ := h.met
  exact ⟨met, harrivals.symm⟩

theorem Spared.of_steady (h : spared → m.Spared) (hsteady : m.Steady spared m') :
    spared → m'.Spared := by
  intro hspared s hs
  rw [hsteady.shellPid]
  exact (hsteady.sleepers hspared s hs).elim (h hspared s) id

section Pause

/-- The events of one pause. -/
theorem foldl_receive_steady (m : Machine) (events : List Arrival) :
    m.kernel.Steady (events.count .stop) (events.foldl receive m).kernel := by
  induction events generalizing m with
  | nil => exact .refl _
  | cons a events ih =>
      have hfirst : m.kernel.Steady ([a].count .stop) (m.receive a).kernel := by
        cases a with
        | childEnds pid status => exact m.kernel.endChild_steady pid status
        | stop => exact m.kernel.stop_steady
        | childSignal => exact m.kernel.raiseChild_steady
      rw [← List.singleton_append, List.count_append, List.foldl_append]
      exact hfirst.trans (ih _)

theorem foldl_receive_eq (m : Machine) (events : List Arrival) :
    events.foldl receive m = { m with kernel := (events.foldl receive m).kernel } := by
  induction events generalizing m with
  | nil => rfl
  | cons a events ih =>
      rw [List.foldl_cons, ih]
      cases a <;> rfl

/-- At a pause the events of this pause are met. -/
theorem pause_steady (spared : Prop) (m : Machine) : m.Steady spared m.pause := by
  rw [pause]
  split
  · exact .refl spared m
  · next events later harrivals =>
      have hmet := foldl_receive_steady
        { m with outside := { m.outside with arrivals := later } } events
      rw [foldl_receive_eq]
      refine ⟨rfl, fun _ s hs => Or.inl hs, [events], _, harrivals, hmet, fun _ => ?_⟩
      rw [List.flatten_singleton]

end Pause

section Course

theorem deliver_steady {signal : Pid × Nat}
    (h : spared → signal ≠ (m.shellPid, Signal.terminalStop)) :
    m.Steady spared (m.deliver signal) := by
  by_cases hshell : signal.1 = m.shellPid
  · have hdeliver : m.deliver signal = m.mapKernel fun k => k.signalShell signal.2 := by
      rw [deliver]
      simp only [if_pos hshell]
    rw [hdeliver]
    by_cases hstop : signal.2 = Signal.terminalStop
    · -- the signal stops the shell, so the shell is not spared
      have hkernel : m.kernel.signalShell signal.2 = m.kernel.stop := if_pos hstop
      rw [mapKernel, hkernel]
      refine ⟨rfl, fun _ s hs => Or.inl hs, [], 1, rfl, m.kernel.stop_steady, fun hspared => ?_⟩
      exact absurd (Prod.ext hshell hstop) (h hspared)
    · refine .of_kernel ?_ rfl (fun _ hs => hs) rfl
      change m.kernel.Steady 0 (m.kernel.signalShell signal.2)
      rw [Kernel.signalShell, if_neg hstop]
      split
      · exact m.kernel.raiseChild_steady
      · exact .refl _
  · have hdeliver : m.deliver signal = m.mapKernel fun k => k.signalChild signal.1 signal.2 := by
      rw [deliver]
      simp only [if_neg hshell]
    rw [hdeliver]
    exact .of_kernel (m.kernel.signalChild_steady signal.1 signal.2) rfl (fun _ hs => hs) rfl

theorem foldl_deliver_steady {signals : List (Pid × Nat)}
    (h : spared → (m.shellPid, Signal.terminalStop) ∉ signals) :
    m.Steady spared (signals.foldl deliver m) := by
  induction signals generalizing m with
  | nil => exact .refl spared m
  | cons signal signals ih =>
      have hfirst : m.Steady spared (m.deliver signal) :=
        deliver_steady fun hspared heq => h hspared (heq ▸ List.mem_cons_self)
      refine hfirst.trans (ih fun hspared hmem => h hspared ?_)
      rw [← hfirst.shellPid]
      exact List.mem_cons_of_mem _ hmem

theorem addErrors_steady (spared : Prop) (m : Machine) (pid : Pid) (bytes : Bytes) :
    m.Steady spared (m.addErrors pid bytes) := by
  rw [addErrors]
  split <;> exact .of_kernel (.refl _) rfl (fun _ hs => hs) rfl

theorem absorb_steady (m : Machine) (pid : Pid) {r : Effect}
    (h : spared → (m.shellPid, Signal.terminalStop) ∉ r.sent) :
    m.Steady spared (m.absorb pid r) := by
  have harranged : m.Steady spared { m with
      files := r.files
      input := { m.input with ahead := r.ahead }
      output := m.output ++ r.output
      kernel := m.kernel.updateChild pid fun c => { c with arranged := r.arranged } } :=
    .of_kernel (m.kernel.updateChild_steady pid _) rfl (fun _ hs => hs) rfl
  have herrors := harranged.trans (addErrors_steady spared _ pid r.errors)
  refine herrors.trans (foldl_deliver_steady ?_)
  rw [herrors.shellPid]
  exact h

theorem sent_of_spares {shell : Pid} {r : Effect} {status : StatusWord}
    (h : Course.Spares shell (.ended r status)) : (shell, Signal.terminalStop) ∉ r.sent := by
  cases h with
  | ended hsent => exact hsent

theorem proceed_steady (m : Machine) (pid : Pid) {course : Course}
    (h : spared → course.Spares m.shellPid) : m.Steady spared (m.proceed pid course) := by
  cases course with
  | ended r status =>
      have habsorb := m.absorb_steady pid (r := r) fun hspared => sent_of_spares (h hspared)
      refine habsorb.trans (.of_kernel ?_ rfl (fun _ hs => hs) rfl)
      exact Kernel.endChild_steady _ pid status
  | asleep r duration resume =>
      have hsent (hspared : spared) : (m.shellPid, Signal.terminalStop) ∉ r.sent ∧
          ∀ around, (resume around).Spares m.shellPid := by
        cases h hspared with
        | asleep hsent hresume => exact ⟨hsent, hresume⟩
      have habsorb := m.absorb_steady pid fun hspared => (hsent hspared).1
      refine habsorb.trans ⟨rfl, fun hspared s hs => ?_, [], 0, rfl, .refl _, fun _ => rfl⟩
      cases mem_insertSleeper.1 hs with
      | inl hnew =>
          rw [hnew, habsorb.shellPid]
          exact Or.inr (hsent hspared).2
      | inr hold => exact Or.inl hold

theorem handOver_steady (spared : Prop) (m : Machine) (pid : Pid) :
    m.Steady spared (m.handOver pid) :=
  .of_kernel (m.kernel.updateChild_steady pid _) rfl (fun _ hs => hs) rfl

theorem wake_steady (m : Machine) {s : Sleeper} (h : spared → s.Spares m.shellPid) :
    m.Steady spared (m.wake s) := by
  rw [wake]
  split
  · exact (handOver_steady spared m s.pid).trans (proceed_steady _ s.pid fun hspared => h hspared _)
  · exact .refl spared m

theorem advanceWith_steady (h : spared → m.Spared) (turns time : Nat) :
    m.Steady spared (advanceWith turns m time) := by
  induction turns generalizing m with
  | zero => exact .of_kernel (.refl _) rfl (fun _ hs => hs) rfl
  | succ turns ih =>
      rw [advanceWith]
      split
      · exact .of_kernel (.refl _) rfl (fun _ hs => hs) rfl
      · next s sleepers htake =>
          obtain ⟨hmem, hsub⟩ := takeDue_eq_some htake
          have hrest : m.Steady spared { m with sleepers, now := max m.now s.due } :=
            .of_kernel (.refl _) rfl hsub rfl
          have hwake := hrest.trans (wake_steady _ fun hspared => h hspared s hmem)
          exact hwake.trans (ih (Spared.of_steady h hwake))

theorem advanceTo_steady (h : spared → m.Spared) (time : Nat) :
    m.Steady spared (m.advanceTo time) :=
  advanceWith_steady h _ time

theorem sleepUntil_steady (h : spared → m.Spared) (pid : Pid) (time : Nat) :
    m.Steady spared (m.sleepUntil pid time) := by
  refine sleepUntil_preserves (P := m.Steady spared) (fun m' time hsteady => ?_)
    (fun m' hsteady => ?_) (.refl spared m) time
  · exact hsteady.trans (advanceTo_steady (Spared.of_steady h hsteady) time)
  · have hresume := m'.kernel.signalChild_steady pid Signal.resume
    exact hsteady.trans (.of_kernel hresume rfl (fun _ hs => hs) rfl)

/-- A child is followed to its end. -/
theorem follow_steady (hm : spared → m.Spared) (pid : Pid) {course : Course}
    (h : spared → course.Spares m.shellPid) : m.Steady spared (m.follow pid course) := by
  induction course generalizing m with
  | ended r status => exact proceed_steady m pid h
  | asleep r duration resume ih =>
      have hsent (hspared : spared) : (m.shellPid, Signal.terminalStop) ∉ r.sent ∧
          ∀ around, (resume around).Spares m.shellPid := by
        cases h hspared with
        | asleep hsent hresume => exact ⟨hsent, hresume⟩
      have habsorb := m.absorb_steady pid fun hspared => (hsent hspared).1
      have hslept := habsorb.trans (sleepUntil_steady (Spared.of_steady hm habsorb) pid
        ((m.absorb pid r).wakeTime duration))
      rw [follow]
      split
      · have hover := hslept.trans (handOver_steady spared _ pid)
        refine hover.trans (ih _ (Spared.of_steady hm hover) fun hspared => ?_)
        rw [hover.shellPid]
        exact (hsent hspared).2 _
      · exact hslept

theorem awaitEnd_steady (h : spared → m.Spared) (pid : Pid) :
    m.Steady spared (m.awaitEnd pid) := by
  rw [awaitEnd]
  split
  · next s hrunning hfind =>
      have hmem := List.mem_of_find?_eq_some hfind
      have hother : m.Steady spared
          { m with sleepers := m.sleepers.filter fun t => t.pid != pid } :=
        .of_kernel (.refl _) rfl (fun t ht => (List.mem_filter.1 ht).1) rfl
      have hpassed := hother.trans (sleepUntil_steady (Spared.of_steady h hother) pid s.due)
      dsimp only
      split
      · have hover := hpassed.trans (handOver_steady spared _ pid)
        refine hover.trans (follow_steady (Spared.of_steady h hover) pid fun hspared => ?_)
        rw [hover.shellPid]
        exact h hspared s hmem _
      · exact hpassed
  · exact .refl spared m

end Course

section Launch

/-- A launch once its child is set up. -/
def attend (m : Machine) (pid : Pid) (background : Bool)
    (before : SignalSet) : Except Failure Launched × Machine :=
  if background then
    (.ok (.background pid),
      { m with launched := m.launched ++ [pid] }.mapKernel fun k => k.setMask before)
  else
    match m.waitForeground pid with
    | (.error f, m) => (.error f, m.mapKernel fun k => k.setMask before)
    | (.ok t, m) => (.ok (.foreground t), m.mapKernel fun k => k.setMask before)

/-- A launch once the child signal is blocked. -/
def launchImage (host : Host) (m : Machine) (c : Command) (image : ChildImage)
    (background : Bool) (before : SignalSet) : Except Failure Launched × Machine :=
  match m.fork with
  | (.error e, m) =>
    (.error (.because (.launch c.program) (.systemCall e)),
      m.mapKernel fun k => k.setMask before)
  | (.ok pid, m) => (m.runChild host image pid before).pause.attend pid background before

/-- A launch in three parts, between which the shell can be interrupted. -/
theorem spawn_eq (host : Host) (m : Machine) (c : Command) (background : Bool) :
    m.spawn host c background =
      match ChildImage.ofCommand c background with
      | .error f => (.error f, m)
      | .ok image =>
        (m.mapKernel fun k => k.setChildBlocked true).pause.launchImage host c image background
          m.kernel.signals.mask :=
  rfl

theorem fork_steady (spared : Prop) (m : Machine) : m.Steady spared m.fork.2 := by
  rw [fork]
  split
  · exact .of_kernel (.refl _) rfl (fun _ hs => hs) rfl
  · exact .of_kernel (.refl _) rfl (fun _ hs => hs) rfl
  · dsimp only
    split <;> exact .of_kernel (.refl _) rfl (fun _ hs => hs) rfl

theorem parent_of_setUp {image : ChildImage} {pid : Pid} {mask : SignalSet} {e : Execution}
    {files : FileSystem} (h : image.setUp m pid mask = (.starts e, files)) :
    e.parent = m.shellPid := by
  obtain ⟨utility, input, output, -, -, rfl⟩ := ChildImage.starts_of_setUp h
  rfl

variable {host : Host} (hhost : spared → host.SparesParents)
include hhost

theorem runChild_steady (m : Machine) (image : ChildImage) (pid : Pid) (mask : SignalSet) :
    m.Steady spared (m.runChild host image pid mask) := by
  have hstart : m.Steady spared
      (m.mapKernel fun k => k.start pid (.forChild (!image.background) mask)) :=
    .of_kernel (m.kernel.start_steady pid _) rfl (fun _ hs => hs) rfl
  rw [runChild]
  split
  · refine hstart.trans (.of_kernel ?_ rfl (fun _ hs => hs) rfl)
    exact Kernel.endChild_steady _ pid _
  · next e files hsetUp =>
      refine (hstart.trans (.of_kernel (.refl _) rfl (fun _ hs => hs) rfl)).trans
        (proceed_steady _ e.pid fun hspared => ?_)
      rw [← parent_of_setUp hsetUp]
      exact hhost hspared e _

omit hhost in
theorem waitWith_steady (spared : Prop) (m : Machine) (pid : Pid) (errors : List Errno) :
    m.Steady spared (m.waitWith pid errors).2 := by
  induction errors with
  | nil =>
      rw [waitWith]
      split
      · exact .refl spared m
      · next status kernel hreap =>
          have hkernel := m.kernel.reap_steady pid
          rw [hreap] at hkernel
          exact .of_kernel hkernel rfl (fun _ hs => hs) rfl
  | cons e errors ih =>
      cases e with
      | interrupted => exact ih
      | _ => exact .of_kernel (.refl _) rfl (fun _ hs => hs) rfl

omit hhost in
/-- A wait for a foreground child from its pause on. -/
theorem waitForeground_steady_of_pause (h : spared → m.pause.Spared) (pid : Pid) :
    m.pause.Steady spared (m.waitForeground pid).2 := by
  have hended := awaitEnd_steady h pid
  rw [waitForeground]
  generalize m.pause.awaitEnd pid = ended at hended ⊢
  have hcleared : ended.Steady spared
      { ended with outside := { ended.outside with waitErrors := [] } } :=
    .of_kernel (.refl _) rfl (fun _ hs => hs) rfl
  have hwaited := hended.trans
    (hcleared.trans (waitWith_steady spared _ pid ended.outside.waitErrors))
  dsimp only
  split
  · next t found hwait =>
      rw [hwait] at hwaited
      dsimp only
      split
      · exact hwaited
      · exact hwaited.trans (.of_kernel (Kernel.reap_steady _ pid) rfl (fun _ hs => hs) rfl)
  · exact hwaited

omit hhost in
theorem waitForeground_steady (h : spared → m.Spared) (pid : Pid) :
    m.Steady spared (m.waitForeground pid).2 :=
  (pause_steady spared m).trans
    (waitForeground_steady_of_pause (Spared.of_steady h (pause_steady spared m)) pid)

omit hhost in
theorem setMask_steady (spared : Prop) (m : Machine) (mask : SignalSet) :
    m.Steady spared (m.mapKernel fun k => k.setMask mask) :=
  .of_kernel (m.kernel.setMask_steady mask) rfl (fun _ hs => hs) rfl

omit hhost in
theorem attend_steady (h : spared → m.Spared) (pid : Pid) (background : Bool)
    (before : SignalSet) :
    m.Steady spared (m.attend pid background before).2 := by
  rw [attend]
  split
  · refine .trans ?_ (setMask_steady spared _ before)
    exact .of_kernel (.refl _) rfl (fun _ hs => hs) rfl
  · have hwait := waitForeground_steady h pid
    split
    · next hanswer =>
        rw [hanswer] at hwait
        exact hwait.trans (setMask_steady spared _ before)
    · next hanswer =>
        rw [hanswer] at hwait
        exact hwait.trans (setMask_steady spared _ before)

theorem launchImage_steady (h : spared → m.Spared) (c : Command) (image : ChildImage)
    (background : Bool) (before : SignalSet) :
    m.Steady spared (m.launchImage host c image background before).2 := by
  have hfork := fork_steady spared m
  rw [launchImage]
  split
  · next e m' heq =>
      rw [heq] at hfork
      exact hfork.trans (setMask_steady spared _ before)
  · next pid m' heq =>
      rw [heq] at hfork
      have hrun := (hfork.trans (runChild_steady hhost m' image pid before)).trans
        (pause_steady spared _)
      exact hrun.trans (attend_steady (Spared.of_steady h hrun) pid background before)

theorem spawn_steady (h : spared → m.Spared) (c : Command) (background : Bool) :
    m.Steady spared (m.spawn host c background).2 := by
  rw [spawn_eq]
  split
  · exact .refl spared m
  · next image _ =>
      have hguard : m.Steady spared (m.mapKernel fun k => k.setChildBlocked true) :=
        .of_kernel (m.kernel.setMask_steady _) rfl (fun _ hs => hs) rfl
      have hpause := hguard.trans (pause_steady spared _)
      exact hpause.trans (launchImage_steady hhost (Spared.of_steady h hpause) c image background _)

end Launch

end Machine

end JobShell
