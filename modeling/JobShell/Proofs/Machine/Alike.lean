import JobShell.Proofs.Kernel.Alike
import JobShell.Proofs.Machine.Steady

/-!
# Machines that go on alike

`Machine.Alike` relates machines that differ in their logs, which are alike, and in what will
arrive at the pauses to come, which is related by a parameter. Programs see neither, so whatever
the machines do they stay alike. Only a pause looks at what arrives: two machines pause alike as
long as the parameter says that the same arrives at either (`Machine.Paced`).
-/

namespace JobShell

/-- What will arrive at each of the pauses to come. -/
abbrev Schedule := List (List Arrival)

namespace Machine

/-- The machines differ at most in their logs, which are alike, and in what will arrive, which is
related. -/
def Alike (R : Schedule → Schedule → Prop) (m m' : Machine) : Prop :=
  ∃ kernel arrivals, m.kernel.Alike kernel ∧ R m.outside.arrivals arrivals ∧
    m' = { m with kernel, outside := { m.outside with arrivals } }

/-- Related schedules agree on every pause before the one at which no more than `final` is to
come. -/
def Paced (R : Schedule → Schedule → Prop) (final : Schedule) : Prop :=
  ∀ a b, final <:+ a.tail → R a b → a.headD [] = b.headD [] ∧ R a.tail b.tail

variable {R R' : Schedule → Schedule → Prop} {m m' m'' : Machine} {final : Schedule}

theorem Paced.mono (h : Paced R final) {earlier : Schedule} (hsuffix : final <:+ earlier) :
    Paced R earlier :=
  fun a b hearlier => h a b (hsuffix.trans hearlier)

theorem Steady.paced {spared : Prop} (h : m.Steady spared m')
    (hpaced : Paced R m'.outside.arrivals) : Paced R m.outside.arrivals :=
  hpaced.mono h.suffix

namespace Alike

theorem refl (hlog : m.kernel.log.WellFormed)
    (harrivals : R m.outside.arrivals m.outside.arrivals) : m.Alike R m :=
  ⟨m.kernel, m.outside.arrivals, .refl hlog, harrivals, rfl⟩

theorem symm (hR : ∀ {a b}, R a b → R b a) (h : m.Alike R m') : m'.Alike R m := by
  obtain ⟨kernel, arrivals, hkernel, harrivals, rfl⟩ := h
  exact ⟨m.kernel, m.outside.arrivals, hkernel.symm, hR harrivals, rfl⟩

theorem trans (hR : ∀ {a b c}, R a b → R b c → R a c) (first : m.Alike R m')
    (second : m'.Alike R m'') : m.Alike R m'' := by
  obtain ⟨kernel, arrivals, hkernel, harrivals, rfl⟩ := first
  obtain ⟨kernel', arrivals', hkernel', harrivals', rfl⟩ := second
  exact ⟨kernel', arrivals', hkernel.trans hkernel', hR harrivals harrivals', rfl⟩

theorem kernel (h : m.Alike R m') : m.kernel.Alike m'.kernel := by
  obtain ⟨kernel, arrivals, hkernel, harrivals, rfl⟩ := h
  exact hkernel

theorem arrivals (h : m.Alike R m') : R m.outside.arrivals m'.outside.arrivals := by
  obtain ⟨kernel, arrivals, hkernel, harrivals, rfl⟩ := h
  exact harrivals

theorem shellPid (h : m.Alike R m') : m'.shellPid = m.shellPid := by
  obtain ⟨kernel, arrivals, hkernel, harrivals, rfl⟩ := h
  rfl

theorem sleepers (h : m.Alike R m') : m'.sleepers = m.sleepers := by
  obtain ⟨kernel, arrivals, hkernel, harrivals, rfl⟩ := h
  rfl

theorem mapKernel (h : m.Alike R m') {f : Kernel → Kernel}
    (hf : (f m.kernel).Alike (f m'.kernel)) : (m.mapKernel f).Alike R (m'.mapKernel f) := by
  obtain ⟨kernel, arrivals, hkernel, harrivals, rfl⟩ := h
  exact ⟨f kernel, arrivals, hf, harrivals, rfl⟩

/-- A change of the machine that looks neither at the log nor at what will arrive. -/
theorem update (h : m.Alike R m') (f : Machine → Machine)
    (hf : ∀ m kernel arrivals, f { m with kernel, outside := { m.outside with arrivals } } =
      { f m with kernel, outside := { (f m).outside with arrivals } }) :
    (f m).Alike R (f m') := by
  have hkeeps := hf m m.kernel m.outside.arrivals
  obtain ⟨kernel, arrivals, hkernel, harrivals, rfl⟩ := h
  refine ⟨kernel, arrivals, ?_, ?_, hf m kernel arrivals⟩
  · rw [congrArg Machine.kernel hkeeps]
    exact hkernel
  · rw [congrArg (fun m => m.outside.arrivals) hkeeps]
    exact harrivals

end Alike

section Pause

theorem outside_foldl_receive (m : Machine) (events : List Arrival) :
    (events.foldl receive m).outside = m.outside := by
  rw [foldl_receive_eq]

theorem pause_eq_foldl (m : Machine) :
    m.pause = (m.outside.arrivals.headD []).foldl receive
      { m with outside := { m.outside with arrivals := m.outside.arrivals.tail } } := by
  cases harrivals : m.outside.arrivals with
  | nil =>
      have hnone : m = { m with outside := { m.outside with arrivals := [] } } := by
        rw [← harrivals]
      rw [pause_of_arrivals_nil harrivals]
      exact hnone
  | cons events later =>
      rw [pause, harrivals]
      rfl

theorem arrivals_pause (m : Machine) :
    m.pause.outside.arrivals = m.outside.arrivals.tail := by
  rw [pause_eq_foldl, outside_foldl_receive]

theorem Alike.foldl_receive (h : m.Alike R m') (events : List Arrival) :
    (events.foldl receive m).Alike R (events.foldl receive m') := by
  induction events generalizing m m' with
  | nil => exact h
  | cons a events ih =>
      refine ih ?_
      cases a with
      | childEnds pid status => exact h.mapKernel (h.kernel.endChild pid status)
      | stop => exact h.mapKernel h.kernel.stop
      | childSignal => exact h.mapKernel h.kernel.raiseChild

/-- If the same arrives at both now, what is still to come may be related in another way. -/
theorem Alike.pause_of (h : m.Alike R m')
    (hevents : m.outside.arrivals.headD [] = m'.outside.arrivals.headD [])
    (hlater : R' m.outside.arrivals.tail m'.outside.arrivals.tail) :
    m.pause.Alike R' m'.pause := by
  rw [pause_eq_foldl, pause_eq_foldl, ← hevents]
  refine foldl_receive ?_ _
  obtain ⟨kernel, arrivals, hkernel, -, rfl⟩ := h
  exact ⟨kernel, arrivals.tail, hkernel, hlater, rfl⟩

theorem Alike.pause (h : m.Alike R m') (hpaced : Paced R m.pause.outside.arrivals) :
    m.pause.Alike R m'.pause := by
  rw [arrivals_pause] at hpaced
  obtain ⟨hevents, hlater⟩ := hpaced _ _ (List.suffix_refl _) h.arrivals
  exact h.pause_of hevents hlater

end Pause

section Course

variable (h : m.Alike R m')
include h

theorem Alike.surroundings (pid : Pid) : m'.surroundings pid = m.surroundings pid := by
  have hchildren := h.kernel.children
  obtain ⟨kernel, arrivals, hkernel, harrivals, rfl⟩ := h
  rw [Machine.surroundings, Machine.surroundings, hchildren]

theorem Alike.deliver (signal : Pid × Nat) : (m.deliver signal).Alike R (m'.deliver signal) := by
  rw [Machine.deliver, Machine.deliver, h.shellPid]
  refine h.mapKernel ?_
  split
  · exact h.kernel.signalShell signal.2
  · exact h.kernel.signalChild signal.1 signal.2

omit h in
theorem Alike.foldl_deliver (h : m.Alike R m') (signals : List (Pid × Nat)) :
    (signals.foldl Machine.deliver m).Alike R (signals.foldl Machine.deliver m') := by
  induction signals generalizing m m' with
  | nil => exact h
  | cons signal signals ih => exact ih (h.deliver signal)

theorem Alike.addErrors (pid : Pid) (bytes : Bytes) :
    (m.addErrors pid bytes).Alike R (m'.addErrors pid bytes) := by
  obtain ⟨kernel, arrivals, hkernel, harrivals, rfl⟩ := h
  rw [Machine.addErrors, Machine.addErrors]
  split <;> exact ⟨kernel, arrivals, hkernel, harrivals, rfl⟩

theorem Alike.absorb (pid : Pid) (r : Effect) : (m.absorb pid r).Alike R (m'.absorb pid r) := by
  refine foldl_deliver (addErrors ?_ pid r.errors) r.sent
  have hkernel := h.kernel.updateChild pid fun c => { c with arranged := r.arranged }
  obtain ⟨kernel, arrivals, -, harrivals, rfl⟩ := h
  exact ⟨_, arrivals, hkernel, harrivals, rfl⟩

theorem Alike.proceed (pid : Pid) (course : Course) :
    (m.proceed pid course).Alike R (m'.proceed pid course) := by
  cases course with
  | ended r status =>
      have habsorb := h.absorb pid r
      exact habsorb.mapKernel (habsorb.kernel.endChild pid status)
  | asleep r duration resume =>
      exact (h.absorb pid r).update
        (fun m =>
          { m with sleepers := insertSleeper ⟨m.wakeTime duration, pid, resume⟩ m.sleepers })
        fun _ _ _ => rfl

theorem Alike.handOver (pid : Pid) : (m.handOver pid).Alike R (m'.handOver pid) :=
  h.mapKernel (h.kernel.updateChild pid _)

theorem Alike.wake (s : Sleeper) : (m.wake s).Alike R (m'.wake s) := by
  rw [Machine.wake, Machine.wake, h.kernel.isRunning, h.surroundings]
  split
  · exact (h.handOver s.pid).proceed s.pid _
  · exact h

omit h in
theorem takeDue_alike {k k' : Kernel} (h : k.Alike k') (time : Nat) (sleepers : List Sleeper) :
    takeDue k' time sleepers = takeDue k time sleepers := by
  induction sleepers with
  | nil => rfl
  | cons s sleepers ih => rw [takeDue, takeDue, h.isStopped, ih]

omit h in
theorem Alike.advanceWith (h : m.Alike R m') (turns time : Nat) :
    (advanceWith turns m time).Alike R (advanceWith turns m' time) := by
  induction turns generalizing m m' with
  | zero => exact h.update (fun m => { m with now := max m.now time }) fun _ _ _ => rfl
  | succ turns ih =>
      have htake : takeDue m'.kernel time m'.sleepers = takeDue m.kernel time m.sleepers := by
        rw [takeDue_alike h.kernel, h.sleepers]
      rw [Machine.advanceWith, Machine.advanceWith, htake]
      split
      · exact h.update (fun m => { m with now := max m.now time }) fun _ _ _ => rfl
      · next s sleepers _ =>
          have hrest := h.update (fun m => { m with sleepers, now := max m.now s.due })
            fun _ _ _ => rfl
          exact ih (hrest.wake s)

theorem Alike.advanceTo (time : Nat) : (m.advanceTo time).Alike R (m'.advanceTo time) := by
  have hadvance (turns : Nat) := h.advanceWith turns time
  obtain ⟨kernel, arrivals, hkernel, harrivals, rfl⟩ := h
  exact hadvance _

omit h in
theorem Alike.sleepUntil (h : m.Alike R m') (pid : Pid) (time : Nat) :
    (m.sleepUntil pid time).Alike R (m'.sleepUntil pid time) := by
  have hothers (dues : List Nat) {m m' : Machine} (h : m.Alike R m') :
      (dues.foldl (fun m due => if m.kernel.isStopped pid then m.advanceTo due else m) m).Alike R
        (dues.foldl (fun m due => if m.kernel.isStopped pid then m.advanceTo due else m) m') := by
    induction dues generalizing m m' with
    | nil => exact h
    | cons due dues ih =>
        refine ih ?_
        dsimp only
        rw [h.kernel.isStopped]
        split
        · exact h.advanceTo due
        · exact h
  have hadvanced := h.advanceTo time
  have hpassed := hothers ((m.advanceTo time).sleepers.map Sleeper.due) hadvanced
  rw [Machine.sleepUntil, Machine.sleepUntil, Machine.outlastStop, Machine.outlastStop,
    hadvanced.sleepers]
  rw [hpassed.kernel.isStopped]
  split
  · exact hpassed.mapKernel (hpassed.kernel.signalChild pid Signal.resume)
  · exact hpassed

omit h in
/-- A child is followed to its end. -/
theorem Alike.follow (h : m.Alike R m') (pid : Pid) (course : Course) :
    (m.follow pid course).Alike R (m'.follow pid course) := by
  induction course generalizing m m' with
  | ended r status => exact h.proceed pid (.ended r status)
  | asleep r duration resume ih =>
      have habsorb := h.absorb pid r
      have hslept := habsorb.sleepUntil pid ((m.absorb pid r).wakeTime duration)
      have htime : (m'.absorb pid r).wakeTime duration = (m.absorb pid r).wakeTime duration := by
        obtain ⟨kernel, arrivals, hkernel, harrivals, heq⟩ := habsorb
        rw [heq]
        rfl
      rw [Machine.follow, Machine.follow, htime, hslept.kernel.isRunning, hslept.surroundings]
      split
      · exact ih _ (hslept.handOver pid)
      · exact hslept

theorem Alike.awaitEnd (pid : Pid) : (m.awaitEnd pid).Alike R (m'.awaitEnd pid) := by
  have hfind : (m'.sleepers.find? fun s => s.pid == pid) =
      m.sleepers.find? fun s => s.pid == pid := by
    rw [h.sleepers]
  rw [Machine.awaitEnd, Machine.awaitEnd, hfind, h.kernel.isRunning]
  split
  · next s _ _ =>
      have hothers := h.update
        (fun m => { m with sleepers := m.sleepers.filter fun t => t.pid != pid }) fun _ _ _ => rfl
      have hpassed := hothers.sleepUntil pid s.due
      dsimp only
      rw [hpassed.kernel.isRunning, hpassed.surroundings]
      split
      · exact (hpassed.handOver pid).follow pid _
      · exact hpassed
  · exact h

end Course

section Launch

theorem Alike.freshPid (h : m.Alike R m') : m'.freshPid = m.freshPid := by
  have hchildren := h.kernel.children
  obtain ⟨kernel, arrivals, hkernel, harrivals, rfl⟩ := h
  rw [Machine.freshPid, Machine.freshPid, hchildren]

/-- The same pid is given. -/
theorem Alike.fork (h : m.Alike R m') :
    ∃ machine, m.fork.2.Alike R machine ∧ m'.fork = (m.fork.1, machine) := by
  have hfresh {m m' : Machine} (h : m.Alike R m') :
      { m with lastPid := m.freshPid }.Alike R { m' with lastPid := m'.freshPid } := by
    rw [h.freshPid]
    exact h.update (fun n => { n with lastPid := m.freshPid }) fun _ _ _ => rfl
  have hforks : m'.outside.forks = m.outside.forks := by
    obtain ⟨kernel, arrivals, hkernel, harrivals, rfl⟩ := h
    rfl
  have hlater (later : List ForkAnswer) :=
    h.update (fun m => { m with outside := { m.outside with forks := later } }) fun _ _ _ => rfl
  cases hanswer : m.outside.forks with
  | nil =>
      rw [Machine.fork, Machine.fork, hforks, hanswer]
      exact ⟨_, hfresh h, by rw [h.freshPid]⟩
  | cons answer later =>
      cases answer with
      | refused e =>
          rw [Machine.fork, Machine.fork, hforks, hanswer]
          exact ⟨_, hlater later, rfl⟩
      | preferring pid =>
          have hheld := (hlater later).kernel.holds pid
          rw [Machine.fork, Machine.fork, hforks, hanswer]
          dsimp only at hheld ⊢
          rw [hheld]
          split
          · exact ⟨_, hfresh (hlater later), by rw [(hlater later).freshPid]⟩
          · exact ⟨_, hlater later, rfl⟩

theorem setUp_alike (h : m.Alike R m') (image : ChildImage) (pid : Pid) (mask : SignalSet) :
    image.setUp m' pid mask = image.setUp m pid mask := by
  obtain ⟨kernel, arrivals, hkernel, harrivals, rfl⟩ := h
  rfl

theorem Alike.runChild (host : Host) (h : m.Alike R m') (image : ChildImage) (pid : Pid)
    (mask : SignalSet) :
    (m.runChild host image pid mask).Alike R (m'.runChild host image pid mask) := by
  have hstart := h.mapKernel
    (f := fun k => k.start pid (.forChild (!image.background) mask)) (h.kernel.start pid _)
  rw [Machine.runChild, Machine.runChild, setUp_alike hstart]
  split
  · next name e files _ =>
      have hfailed := hstart.update
        (fun m => { m with files }.printError
          ("smallsh: " ++ name ++ ": " ++ e.description ++ "\n")) fun _ _ _ => rfl
      exact hfailed.mapKernel (hfailed.kernel.endChild pid _)
  · next e files _ =>
      have hstarted := hstart.update (fun m => { m with files }) fun _ _ _ => rfl
      rw [execute, execute, hstarted.surroundings]
      exact hstarted.proceed e.pid _

theorem Alike.waitWith (h : m.Alike R m') (pid : Pid) (errors : List Errno) :
    ∃ machine, (m.waitWith pid errors).2.Alike R machine ∧
      m'.waitWith pid errors = ((m.waitWith pid errors).1, machine) := by
  induction errors with
  | nil =>
      obtain ⟨kernel, hreaped, hreap⟩ := h.kernel.reap pid
      rw [Machine.waitWith, Machine.waitWith, hreap]
      generalize m.kernel.reap pid = answer at hreaped
      obtain ⟨status, reaped⟩ := answer
      cases status with
      | none => exact ⟨m', h, rfl⟩
      | some status =>
          obtain ⟨-, arrivals, -, harrivals, rfl⟩ := h
          exact ⟨_, ⟨kernel, arrivals, hreaped, harrivals, rfl⟩, rfl⟩
  | cons e errors ih =>
      cases e with
      | interrupted => exact ih
      | _ =>
          exact ⟨_, h.update
            (fun m => { m with outside := { m.outside with waitErrors := errors } })
            fun _ _ _ => rfl, rfl⟩

theorem Alike.ensureReaped (h : m.Alike R m') (pid : Pid) :
    (m.ensureReaped pid).Alike R (m'.ensureReaped pid) := by
  obtain ⟨kernel, hreaped, hreap⟩ := h.kernel.reap pid
  rw [Machine.ensureReaped, Machine.ensureReaped, hreap]
  obtain ⟨-, arrivals, -, harrivals, rfl⟩ := h
  exact ⟨kernel, arrivals, hreaped, harrivals, rfl⟩

theorem Alike.waitForeground (h : m.Alike R m') (pid : Pid)
    (hpaced : Paced R (m.waitForeground pid).2.outside.arrivals) :
    ∃ machine, (m.waitForeground pid).2.Alike R machine ∧
      m'.waitForeground pid = ((m.waitForeground pid).1, machine) := by
  have hsteady : m.pause.Steady False (m.waitForeground pid).2 :=
    waitForeground_steady_of_pause False.elim pid
  have hended := (h.pause (hsteady.paced hpaced)).awaitEnd pid
  have herrors : (m'.pause.awaitEnd pid).outside.waitErrors =
      (m.pause.awaitEnd pid).outside.waitErrors := by
    obtain ⟨kernel, arrivals, hkernel, harrivals, heq⟩ := hended
    rw [heq]
  obtain ⟨machine, hwaited, hwait⟩ := (hended.update
    (fun m => { m with outside := { m.outside with waitErrors := [] } })
    fun _ _ _ => rfl).waitWith pid (m.pause.awaitEnd pid).outside.waitErrors
  rw [Machine.waitForeground, Machine.waitForeground]
  dsimp only
  rw [herrors, hwait]
  generalize { m.pause.awaitEnd pid with
      outside := { (m.pause.awaitEnd pid).outside with waitErrors := [] } }.waitWith pid
      (m.pause.awaitEnd pid).outside.waitErrors = answered at hwaited
  obtain ⟨answer, waited⟩ := answered
  cases answer with
  | error f => exact ⟨_, hwaited, rfl⟩
  | ok found =>
      cases found with
      | none => exact ⟨_, hwaited, rfl⟩
      | some t =>
          refine ⟨if t.isSuccess then machine else machine.ensureReaped pid, ?_, rfl⟩
          dsimp only
          split
          · exact hwaited
          · exact hwaited.ensureReaped pid

theorem Alike.setMask (h : m.Alike R m') (mask : SignalSet) :
    (m.mapKernel fun k => k.setMask mask).Alike R (m'.mapKernel fun k => k.setMask mask) :=
  h.mapKernel (f := fun k => k.setMask mask) (h.kernel.setMask mask)

theorem Alike.attend (h : m.Alike R m') (pid : Pid) (background : Bool)
    (before : SignalSet)
    (hpaced : Paced R (m.attend pid background before).2.outside.arrivals) :
    ∃ machine, (m.attend pid background before).2.Alike R machine ∧
      m'.attend pid background before = ((m.attend pid background before).1, machine) := by
  rw [Machine.attend] at hpaced ⊢
  rw [Machine.attend]
  split at hpaced
  · next hback =>
      rw [if_pos hback, if_pos hback]
      have hlaunched := h.update (fun m => { m with launched := m.launched ++ [pid] })
        fun _ _ _ => rfl
      exact ⟨_, hlaunched.setMask before, rfl⟩
  · next hback =>
      rw [if_neg hback, if_neg hback]
      have hwait := h.waitForeground pid
      generalize m.waitForeground pid = answered at hpaced hwait ⊢
      obtain ⟨answer, waited⟩ := answered
      cases answer with
      | error f =>
          have hunblock := setMask_steady False waited before
          obtain ⟨machine, hwaited, heq⟩ := hwait (hunblock.paced hpaced)
          rw [heq]
          exact ⟨_, hwaited.setMask before, rfl⟩
      | ok t =>
          have hunblock := setMask_steady False waited before
          obtain ⟨machine, hwaited, heq⟩ := hwait (hunblock.paced hpaced)
          rw [heq]
          exact ⟨_, hwaited.setMask before, rfl⟩

theorem Alike.launchImage (host : Host) (h : m.Alike R m') (c : Command) (image : ChildImage)
    (background : Bool) (before : SignalSet)
    (hpaced : Paced R (m.launchImage host c image background before).2.outside.arrivals) :
    ∃ machine, (m.launchImage host c image background before).2.Alike R machine ∧
      m'.launchImage host c image background before =
        ((m.launchImage host c image background before).1, machine) := by
  obtain ⟨forked', hforked, hfork⟩ := h.fork
  rw [Machine.launchImage] at hpaced ⊢
  rw [Machine.launchImage, hfork]
  generalize m.fork = answered at hpaced hforked ⊢
  obtain ⟨answer, forked⟩ := answered
  cases answer with
  | error e => exact ⟨_, hforked.setMask before, rfl⟩
  | ok pid =>
      dsimp only at hpaced ⊢
      have hrun := hforked.runChild host image pid before
      generalize forked.runChild host image pid before = ran at hpaced hrun ⊢
      have hattend : ran.pause.Steady False (ran.pause.attend pid background before).2 :=
        attend_steady False.elim pid background before
      exact (hrun.pause (hattend.paced hpaced)).attend pid background before hpaced

/-- A launch gives the same answer. -/
theorem Alike.spawn (host : Host) (h : m.Alike R m') (c : Command) (background : Bool)
    (hpaced : Paced R (m.spawn host c background).2.outside.arrivals) :
    ∃ machine, (m.spawn host c background).2.Alike R machine ∧
      m'.spawn host c background = ((m.spawn host c background).1, machine) := by
  rw [spawn_eq] at hpaced ⊢
  rw [spawn_eq, h.kernel.signals]
  cases himage : ChildImage.ofCommand c background with
  | error f => exact ⟨m', h, rfl⟩
  | ok image =>
      rw [himage] at hpaced
      dsimp only at hpaced ⊢
      have hblocked : (m.mapKernel fun k => k.setChildBlocked true).Alike R
          (m'.mapKernel fun k => k.setChildBlocked true) :=
        h.mapKernel (h.kernel.setChildBlocked true)
      generalize m.mapKernel (fun k => k.setChildBlocked true) = entered at hpaced hblocked ⊢
      have hlaunch : entered.pause.Steady False
          (entered.pause.launchImage host c image background m.kernel.signals.mask).2 :=
        launchImage_steady False.elim False.elim c image background _
      exact (hblocked.pause (hlaunch.paced hpaced)).launchImage host c image background _ hpaced

end Launch

end Machine

end JobShell
