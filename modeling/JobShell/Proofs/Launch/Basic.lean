import JobShell.Launch
import JobShell.Proofs.Kernel.Move

/-!
# The steps of a launch

A launch blocks the child signal, asks for a child, waits for it if it is to run in the
foreground, and goes back to the mask that was in force. `Launching` is a launch under way, and
`Launching.Step` what may happen next: the launch goes on by one step, which may fail, or
something happens to the kernel by itself (`Kernel.Move`). So a run (`Launching.Run`) lets
children end and the handler run between any two steps of the launch.

Its history tells which children have ended, and which were collected and by whom
(`Incident`). Two promises of the system are part of the steps: a new child gets no pid that an
uncollected child holds, and children end by ends. Which waits the system may refuse is a
parameter (`WaitRefusals`), since the way out of a launch does not depend on it.
-/

namespace JobShell

open Machine (Launched)

/-- The waits for a child that the system may refuse, and the errors with which it does. -/
abbrev WaitRefusals := Kernel → Pid → Errno → Prop

namespace WaitRefusals

/-- What is documented of a wait for one process: unless a signal interrupts it, it is refused
only where no child of this pid is left to be collected. -/
def Documented (refuses : WaitRefusals) : Prop :=
  ∀ k pid e, refuses k pid e → k.holds pid = false

/-- A wait is refused where no child is left, for this reason. -/
def absent : WaitRefusals :=
  fun k pid e => e = .noChild ∧ k.holds pid = false

theorem documented_absent : absent.Documented :=
  fun _ _ _ h => h.2

end WaitRefusals

/-- How far a launch is. `before` is the mask that was in force before it. -/
inductive LaunchStage where
  | entering
  /-- The child signal is blocked, and there is no child yet. -/
  | guarded (before : SignalSet)
  /-- The foreground child is to be waited for. -/
  | waiting (before : SignalSet) (pid : Pid)
  /-- A wait has found out how the foreground child has ended. -/
  | waited (before : SignalSet) (pid : Pid) (t : Termination)
  /-- The answer is known, and the child signal is still blocked. -/
  | leaving (before : SignalSet) (answer : Except Failure Launched)
  | returned (answer : Except Failure Launched)

namespace LaunchStage

/-- Whether no child was asked for yet. -/
def isEarly : LaunchStage → Bool
  | entering | guarded _ => true
  | _ => false

/-- Whether the child signal was blocked by the launch and the mask not put back yet. -/
def isGuarded : LaunchStage → Bool
  | guarded _ | waiting _ _ | waited _ _ _ | leaving _ _ => true
  | _ => false

/-- The foreground child that the launch is occupied with. -/
def child? : LaunchStage → Option Pid
  | waiting _ pid | waited _ pid _ => some pid
  | _ => none

end LaunchStage

/-- A launch under way. -/
structure Launching where
  stage : LaunchStage
  kernel : Kernel

/-- Who collects children. -/
inductive Collector where
  /-- The handler of the child signal, which records them in the log. -/
  | handler
  /-- The waits of the launch. -/
  | launcher
deriving DecidableEq, Repr

/-- What happens in the course of a launch. -/
inductive Incident where
  /-- The child of the launch has started. -/
  | forked (pid : Pid)
  | ended (fact : Fact)
  | collected (collector : Collector) (fact : Fact)
  /-- The system refused to wait. -/
  | waitFailed (e : Errno)
deriving DecidableEq, Repr

namespace Incident

def ended? : Incident → Option Fact
  | ended fact => some fact
  | _ => none

def collected? : Incident → Option Fact
  | collected _ fact => some fact
  | _ => none

def collectedBy? (collector : Collector) : Incident → Option Fact
  | collected other fact => if other = collector then some fact else none
  | _ => none

/-- The children that have ended, with their status words. -/
def endedIn (history : List Incident) : List Fact :=
  history.filterMap ended?

/-- The children that were collected. -/
def collectedIn (history : List Incident) : List Fact :=
  history.filterMap collected?

/-- The children that one of the two has collected. -/
def collectedBy (collector : Collector) (history : List Incident) : List Fact :=
  history.filterMap (collectedBy? collector)

/-- What the handler has recorded when the kernel has become another one. -/
def recordings (k k' : Kernel) : List Incident :=
  (k'.log.waiting.drop k.log.waiting.length).map (collected .handler)

theorem mem_recordings {k k' : Kernel} {incident : Incident} :
    incident ∈ recordings k k' ↔
      ∃ fact ∈ k'.log.waiting.drop k.log.waiting.length, incident = collected .handler fact := by
  rw [recordings, List.mem_map]
  exact exists_congr fun fact => and_congr_right fun _ => eq_comm

/-- What a wait for a pid has collected. -/
def ofWait (pid : Pid) (found : Option StatusWord) : List Incident :=
  (found.map fun status => collected .launcher ⟨pid, status⟩).toList

end Incident

namespace Launching

open Incident

/-- Where a launch is with its child once there is one. -/
def afterFork (background : Bool) (before : SignalSet) (pid : Pid) : LaunchStage :=
  if background then .leaving before (.ok (.background pid)) else .waiting before pid

/-- Where a launch is once a wait has found a status word. One that tells of no end is waited
over. -/
def afterWait (before : SignalSet) (pid : Pid) (status : StatusWord) : LaunchStage :=
  match Termination.ofStatus? status with
  | some t => .waited before pid t
  | none => .waiting before pid

/-- The answer of a launch whose wait was refused. -/
def refusedWait (e : Errno) : Except Failure Launched :=
  if e = .noChild then .ok (.foreground none)
  else .error (.because .systemCall (.systemCall e))

/-- One step in the course of the launch of a command. -/
inductive Step (refuses : WaitRefusals) (c : Command) (background : Bool) :
    Launching → List Incident → Launching → Prop where
  /-- The command cannot become an image. -/
  | refuse (k : Kernel) (f : Failure) (himage : ChildImage.ofCommand c background = .error f) :
      Step refuses c background ⟨.entering, k⟩ [] ⟨.returned (.error f), k⟩
  /-- The child signal is blocked. -/
  | guard (k : Kernel) (image : ChildImage)
      (himage : ChildImage.ofCommand c background = .ok image) :
      Step refuses c background ⟨.entering, k⟩ (recordings k (k.setChildBlocked true))
        ⟨.guarded k.signals.mask, k.setChildBlocked true⟩
  /-- The system gives no child. -/
  | refuseFork (k : Kernel) (before : SignalSet) (e : Errno) :
      Step refuses c background ⟨.guarded before, k⟩ []
        ⟨.leaving before (.error (.because (.launch c.program) (.systemCall e))), k⟩
  /-- A child starts under a pid that no uncollected child holds. -/
  | fork (k : Kernel) (before : SignalSet) (pid : Pid) (signals : SignalSetup)
      (hfree : k.holds pid = false) :
      Step refuses c background ⟨.guarded before, k⟩ [.forked pid]
        ⟨afterFork background before pid, k.start pid signals⟩
  /-- The wait is interrupted and taken up again. -/
  | interrupted (k : Kernel) (before : SignalSet) (pid : Pid) :
      Step refuses c background ⟨.waiting before pid, k⟩ [] ⟨.waiting before pid, k⟩
  /-- The system refuses to wait. -/
  | failWait (k : Kernel) (before : SignalSet) (pid : Pid) (e : Errno) (hother : e ≠ .interrupted)
      (hrefused : refuses k pid e) :
      Step refuses c background ⟨.waiting before pid, k⟩ [.waitFailed e]
        ⟨.leaving before (refusedWait e), k⟩
  /-- The wait finds the child ended. -/
  | wait (k : Kernel) (before : SignalSet) (pid : Pid) (status : StatusWord)
      (hreap : (k.reap pid).1 = some status) :
      Step refuses c background ⟨.waiting before pid, k⟩ [.collected .launcher ⟨pid, status⟩]
        ⟨afterWait before pid status, (k.reap pid).2⟩
  /-- A child that was successful is not waited for again. -/
  | succeed (k : Kernel) (before : SignalSet) (pid : Pid) (t : Termination)
      (hsuccess : t.isSuccess = true) :
      Step refuses c background ⟨.waited before pid t, k⟩ []
        ⟨.leaving before (.ok (.foreground (some t))), k⟩
  /-- Any other child is waited for once more, without delay. -/
  | ensure (k : Kernel) (before : SignalSet) (pid : Pid) (t : Termination)
      (hfailed : t.isSuccess = false) :
      Step refuses c background ⟨.waited before pid t, k⟩ (ofWait pid (k.reap pid).1)
        ⟨.leaving before (.ok (.foreground (some t))), (k.reap pid).2⟩
  /-- The mask that was in force is put back. -/
  | leave (k : Kernel) (before : SignalSet) (answer : Except Failure Launched) :
      Step refuses c background ⟨.leaving before answer, k⟩ (recordings k (k.setMask before))
        ⟨.returned answer, k.setMask before⟩
  /-- Something happens to the kernel by itself. -/
  | move (stage : LaunchStage) {k k' : Kernel} {facts : List Fact} (move : k.Move facts k') :
      Step refuses c background ⟨stage, k⟩ (facts.map .ended ++ recordings k k') ⟨stage, k'⟩

/-- A run with its history. -/
inductive Run (refuses : WaitRefusals) (c : Command) (background : Bool) (s : Launching) :
    List Incident → Launching → Prop where
  | nil : Run refuses c background s [] s
  | snoc {history incidents : List Incident} {t u : Launching}
      (run : Run refuses c background s history t)
      (step : Step refuses c background t incidents u) :
      Run refuses c background s (history ++ incidents) u

variable {refuses : WaitRefusals} {c : Command} {background : Bool} {s t u : Launching}
  {history later : List Incident}

theorem Run.append (first : Run refuses c background s history t)
    (second : Run refuses c background t later u) :
    Run refuses c background s (history ++ later) u := by
  induction second with
  | nil => rwa [List.append_nil]
  | snoc run step ih =>
      rw [← List.append_assoc]
      exact .snoc ih step

theorem Run.of_step (step : Step refuses c background s history t) :
    Run refuses c background s history t :=
  .snoc .nil step

/-- What happens to the kernel by itself is a run. -/
theorem Run.of_drifts (refuses : WaitRefusals) (c : Command) (background : Bool)
    (stage : LaunchStage) {k k' : Kernel} (h : k.Drifts k') :
    ∃ history, Run refuses c background ⟨stage, k⟩ history ⟨stage, k'⟩ := by
  obtain ⟨facts, drift⟩ := h
  induction drift with
  | refl => exact ⟨[], .nil⟩
  | tail drift move ih =>
      obtain ⟨history, run⟩ := ih
      exact ⟨_, run.snoc (.move stage move)⟩

/-- Only the fork itself tells of a fork. -/
theorem Step.eq_of_forked {incidents : List Incident} {pid : Pid}
    (step : Step refuses c background s incidents t) (h : .forked pid ∈ incidents) :
    incidents = [.forked pid] ∧
      ∃ before k signals, s = ⟨.guarded before, k⟩ ∧ k.holds pid = false ∧
        t = ⟨afterFork background before pid, k.start pid signals⟩ := by
  cases step with
  | fork k before other signals hfree =>
      obtain rfl : pid = other := by simpa using h
      exact ⟨rfl, before, k, signals, rfl, hfree, rfl⟩
  | ensure k before other t hfailed =>
      cases hfound : (k.reap other).1 <;> simp [ofWait, hfound] at h
  | refuse | refuseFork | interrupted | succeed | failWait | wait => simp at h
  | guard | leave | move => simp [mem_recordings] at h

/-- A run is cut at its fork. -/
theorem Run.exists_fork (run : Run refuses c background s history t) {earlier later : List Incident}
    {pid : Pid} (hsplit : history = earlier ++ .forked pid :: later) :
    ∃ before k signals, Run refuses c background s earlier ⟨.guarded before, k⟩ ∧
      k.holds pid = false ∧
        Run refuses c background ⟨afterFork background before pid, k.start pid signals⟩
          later t := by
  induction run generalizing later with
  | nil => simp at hsplit
  | @snoc history incidents t u run step ih =>
      have hlast (hincidents : incidents = .forked pid :: later) (hhistory : history = earlier) :
          ∃ before k signals, Run refuses c background s earlier ⟨.guarded before, k⟩ ∧
            k.holds pid = false ∧
              Run refuses c background ⟨afterFork background before pid, k.start pid signals⟩
                later u := by
        have hfork : .forked pid ∈ incidents := hincidents ▸ List.mem_cons_self
        obtain ⟨hsingle, before, k, signals, rfl, hfree, rfl⟩ := step.eq_of_forked hfork
        obtain rfl : later = [] := by simpa using hincidents.symm.trans hsingle
        exact ⟨before, k, signals, hhistory ▸ run, hfree, .nil⟩
      obtain ⟨front, hearlier, hincidents⟩ | ⟨rest, hhistory, hrest⟩ :=
        List.append_eq_append_iff.1 hsplit
      · have hfork : .forked pid ∈ incidents := by simp [hincidents]
        obtain ⟨hsingle, -⟩ := step.eq_of_forked hfork
        obtain ⟨rfl, -⟩ : front = [] ∧ _ = _ := by
          simpa [List.append_eq_singleton_iff] using hincidents.symm.trans hsingle
        exact hlast hincidents (by rw [hearlier, List.append_nil])
      · cases rest with
        | nil => exact hlast hrest.symm (by rw [hhistory, List.append_nil])
        | cons first rest =>
            obtain ⟨rfl, rfl⟩ : .forked pid = first ∧ later = rest ++ incidents := by
              simpa using hrest
            obtain ⟨before, k, signals, hearlier, hfree, hlater⟩ := ih hhistory
            exact ⟨before, k, signals, hearlier, hfree, hlater.snoc step⟩

end Launching

end JobShell
