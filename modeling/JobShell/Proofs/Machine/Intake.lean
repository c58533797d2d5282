import JobShell.Proofs.Input.Reading
import JobShell.Proofs.Machine.Steady
import Mathlib.Order.Defs.Unbundled

/-!
# What is left of the standard input

The children of the shell share its standard input and may take from what is still to come of it.
`Machine.Leaves` follows a stretch of the machine's life: what is left then stands in a relation
to what there was, provided that each program leaves on its every stretch what stands in this
relation to what it has found (`Course.Leaves`). The relation is a parameter; programs that
leave the input alone and programs that only take from it are two cases. The shell's own buffer
is out of their reach.
-/

namespace JobShell

/-- However a run goes on, what it leaves of the input stands in this relation to what it has
found. -/
inductive Course.Leaves (R : List Bytes → List Bytes → Prop) : Course → List Bytes → Prop where
  | ended {ahead : List Bytes} {r : Effect} {status : StatusWord} (hleft : R ahead r.ahead) :
      Leaves R (.ended r status) ahead
  | asleep {ahead : List Bytes} {r : Effect} {duration : Nat} {resume : Surroundings → Course}
      (hleft : R ahead r.ahead)
      (hresume : ∀ around, Leaves R (resume around) around.ahead) :
      Leaves R (.asleep r duration resume) ahead

def Host.Leaves (R : List Bytes → List Bytes → Prop) (host : Host) : Prop :=
  ∀ e around, (host.run e around).Leaves R around.ahead

def Sleeper.Leaves (R : List Bytes → List Bytes → Prop) (s : Sleeper) : Prop :=
  ∀ around, (s.resume around).Leaves R around.ahead

/-- All bytes that are left were to come before, behind those that were taken. -/
def OnlyTaken (before left : List Bytes) : Prop :=
  left.flatten <:+ before.flatten

instance : IsPreorder (List Bytes) OnlyTaken where
  refl _ := List.suffix_refl _
  trans _ _ _ first second := second.trans first

section Mono

variable {R R' : List Bytes → List Bytes → Prop}
  (hR : ∀ {before left}, R before left → R' before left)
include hR

theorem Course.Leaves.mono {course : Course} {ahead : List Bytes} (h : course.Leaves R ahead) :
    course.Leaves R' ahead := by
  induction h with
  | ended hleft => exact .ended (hR hleft)
  | asleep hleft _ ih => exact .asleep (hR hleft) ih

theorem Host.Leaves.mono {host : Host} (h : host.Leaves R) : host.Leaves R' :=
  fun e around => (h e around).mono hR

end Mono

namespace Machine

/-- One machine has become the other, and what is left of the input stands in this relation to
what there was. -/
structure Leaves (R : List Bytes → List Bytes → Prop) (m m' : Machine) : Prop where
  input : m'.input = { m.input with ahead := m'.input.ahead }
  left : R m.input.ahead m'.input.ahead
  sleepers : ∀ s ∈ m'.sleepers, s ∈ m.sleepers ∨ s.Leaves R

variable {R : List Bytes → List Bytes → Prop} [IsPreorder (List Bytes) R] {m m' m'' : Machine}

theorem Leaves.trans (first : m.Leaves R m') (second : m'.Leaves R m'') : m.Leaves R m'' where
  input := by rw [second.input, first.input]
  left := IsTrans.trans _ _ _ first.left second.left
  sleepers s hs := (second.sleepers s hs).elim (first.sleepers s) Or.inr

/-- What has nothing to do with the input leaves all of it. -/
theorem Leaves.of_input (hinput : m'.input = m.input)
    (hsleepers : ∀ s ∈ m'.sleepers, s ∈ m.sleepers) : m.Leaves R m' where
  input := by rw [hinput]
  left := hinput ▸ Std.Refl.refl _
  sleepers s hs := Or.inl (hsleepers s hs)

theorem Leaves.refl (m : Machine) : m.Leaves R m :=
  .of_input rfl fun _ hs => hs

/-- Whoever sleeps on the machine will leave what stands in this relation to what it finds. -/
def SleepersLeave (R : List Bytes → List Bytes → Prop) (m : Machine) : Prop :=
  ∀ s ∈ m.sleepers, s.Leaves R

omit [IsPreorder (List Bytes) R] in
theorem SleepersLeave.of_leaves (h : m.SleepersLeave R) (hleaves : m.Leaves R m') :
    m'.SleepersLeave R :=
  fun s hs => (hleaves.sleepers s hs).elim (h s) id

omit [IsPreorder (List Bytes) R] in
theorem SleepersLeave.mono {R' : List Bytes → List Bytes → Prop}
    (hR : ∀ {before left}, R before left → R' before left) (h : m.SleepersLeave R) :
    m.SleepersLeave R' :=
  fun s hs around => (h s hs around).mono hR

/-- Where the input is only taken from, less and less can be handed on. -/
theorem Leaves.remaining_le (h : m.Leaves OnlyTaken m') :
    m'.input.remaining ≤ m.input.remaining := by
  have hleft := h.left.length_le
  rw [h.input]
  simp only [ByteReader.remaining, ByteReader.upcoming_eq]
  omega

omit [IsPreorder (List Bytes) R] in
theorem Leaves.input_eq (h : m.Leaves Eq m') : m'.input = m.input := by
  rw [h.input, ← h.left]

section Pause

theorem foldl_receive_leaves (m : Machine) (events : List Arrival) :
    m.Leaves R (events.foldl receive m) := by
  rw [foldl_receive_eq]
  exact .of_input rfl fun _ hs => hs

theorem pause_leaves (m : Machine) : m.Leaves R m.pause := by
  rw [pause]
  split
  · exact .refl m
  · next events later _ =>
      have hmet : m.Leaves R { m with outside := { m.outside with arrivals := later } } :=
        .of_input rfl fun _ hs => hs
      exact hmet.trans (foldl_receive_leaves _ events)

end Pause

section Course

theorem foldl_deliver_leaves (m : Machine) (signals : List (Pid × Nat)) :
    m.Leaves R (signals.foldl deliver m) := by
  induction signals generalizing m with
  | nil => exact .refl m
  | cons signal signals ih =>
      have hfirst : m.Leaves R (m.deliver signal) := .of_input rfl fun _ hs => hs
      exact hfirst.trans (ih _)

theorem addErrors_leaves (m : Machine) (pid : Pid) (bytes : Bytes) :
    m.Leaves R (m.addErrors pid bytes) := by
  rw [addErrors]
  split <;> exact .of_input rfl fun _ hs => hs

/-- After a stretch of a run there is what the program has left. -/
theorem absorb_leaves (m : Machine) (pid : Pid) {r : Effect} (h : R m.input.ahead r.ahead) :
    m.Leaves R (m.absorb pid r) := by
  have htaken : m.Leaves R { m with
      files := r.files
      input := { m.input with ahead := r.ahead }
      output := m.output ++ r.output
      kernel := m.kernel.updateChild pid fun c => { c with arranged := r.arranged } } :=
    ⟨rfl, h, fun _ hs => Or.inl hs⟩
  exact (htaken.trans (addErrors_leaves _ pid r.errors)).trans (foldl_deliver_leaves _ r.sent)

theorem proceed_leaves (m : Machine) (pid : Pid) {course : Course}
    (h : course.Leaves R m.input.ahead) : m.Leaves R (m.proceed pid course) := by
  cases h with
  | ended hleft => exact (m.absorb_leaves pid hleft).trans (.of_input rfl fun _ hs => hs)
  | asleep hleft hresume =>
      refine (m.absorb_leaves pid hleft).trans ⟨rfl, Std.Refl.refl _, fun s hs => ?_⟩
      cases mem_insertSleeper.1 hs with
      | inl hnew => exact Or.inr (hnew ▸ hresume)
      | inr hold => exact Or.inl hold

theorem handOver_leaves (m : Machine) (pid : Pid) : m.Leaves R (m.handOver pid) :=
  .of_input rfl fun _ hs => hs

theorem wake_leaves (m : Machine) {s : Sleeper} (h : s.Leaves R) : m.Leaves R (m.wake s) := by
  rw [wake]
  split
  · exact (m.handOver_leaves s.pid).trans (proceed_leaves _ s.pid (h _))
  · exact .refl m

theorem advanceWith_leaves (h : m.SleepersLeave R) (turns time : Nat) :
    m.Leaves R (advanceWith turns m time) := by
  induction turns generalizing m with
  | zero => exact .of_input rfl fun _ hs => hs
  | succ turns ih =>
      rw [advanceWith]
      split
      · exact .of_input rfl fun _ hs => hs
      · next s sleepers htake =>
          obtain ⟨hmem, hsub⟩ := takeDue_eq_some htake
          have hrest : m.Leaves R { m with sleepers, now := max m.now s.due } :=
            .of_input rfl hsub
          have hwake := hrest.trans (wake_leaves _ (h s hmem))
          exact hwake.trans (ih (h.of_leaves hwake))

theorem advanceTo_leaves (h : m.SleepersLeave R) (time : Nat) : m.Leaves R (m.advanceTo time) :=
  advanceWith_leaves h _ time

theorem sleepUntil_leaves (h : m.SleepersLeave R) (pid : Pid) (time : Nat) :
    m.Leaves R (m.sleepUntil pid time) := by
  refine sleepUntil_preserves (P := m.Leaves R) (fun m' time hleaves => ?_)
    (fun m' hleaves => ?_) (.refl m) time
  · exact hleaves.trans (advanceTo_leaves (h.of_leaves hleaves) time)
  · exact hleaves.trans (.of_input rfl fun _ hs => hs)

theorem follow_leaves (hm : m.SleepersLeave R) (pid : Pid) {course : Course}
    (h : course.Leaves R m.input.ahead) : m.Leaves R (m.follow pid course) := by
  induction course generalizing m with
  | ended r status => exact proceed_leaves m pid h
  | asleep r duration resume ih =>
      obtain ⟨hleft, hresume⟩ : R m.input.ahead r.ahead ∧
          ∀ around, (resume around).Leaves R around.ahead := by
        cases h with
        | asleep hleft hresume => exact ⟨hleft, hresume⟩
      have habsorb := m.absorb_leaves pid hleft
      have hslept := habsorb.trans
        (sleepUntil_leaves (hm.of_leaves habsorb) pid ((m.absorb pid r).wakeTime duration))
      rw [follow]
      split
      · have hover := hslept.trans (handOver_leaves _ pid)
        exact hover.trans (ih _ (hm.of_leaves hover) (hresume _))
      · exact hslept

theorem awaitEnd_leaves (h : m.SleepersLeave R) (pid : Pid) : m.Leaves R (m.awaitEnd pid) := by
  rw [awaitEnd]
  split
  · next s hrunning hfind =>
      have hother : m.Leaves R { m with sleepers := m.sleepers.filter fun t => t.pid != pid } :=
        .of_input rfl fun t ht => (List.mem_filter.1 ht).1
      have hpassed := hother.trans (sleepUntil_leaves (h.of_leaves hother) pid s.due)
      dsimp only
      split
      · have hover := hpassed.trans (handOver_leaves _ pid)
        exact hover.trans (follow_leaves (h.of_leaves hover) pid
          (h s (List.mem_of_find?_eq_some hfind) _))
      · exact hpassed
  · exact .refl m

end Course

section Launch

theorem fork_leaves (m : Machine) : m.Leaves R m.fork.2 := by
  rw [fork]
  split
  · exact .of_input rfl fun _ hs => hs
  · exact .of_input rfl fun _ hs => hs
  · dsimp only
    split <;> exact .of_input rfl fun _ hs => hs

theorem waitWith_leaves (m : Machine) (pid : Pid) (errors : List Errno) :
    m.Leaves R (m.waitWith pid errors).2 := by
  induction errors with
  | nil =>
      rw [waitWith]
      split
      · exact .refl m
      · exact .of_input rfl fun _ hs => hs
  | cons e errors ih =>
      cases e with
      | interrupted => exact ih
      | _ => exact .of_input rfl fun _ hs => hs

theorem waitForeground_leaves (h : m.SleepersLeave R) (pid : Pid) :
    m.Leaves R (m.waitForeground pid).2 := by
  have hpaused : m.Leaves R m.pause := m.pause_leaves
  have hended := hpaused.trans (awaitEnd_leaves (h.of_leaves hpaused) pid)
  rw [waitForeground]
  generalize m.pause.awaitEnd pid = ended at hended ⊢
  have hcleared : ended.Leaves R
      { ended with outside := { ended.outside with waitErrors := [] } } :=
    .of_input rfl fun _ hs => hs
  have hwaited := hended.trans
    (hcleared.trans (waitWith_leaves _ pid ended.outside.waitErrors))
  dsimp only
  split
  · next t found hwait =>
      rw [hwait] at hwaited
      dsimp only
      split
      · exact hwaited
      · exact hwaited.trans (.of_input rfl fun _ hs => hs)
  · exact hwaited

theorem attend_leaves (h : m.SleepersLeave R) (pid : Pid) (background : Bool)
    (before : SignalSet) :
    m.Leaves R (m.attend pid background before).2 := by
  rw [attend]
  split
  · exact .of_input rfl fun _ hs => hs
  · have hwait := waitForeground_leaves h pid
    split
    · next hanswer =>
        rw [hanswer] at hwait
        exact hwait.trans (.of_input rfl fun _ hs => hs)
    · next hanswer =>
        rw [hanswer] at hwait
        exact hwait.trans (.of_input rfl fun _ hs => hs)

variable {host : Host} (hhost : host.Leaves R)
include hhost

theorem runChild_leaves (m : Machine) (image : ChildImage) (pid : Pid) (mask : SignalSet) :
    m.Leaves R (m.runChild host image pid mask) := by
  have hstart : m.Leaves R
      (m.mapKernel fun k => k.start pid (.forChild (!image.background) mask)) :=
    .of_input rfl fun _ hs => hs
  rw [runChild]
  split
  · exact .of_input rfl fun _ hs => hs
  · next e files hsetUp =>
      exact (hstart.trans (.of_input rfl fun _ hs => hs)).trans
        (proceed_leaves _ e.pid (hhost e _))

theorem launchImage_leaves (h : m.SleepersLeave R) (c : Command) (image : ChildImage)
    (background : Bool) (before : SignalSet) :
    m.Leaves R (m.launchImage host c image background before).2 := by
  have hfork : m.Leaves R m.fork.2 := fork_leaves m
  rw [launchImage]
  split
  · next e m' heq =>
      rw [heq] at hfork
      exact hfork.trans (.of_input rfl fun _ hs => hs)
  · next pid m' heq =>
      rw [heq] at hfork
      have hrun := (hfork.trans (runChild_leaves hhost m' image pid before)).trans
        (pause_leaves _)
      exact hrun.trans (attend_leaves (h.of_leaves hrun) pid background before)

/-- Whatever becomes of a launch, the input is left by what runs in the meantime. -/
theorem spawn_leaves (h : m.SleepersLeave R) (c : Command) (background : Bool) :
    m.Leaves R (m.spawn host c background).2 := by
  rw [spawn_eq]
  split
  · exact .refl m
  · next image _ =>
      have hblocked : m.Leaves R (m.mapKernel fun k => k.setChildBlocked true) :=
        .of_input rfl fun _ hs => hs
      have hpause := hblocked.trans (pause_leaves _)
      exact hpause.trans (launchImage_leaves hhost (h.of_leaves hpause) c image background _)

end Launch

end Machine

end JobShell
