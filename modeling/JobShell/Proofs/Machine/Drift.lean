import JobShell.Proofs.Kernel.Move
import JobShell.System.Machine

/-!
# What happens on the machine by itself

While the shell is at a pause, lets time pass or waits for a child, programs run, end and send
one another signals. To the kernel none of this is more than moves (`Machine.Drifts`), provided
that programs and the outside end children by ends only: a child that is merely stopped is not
collected. `Course.Ends`, `Host.Ends` and `Machine.Orderly` say this of a run, of what is
installed and of what is still to come.

A child that was waited for no longer runs (`Machine.isRunning_awaitEnd`).
-/

namespace JobShell

/-- However a run goes on, it ends by an end. -/
inductive Course.Ends : Course → Prop where
  | ended {r : Effect} {status : StatusWord} (hend : (Termination.ofStatus? status).isSome) :
      Ends (.ended r status)
  | asleep {r : Effect} {duration : Nat} {resume : Surroundings → Course}
      (hresume : ∀ around, Ends (resume around)) : Ends (.asleep r duration resume)

/-- All programs end by an end. -/
def Host.Ends (host : Host) : Prop :=
  ∀ e around, (host.run e around).Ends

/-- However a sleeper goes on, it ends by an end. -/
def Sleeper.Ends (s : Sleeper) : Prop :=
  ∀ around, (s.resume around).Ends

/-- An arrival that ends a child ends it by an end. -/
def Arrival.Ends : Arrival → Prop
  | childEnds _ status => (Termination.ofStatus? status).isSome
  | stop => True
  | childSignal => True

namespace Machine

/-- The handler is installed, and whatever is still to come ends children by ends only and at
most interrupts a wait. -/
structure Orderly (m : Machine) : Prop where
  handler : m.kernel.signals.child = .handler
  known : m.kernel.Known
  sleepers : ∀ s ∈ m.sleepers, s.Ends
  arrivals : ∀ events ∈ m.outside.arrivals, ∀ a ∈ events, Arrival.Ends a
  waits : ∀ e ∈ m.outside.waitErrors, e = .interrupted

/-- The machine can have become another one by itself. -/
structure Drifts (m m' : Machine) : Prop where
  kernel : m.kernel.Drifts m'.kernel
  sleepers : ∀ s ∈ m'.sleepers, s ∈ m.sleepers ∨ s.Ends
  arrivals : ∀ events ∈ m'.outside.arrivals, events ∈ m.outside.arrivals
  waits : ∀ e ∈ m'.outside.waitErrors, e ∈ m.outside.waitErrors

variable {m m' m'' : Machine}

theorem Drifts.refl (m : Machine) : m.Drifts m where
  kernel := .refl _
  sleepers _ hs := Or.inl hs
  arrivals _ hevents := hevents
  waits _ he := he

theorem Drifts.trans (first : m.Drifts m') (second : m'.Drifts m'') : m.Drifts m'' where
  kernel := first.kernel.trans second.kernel
  sleepers s hs := (second.sleepers s hs).elim (first.sleepers s) Or.inr
  arrivals events hevents := first.arrivals events (second.arrivals events hevents)
  waits e he := first.waits e (second.waits e he)

theorem Drifts.of_kernel (hkernel : m.kernel.Drifts m'.kernel)
    (hsleepers : m'.sleepers = m.sleepers) (houtside : m'.outside = m.outside) :
    m.Drifts m' where
  kernel := hkernel
  sleepers _ hs := Or.inl (hsleepers ▸ hs)
  arrivals _ hevents := houtside ▸ hevents
  waits _ he := houtside ▸ he

theorem Orderly.of_drifts (h : m.Orderly) (hdrifts : m.Drifts m') : m'.Orderly where
  handler := by rw [hdrifts.kernel.signals_eq, h.handler]
  known := hdrifts.kernel.known h.known
  sleepers s hs := (hdrifts.sleepers s hs).elim (h.sleepers s) id
  arrivals events hevents := h.arrivals events (hdrifts.arrivals events hevents)
  waits e he := h.waits e (hdrifts.waits e he)

section Pause

theorem receive_drifts (h : m.Orderly) {a : Arrival} (ha : a.Ends) :
    m.Drifts (m.receive a) := by
  cases a with
  | childEnds pid status =>
      exact .of_kernel (Kernel.endChild_drifts h.handler pid ha) rfl rfl
  | stop => exact .of_kernel (.of_move (.stop m.kernel)) rfl rfl
  | childSignal => exact .of_kernel (.of_move (.signal m.kernel)) rfl rfl

theorem foldl_receive_drifts (h : m.Orderly) {events : List Arrival}
    (hevents : ∀ a ∈ events, a.Ends) : m.Drifts (events.foldl receive m) := by
  induction events generalizing m with
  | nil => exact .refl m
  | cons a events ih =>
      have hfirst := receive_drifts h (hevents a List.mem_cons_self)
      exact hfirst.trans (ih (h.of_drifts hfirst) fun b hb =>
        hevents b (List.mem_cons_of_mem _ hb))

theorem pause_drifts (h : m.Orderly) : m.Drifts m.pause := by
  rw [pause]
  split
  · exact .refl m
  · next events later harrivals =>
      have hsplit : m.Drifts { m with outside := { m.outside with arrivals := later } } :=
        ⟨.refl _, fun _ hs => Or.inl hs, fun events hevents => by
          rw [harrivals]
          exact List.mem_cons_of_mem _ hevents, fun _ he => he⟩
      refine hsplit.trans (foldl_receive_drifts (h.of_drifts hsplit) ?_)
      exact h.arrivals events (harrivals ▸ List.mem_cons_self)

end Pause

section Course

theorem deliver_drifts (h : m.Orderly) (signal : Pid × Nat) : m.Drifts (m.deliver signal) := by
  refine .of_kernel ?_ rfl rfl
  rw [deliver, mapKernel]
  split
  · exact Kernel.signalShell_drifts signal.2
  · exact Kernel.signalChild_drifts h.handler h.known signal.1 signal.2

theorem foldl_deliver_drifts (h : m.Orderly) (signals : List (Pid × Nat)) :
    m.Drifts (signals.foldl deliver m) := by
  induction signals generalizing m with
  | nil => exact .refl m
  | cons signal signals ih =>
      have hfirst := deliver_drifts h signal
      exact hfirst.trans (ih (h.of_drifts hfirst))

theorem addErrors_drifts (m : Machine) (pid : Pid) (bytes : Bytes) :
    m.Drifts (m.addErrors pid bytes) := by
  rw [addErrors]
  split <;> exact .of_kernel (.refl _) rfl rfl

theorem absorb_drifts (h : m.Orderly) (pid : Pid) (r : Effect) :
    m.Drifts (m.absorb pid r) := by
  have harranged := Kernel.updateChild_drifts (k := m.kernel) pid
    (fun c => { c with arranged := r.arranged }) (fun _ => rfl) (fun _ => rfl) (fun _ => rfl)
  have hfirst : m.Drifts { m with
      files := r.files
      input := { m.input with ahead := r.ahead }
      output := m.output ++ r.output
      kernel := m.kernel.updateChild pid fun c => { c with arranged := r.arranged } } :=
    .of_kernel harranged rfl rfl
  have hsecond := hfirst.trans (addErrors_drifts _ pid r.errors)
  exact hsecond.trans (foldl_deliver_drifts (h.of_drifts hsecond) r.sent)

theorem mem_insertSleeper {s t : Sleeper} {ss : List Sleeper} :
    t ∈ insertSleeper s ss ↔ t = s ∨ t ∈ ss := by
  induction ss with
  | nil => simp [insertSleeper]
  | cons u ss ih =>
      rw [insertSleeper]
      split
      · exact List.mem_cons
      · rw [List.mem_cons, ih, List.mem_cons]
        exact or_left_comm

theorem proceed_drifts (h : m.Orderly) (pid : Pid) {course : Course} (hcourse : course.Ends) :
    m.Drifts (m.proceed pid course) := by
  cases hcourse with
  | ended hend =>
      rename_i r status
      have hfirst := absorb_drifts h pid r
      have hended := Kernel.endChild_drifts (h.of_drifts hfirst).handler pid hend
      exact hfirst.trans (.of_kernel hended rfl rfl)
  | asleep hresume =>
      rename_i r duration resume
      refine (absorb_drifts h pid r).trans ⟨.refl _, fun s hs => ?_, fun _ hevents => hevents,
        fun _ he => he⟩
      cases mem_insertSleeper.1 hs with
      | inl hnew => exact Or.inr (hnew ▸ hresume)
      | inr hold => exact Or.inl hold

theorem handOver_drifts (m : Machine) (pid : Pid) : m.Drifts (m.handOver pid) := by
  refine .of_kernel (Kernel.updateChild_drifts pid _ ?_ ?_ ?_) rfl rfl <;> exact fun _ => rfl

theorem wake_drifts (h : m.Orderly) {s : Sleeper} (hs : s.Ends) : m.Drifts (m.wake s) := by
  rw [wake]
  split
  · have hfirst := handOver_drifts m s.pid
    exact hfirst.trans (proceed_drifts (h.of_drifts hfirst) s.pid (hs _))
  · exact .refl m

theorem takeDue_eq_some {k : Kernel} {time : Nat} {ss left : List Sleeper} {s : Sleeper}
    (h : takeDue k time ss = some (s, left)) : s ∈ ss ∧ ∀ t ∈ left, t ∈ ss := by
  induction ss generalizing left with
  | nil => cases h
  | cons u ss ih =>
      rw [takeDue] at h
      split at h
      · cases h
        exact ⟨List.mem_cons_self, fun t ht => List.mem_cons_of_mem _ ht⟩
      · rw [Option.map_eq_some_iff] at h
        rcases h with ⟨⟨v, vs⟩, htake, heq⟩
        cases heq
        obtain ⟨hmem, hsub⟩ := ih htake
        refine ⟨List.mem_cons_of_mem _ hmem, fun t ht => ?_⟩
        cases List.mem_cons.1 ht with
        | inl hhead => exact hhead ▸ List.mem_cons_self
        | inr htail => exact List.mem_cons_of_mem _ (hsub t htail)

theorem advanceWith_drifts (h : m.Orderly) (turns time : Nat) :
    m.Drifts (advanceWith turns m time) := by
  induction turns generalizing m with
  | zero => exact .of_kernel (.refl _) rfl rfl
  | succ turns ih =>
      rw [advanceWith]
      split
      · exact .of_kernel (.refl _) rfl rfl
      · next s sleepers htake =>
          rcases takeDue_eq_some htake with ⟨hmem, hsub⟩
          have hrest : m.Drifts { m with sleepers, now := max m.now s.due } :=
            ⟨.refl _, fun t ht => Or.inl (hsub t ht), fun _ hevents => hevents, fun _ he => he⟩
          have hwake := hrest.trans (wake_drifts (h.of_drifts hrest) (h.sleepers s hmem))
          exact hwake.trans (ih (h.of_drifts hwake))

theorem advanceTo_drifts (h : m.Orderly) (time : Nat) : m.Drifts (m.advanceTo time) :=
  advanceWith_drifts h _ time

/-- What the passing of time and a child that is made to go on leave as it is, still holds when
a child wakes. -/
theorem sleepUntil_preserves {P : Machine → Prop} {pid : Pid}
    (hadvance : ∀ m time, P m → P (m.advanceTo time))
    (hresume : ∀ m : Machine, P m → P (m.mapKernel fun k => k.signalChild pid Signal.resume))
    (h : P m) (time : Nat) : P (m.sleepUntil pid time) := by
  have hothers (dues : List Nat) {m : Machine} (h : P m) : P (dues.foldl
      (fun m due => if m.kernel.isStopped pid then m.advanceTo due else m) m) := by
    induction dues generalizing m with
    | nil => exact h
    | cons due dues ih =>
        refine ih ?_
        dsimp only
        split
        · exact hadvance m due h
        · exact h
  have hpassed := hothers ((m.advanceTo time).sleepers.map Sleeper.due) (hadvance m time h)
  rw [sleepUntil, outlastStop]
  split
  · exact hresume _ hpassed
  · exact hpassed

theorem sleepUntil_drifts (h : m.Orderly) (pid : Pid) (time : Nat) :
    m.Drifts (m.sleepUntil pid time) := by
  refine sleepUntil_preserves (P := m.Drifts) (fun m' time hdrifts => ?_) (fun m' hdrifts => ?_)
    (.refl m) time
  · exact hdrifts.trans (advanceTo_drifts (h.of_drifts hdrifts) time)
  · have horderly := h.of_drifts hdrifts
    have hresume := Kernel.signalChild_drifts horderly.handler horderly.known pid Signal.resume
    exact hdrifts.trans (.of_kernel hresume rfl rfl)

/-- A child runs up to its next sleep, and the time of the sleep passes. -/
theorem sleep_drifts (h : m.Orderly) (pid : Pid) (r : Effect) (duration : Nat) :
    m.Drifts ((m.absorb pid r).sleepUntil pid ((m.absorb pid r).wakeTime duration)) := by
  have habsorb := absorb_drifts h pid r
  exact habsorb.trans (sleepUntil_drifts (h.of_drifts habsorb) pid _)

/-- Time passes while one child is put off. -/
theorem putOff_drifts (h : m.Orderly) (pid : Pid) (time : Nat) :
    m.Drifts ({ m with sleepers := m.sleepers.filter fun t => t.pid != pid }.sleepUntil pid
      time) := by
  have hrest : m.Drifts { m with sleepers := m.sleepers.filter fun t => t.pid != pid } :=
    ⟨.refl _, fun t ht => Or.inl (List.mem_filter.1 ht).1, fun _ hevents => hevents,
      fun _ he => he⟩
  exact hrest.trans (sleepUntil_drifts (h.of_drifts hrest) pid time)

theorem follow_drifts (h : m.Orderly) (pid : Pid) {course : Course} (hcourse : course.Ends) :
    m.Drifts (m.follow pid course) := by
  -- the machine is another one at every stretch, the rest of the run ends all the same
  induction hcourse generalizing m with
  | ended hend => exact proceed_drifts h pid (.ended hend)
  | asleep hresume ih =>
      rename_i r duration resume
      have hsleep := sleep_drifts h pid r duration
      rw [follow]
      split
      · have hover := hsleep.trans (handOver_drifts _ pid)
        exact hover.trans (ih _ (h.of_drifts hover))
      · exact hsleep

theorem awaitEnd_drifts (h : m.Orderly) (pid : Pid) : m.Drifts (m.awaitEnd pid) := by
  rw [awaitEnd]
  split
  · next s hrunning hfind =>
      have hs := h.sleepers s (List.mem_of_find?_eq_some hfind)
      have hother := putOff_drifts h pid s.due
      dsimp only
      split
      · have hover := hother.trans (handOver_drifts _ pid)
        exact hover.trans (follow_drifts (h.of_drifts hover) pid (hs _))
      · exact hother
  · exact .refl m

end Course

section Ended

theorem isRunning_proceed_ended (h : m.Orderly) (pid : Pid) (r : Effect) (status : StatusWord) :
    (m.proceed pid (.ended r status)).kernel.isRunning pid = false :=
  Kernel.isRunning_endChild (h.of_drifts (absorb_drifts h pid r)).handler pid status

/-- A run that is followed has come to its end. -/
theorem isRunning_follow (h : m.Orderly) (pid : Pid) {course : Course} (hcourse : course.Ends) :
    (m.follow pid course).kernel.isRunning pid = false := by
  induction hcourse generalizing m with
  | ended hend => exact isRunning_proceed_ended h pid _ _
  | asleep hresume ih =>
      rename_i r duration resume
      rw [follow]
      split
      · have hover := (sleep_drifts h pid r duration).trans (handOver_drifts _ pid)
        exact ih _ (h.of_drifts hover)
      · next hended => exact Bool.eq_false_iff.2 hended

/-- A child that runs only as long as it sleeps has ended when it was waited for. -/
theorem isRunning_awaitEnd (h : m.Orderly) (pid : Pid)
    (hsleeper : m.kernel.isRunning pid = true → ∃ s ∈ m.sleepers, s.pid = pid) :
    (m.awaitEnd pid).kernel.isRunning pid = false := by
  rw [awaitEnd]
  split
  · next s hrunning hfind =>
      have hs := h.sleepers s (List.mem_of_find?_eq_some hfind)
      dsimp only
      split
      · have hover := (putOff_drifts h pid s.due).trans (handOver_drifts _ pid)
        exact isRunning_follow (h.of_drifts hover) pid (hs _)
      · next hended => exact Bool.eq_false_iff.2 hended
  · next hnone =>
      rw [Bool.eq_false_iff]
      intro hrunning
      obtain ⟨s, hs, hpid⟩ := hsleeper hrunning
      cases hfind : m.sleepers.find? fun s => s.pid == pid with
      | none => exact absurd (beq_iff_eq.2 hpid) (List.find?_eq_none.1 hfind s hs)
      | some t => exact hnone t hrunning hfind

end Ended

end Machine

end JobShell
