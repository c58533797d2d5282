import JobShell.Proofs.Tracking.Basic

/-!
# What may become of a pid

The events of one pid come in a fixed order: a launch, an end, and then the report of a
background child or the outcome of the wait for a foreground child, which says how the child
has ended; after that the pid is free for another launch. `Fate` is how far a pid has come,
and `fate?` reads it off a history, as long as the events of the pid keep to this order.

The events that belong to one launch are those of its pid up to the next launch of the same
pid (`Event.own`). `own_of_fate?` says what they can be.
-/

namespace JobShell

/-- How far a pid has come. -/
inductive Fate where
  /-- It was not launched yet, or all that can be known of its launches is known. -/
  | free
  | running (background : Bool)
  | ended (background : Bool) (status : StatusWord)
deriving DecidableEq, Repr

/-- How far the pid of an event has come by it, unless the event is out of order. -/
def Fate.next? : Fate → Event → Option Fate
  | free, .launched _ background => some (running background)
  | running background, .ended _ status =>
    if (Termination.ofStatus? status).isSome then some (ended background status) else none
  | ended true status, .reported _ t =>
    if Termination.ofStatus? status = some t then some free else none
  | ended false status, .waited _ t =>
    if Termination.ofStatus? status = some t then some free else none
  | _, _ => none

namespace Event

/-- The events of a pid. -/
def about (pid : Pid) (history : List Event) : List Event :=
  history.filter fun event => event.pid == pid

/-- The events of a pid until it is launched again. -/
def own (pid : Pid) (later : List Event) : List Event :=
  (about pid later).takeWhile fun event => !event.isLaunch

/-- The event that makes known how a child has ended. -/
def told (pid : Pid) (background : Bool) (t : Termination) : Event :=
  if background then reported pid t else waited pid t

theorem about_append (pid : Pid) (history later : List Event) :
    about pid (history ++ later) = about pid history ++ about pid later :=
  List.filter_append ..

theorem about_cons_self (event : Event) (later : List Event) :
    about event.pid (event :: later) = event :: about event.pid later := by
  rw [about, List.filter_cons, if_pos (beq_self_eq_true _)]
  rfl

theorem about_cons_of_ne {pid : Pid} {event : Event} (later : List Event)
    (h : event.pid ≠ pid) : about pid (event :: later) = about pid later := by
  rw [about, List.filter_cons, if_neg (by simpa using h)]
  rfl

theorem mem_about {pid : Pid} {history : List Event} {event : Event} :
    event ∈ about pid history ↔ event ∈ history ∧ event.pid = pid := by
  rw [about, List.mem_filter, beq_iff_eq]

end Event

/-- How far a pid has come by its events from some point on. -/
def Fate.follow (fate : Fate) (events : List Event) : Option Fate :=
  events.foldlM Fate.next? fate

/-- How far a pid has come in a history; `none` if its events are out of order. -/
def fate? (pid : Pid) (history : List Event) : Option Fate :=
  Fate.free.follow (Event.about pid history)

theorem Fate.follow_cons (fate : Fate) (event : Event) (events : List Event) :
    fate.follow (event :: events) = (fate.next? event).bind fun fate => fate.follow events := by
  rw [follow, List.foldlM_cons]
  rfl

section Append

variable (history : List Event) (event : Event)

theorem fate?_append (pid : Pid) (later : List Event) :
    fate? pid (history ++ later) =
      (fate? pid history).bind fun fate => fate.follow (Event.about pid later) := by
  rw [fate?, Event.about_append, Fate.follow, List.foldlM_append]
  rfl

theorem fate?_append_self :
    fate? event.pid (history ++ [event]) =
      (fate? event.pid history).bind fun fate => fate.next? event := by
  rw [fate?_append, Event.about_cons_self]
  congr 1
  funext fate
  rw [Fate.follow_cons]
  exact Option.bind_fun_some _

variable {event} in
theorem fate?_append_of_ne {pid : Pid} (h : event.pid ≠ pid) :
    fate? pid (history ++ [event]) = fate? pid history := by
  rw [fate?_append, Event.about_cons_of_ne _ h]
  exact Option.bind_fun_some _

end Append

section Next

variable {event : Event} {fate : Fate}

theorem Fate.isLaunch_of_free (h : free.next? event = some fate) : event.isLaunch = true := by
  cases event with
  | launched => rfl
  | ended | waited | reported => simp [next?] at h

theorem Fate.next?_launched {before : Fate} {pid : Pid} {background : Bool}
    (h : before.next? (.launched pid background) = some fate) : fate = running background := by
  cases before with
  | free => exact (Option.some.inj h).symm
  | running => simp [next?] at h
  | ended other => cases other <;> simp [next?] at h

/-- A running child can only end. -/
theorem Fate.ended_of_running {background : Bool}
    (h : (running background).next? event = some fate) :
    ∃ status, event = .ended event.pid status ∧ fate = ended background status := by
  cases event with
  | launched | waited | reported => simp [next?] at h
  | ended pid status =>
      rw [next?, Option.ite_none_right_eq_some] at h
      exact ⟨status, rfl, (Option.some.inj h.2).symm⟩

/-- Of a child that has ended it can only be told how. -/
theorem Fate.told_of_ended {background : Bool} {status : StatusWord}
    (h : (ended background status).next? event = some fate) :
    ∃ t, event = .told event.pid background t ∧ Termination.ofStatus? status = some t ∧
      fate = free := by
  cases background <;> cases event
  case false.waited pid t | true.reported pid t =>
    rw [next?, Option.ite_none_right_eq_some] at h
    exact ⟨t, rfl, h.1, (Option.some.inj h.2).symm⟩
  all_goals simp [next?] at h

end Next

/-- Only a launched pid has more than launches to come. -/
theorem launched_of_fate? {pid : Pid} {history : List Event} {fate : Fate}
    (h : fate? pid history = some fate) (hfate : fate ≠ .free) :
    ∃ background, .launched pid background ∈ history := by
  rw [fate?] at h
  cases hevents : Event.about pid history with
  | nil =>
      rw [hevents] at h
      exact absurd (Option.some.inj h).symm hfate
  | cons event events =>
      rcases Event.mem_about.1 (hevents ▸ List.mem_cons_self) with ⟨hmem, hpid⟩
      rw [hevents, Fate.follow_cons, Option.bind_eq_some_iff] at h
      obtain ⟨_, hnext, -⟩ := h
      have hlaunch := Fate.isLaunch_of_free hnext
      cases event with
      | launched other background =>
          obtain rfl : other = pid := hpid
          exact ⟨background, hmem⟩
      | ended | waited | reported => exact absurd hlaunch Bool.false_ne_true

/-- What an event says that is no launch is said of a launched pid. -/
theorem launched_before {earlier later : List Event} {event : Event}
    (h : (fate? event.pid (earlier ++ event :: later)).isSome)
    (hevent : event.isLaunch = false) :
    ∃ background, .launched event.pid background ∈ earlier := by
  rw [List.append_cons, fate?_append, fate?_append_self] at h
  rcases Option.isSome_iff_exists.1 (Option.isSome_of_isSome_bind h) with ⟨fate, hnext⟩
  obtain ⟨before, hbefore, hnext⟩ := Option.bind_eq_some_iff.1 hnext
  refine launched_of_fate? hbefore ?_
  rintro rfl
  exact absurd (hevent.symm.trans (Fate.isLaunch_of_free hnext)) Bool.false_ne_true

/-- What comes after a launch of a pid goes on from the running child. -/
theorem follow_of_launched {pid : Pid} {earlier later : List Event} {background : Bool}
    {fate : Fate} (h : fate? pid (earlier ++ .launched pid background :: later) = some fate) :
    (Fate.running background).follow (Event.about pid later) = some fate := by
  rw [List.append_cons, fate?_append, Option.bind_eq_some_iff] at h
  rcases h with ⟨launched, hlaunched, h⟩
  have hself := fate?_append_self earlier (.launched pid background)
  obtain ⟨before, -, hnext⟩ := Option.bind_eq_some_iff.1 (hself.symm.trans hlaunched)
  rwa [Fate.next?_launched hnext] at h

/-- What comes after all is told does not belong to the launch any more. -/
theorem takeWhile_of_free {events : List Event} {fate : Fate}
    (h : Fate.free.follow events = some fate) :
    (events.takeWhile fun event => !event.isLaunch) = [] := by
  cases events with
  | nil => rfl
  | cons event events =>
      rw [Fate.follow_cons, Option.bind_eq_some_iff] at h
      rcases h with ⟨_, hnext, -⟩
      rw [List.takeWhile_cons, Fate.isLaunch_of_free hnext]
      rfl

/-- The own events of a launch are none, or the end of the child, or its end and what is told
of it, which is how it ended. As long as it is not told the pid stays with this launch. -/
theorem own_of_fate? {pid : Pid} {earlier later : List Event} {background : Bool}
    {fate : Fate} (h : fate? pid (earlier ++ .launched pid background :: later) = some fate) :
    (Event.own pid later = [] ∧ fate = .running background) ∨
      (∃ status, Event.own pid later = [.ended pid status] ∧ fate = .ended background status) ∨
      ∃ status t, Event.own pid later = [.ended pid status, .told pid background t] ∧
        Termination.ofStatus? status = some t := by
  have hpid (event : Event) (hevent : event ∈ Event.about pid later) : event.pid = pid :=
    (Event.mem_about.1 hevent).2
  replace h := follow_of_launched h
  rw [Event.own]
  match hevents : Event.about pid later with
  | [] =>
      rw [hevents] at h
      exact Or.inl ⟨rfl, (Option.some.inj h).symm⟩
  | [event] =>
      rw [hevents] at h hpid
      rw [Fate.follow_cons, Option.bind_eq_some_iff] at h
      obtain ⟨ended, hnext, h⟩ := h
      rcases Fate.ended_of_running hnext with ⟨status, hevent, rfl⟩
      rw [hpid event List.mem_cons_self] at hevent
      refine Or.inr (Or.inl ⟨status, ?_, (Option.some.inj h).symm⟩)
      rw [hevent]
      rfl
  | event :: event' :: rest =>
      rw [hevents] at h hpid
      rw [Fate.follow_cons, Option.bind_eq_some_iff] at h
      obtain ⟨ended, hnext, h⟩ := h
      rcases Fate.ended_of_running hnext with ⟨status, hevent, rfl⟩
      rw [Fate.follow_cons, Option.bind_eq_some_iff] at h
      obtain ⟨told, hnext, h⟩ := h
      rcases Fate.told_of_ended hnext with ⟨t, hevent', hstatus, rfl⟩
      rw [hpid event List.mem_cons_self] at hevent
      rw [hpid event' (List.mem_cons_of_mem _ List.mem_cons_self)] at hevent'
      refine Or.inr (Or.inr ⟨status, t, ?_, hstatus⟩)
      have htold : (Event.told pid background t).isLaunch = false := by
        cases background <;> rfl
      rw [hevent, hevent', List.takeWhile_cons_of_pos (by rfl),
        List.takeWhile_cons_of_pos (by rw [htold]; rfl), takeWhile_of_free h]

end JobShell
