import JobShell.Proofs.Machine.Alike
import Mathlib.Data.List.Induction

/-!
# Terminal stops that come first

A terminal stop touches the mode only, and nothing else that arrives at a pause looks at the mode.
So the events of a pause may be parted, with some of its stops in front (`Machine.Parts`): a machine
that has met these in advance (`Machine.ahead`) comes to the same at the pause
(`Machine.pause_ahead`).
-/

namespace JobShell

namespace Kernel

variable (k : Kernel)

/-- Whatever becomes of children, the mode plays no part in it. -/
theorem raiseChild_mode (mode : ModeSwitch) :
    { k with mode }.raiseChild = { k.raiseChild with mode } := by
  rw [raiseChild, raiseChild, deliverChild, deliverChild]
  split
  · rfl
  · split <;> rfl

theorem endChild_mode (pid : Pid) (status : StatusWord) (mode : ModeSwitch) :
    { k with mode }.endChild pid status = { k.endChild pid status with mode } := by
  rw [endChild, endChild, isRunning, isRunning]
  dsimp only
  split
  · rfl
  · split
    · rfl
    · exact raiseChild_mode { k with children := markEnded pid status k.children } mode

theorem mode_raiseChild : k.raiseChild.mode = k.mode :=
  (congrArg Kernel.mode (k.raiseChild_mode k.mode) :)

theorem mode_endChild (pid : Pid) (status : StatusWord) :
    (k.endChild pid status).mode = k.mode :=
  (congrArg Kernel.mode (k.endChild_mode pid status k.mode) :)

theorem stop_raiseChild : k.stop.raiseChild = k.raiseChild.stop := by
  rw [stop, stop, k.raiseChild_steady.stop, mode_raiseChild]
  split
  · exact k.raiseChild_mode _
  · rfl

theorem stop_endChild (pid : Pid) (status : StatusWord) :
    k.stop.endChild pid status = (k.endChild pid status).stop := by
  rw [stop, stop, (k.endChild_steady pid status).stop, mode_endChild]
  split
  · exact k.endChild_mode pid status _
  · rfl

end Kernel

namespace Machine

/-- The terminal stops among the events. -/
def stopsOf (events : List Arrival) : List Arrival :=
  events.filter (· = .stop)

/-- The events that are no terminal stops. -/
def besidesStops (events : List Arrival) : List Arrival :=
  events.filter (· ≠ .stop)

/-- The machine with something else to arrive. -/
def awaiting (m : Machine) (arrivals : Schedule) : Machine :=
  { m with outside := { m.outside with arrivals } }

/-- Terminal stops, and then the rest: of the events, these are the same stops, and the same others
in the same order. -/
structure Parts (front rest events : List Arrival) : Prop where
  only : ∀ a ∈ front, a = .stop
  stops : stopsOf events = front ++ stopsOf rest
  others : besidesStops events = besidesStops rest

/-- The machine has met these events of the next pause, and the rest of them is still to come. -/
def ahead (m : Machine) (front rest : List Arrival) : Machine :=
  (front.foldl receive m).awaiting (rest :: m.outside.arrivals.tail)

variable (m : Machine) (events : List Arrival)

theorem foldl_receive_awaiting (arrivals : Schedule) :
    events.foldl receive (m.awaiting arrivals) = (events.foldl receive m).awaiting arrivals :=
  List.foldl_hom (fun m => awaiting m arrivals) fun m a => by cases a <;> rfl

theorem pause_eq_awaiting :
    m.pause =
      ((m.outside.arrivals.headD []).foldl receive m).awaiting m.outside.arrivals.tail :=
  m.pause_eq_foldl.trans (m.foldl_receive_awaiting _ _)

theorem receive_stop_comm (a : Arrival) :
    (m.receive .stop).receive a = (m.receive a).receive .stop := by
  cases a with
  | childEnds pid status =>
      exact congrArg (fun kernel => { m with kernel }) (m.kernel.stop_endChild pid status)
  | stop => rfl
  | childSignal => exact congrArg (fun kernel => { m with kernel }) m.kernel.stop_raiseChild

/-- The events come to the same if the stops among them come first. -/
theorem foldl_receive_stopsOf :
    (besidesStops events).foldl receive ((stopsOf events).foldl receive m) =
      events.foldl receive m := by
  induction events using List.reverseRecOn with
  | nil => rfl
  | append_singleton events a ih =>
      rw [besidesStops, stopsOf] at ih
      rw [besidesStops, stopsOf, List.filter_append, List.filter_append, List.foldl_append,
        List.foldl_append, List.foldl_append, ← ih]
      by_cases ha : a = .stop
      · -- the last stop moves in front of all that are none
        subst ha
        exact List.foldl_hom (fun m => receive m .stop) fun m a => m.receive_stop_comm a
      · have hstops : [a].filter (· = .stop) = [] := by simp [ha]
        have hbesides : [a].filter (· ≠ .stop) = [a] := by simp [ha]
        rw [hstops, hbesides]
        rfl

variable {m events} {front rest : List Arrival}

/-- Where no stop is among them, the events leave the mode as it is. -/
theorem mode_foldl_receive (hstop : .stop ∉ events) (m : Machine) :
    (events.foldl receive m).kernel.mode = m.kernel.mode := by
  refine List.foldlRecOn (motive := fun m' => m'.kernel.mode = m.kernel.mode) _ receive rfl ?_
  intro m' h a ha
  cases a with
  | childEnds pid status => exact (m'.kernel.mode_endChild pid status).trans h
  | stop => exact absurd ha hstop
  | childSignal => exact m'.kernel.mode_raiseChild.trans h

/-- Parted events come to the same. -/
theorem Parts.foldl_receive (h : Parts front rest events) (m : Machine) :
    rest.foldl receive (front.foldl receive m) = events.foldl receive m := by
  rw [← m.foldl_receive_stopsOf events, h.stops, h.others, List.foldl_append,
    foldl_receive_stopsOf]

section Alike

variable {R R' : Schedule → Schedule → Prop} {m' : Machine}

theorem Alike.awaiting (h : m.Alike R m') {arrivals arrivals' : Schedule}
    (harrivals : R' arrivals arrivals') :
    (m.awaiting arrivals).Alike R' (m'.awaiting arrivals') := by
  obtain ⟨kernel, -, hkernel, -, rfl⟩ := h
  exact ⟨kernel, arrivals', hkernel, harrivals, rfl⟩

/-- A pause that meets some events only comes to the same as meeting them in advance. -/
theorem Alike.ahead (h : m.Alike R m') (hfront : m'.outside.arrivals.headD [] = front)
    (hlater : R' (rest :: m.outside.arrivals.tail) m'.outside.arrivals.tail) :
    (m.ahead front rest).Alike R' m'.pause := by
  rw [Machine.ahead, pause_eq_awaiting m', hfront]
  exact (h.foldl_receive _).awaiting hlater

end Alike

end Machine

end JobShell
