import JobShell.Proofs.Machine.StopsFirst
import JobShell.Proofs.Shell.Alike

/-!
# Lines and how they are handed over

Before each line the shell reports and announces, and so it does before it finds that there are
no more lines. Lines that are handed over in two parts are the same lines with one such round
more between the parts (`Shell.executeLines_listed`), and so are lines among which a blank one or
a comment is put. A round before which nothing has arrived finds nothing to report and nothing to
announce: what is left of it is a log in another representation
(`Shell.Alike.greet_greet`, `Shell.Alike.greet_pause_greet`).

A round before which a child has ended reports it, so a child that ends between the two rounds is
reported before the first line of the second part, and behind it where the lines are not cut
(`Shell.output_depends_on_cut`).
-/

namespace JobShell

namespace ModeSwitch

end ModeSwitch

namespace Machine

end Machine

namespace Schedule

/-- The same arrives at every pause. -/
def Same (a b : Schedule) : Prop :=
  a.headD [] = b.headD [] ∧ a.tail = b.tail

/-- Nothing arrives at the first `n` pauses of the second schedule, and then what the first one
holds. -/
def Delayed (n : Nat) (a b : Schedule) : Prop :=
  Same a (b.drop n) ∧ ∀ events ∈ b.take n, events = []

/-- What arrives at the next pause of the first schedule is parted in the second one, with two
pauses with nothing between the parts. -/
def Parting (front rest : List Arrival) (a b : Schedule) : Prop :=
  Machine.Parts front rest (a.headD []) ∧ b.headD [] = front ∧ Delayed 2 (rest :: a.tail) b.tail

/-- Nothing arrives at all. -/
def Silent (a b : Schedule) : Prop :=
  (∀ events ∈ a, events = []) ∧ ∀ events ∈ b, events = []

variable {n : Nat} {a b c x y : Schedule}

theorem Delayed.succ (h : Delayed (n + 1) a b) : b.headD [] = [] ∧ Delayed n a b.tail := by
  obtain ⟨hdrop, hnone⟩ := h
  cases b with
  | nil => exact ⟨rfl, by simpa [Delayed] using hdrop⟩
  | cons events b =>
      rw [List.take_succ_cons, List.forall_mem_cons] at hnone
      exact ⟨hnone.1, hdrop, hnone.2⟩

theorem Silent.symm (h : Silent a b) : Silent b a :=
  ⟨h.2, h.1⟩

theorem Silent.trans (first : Silent a b) (second : Silent b c) : Silent a c :=
  ⟨first.1, second.2⟩

end Schedule

namespace Shell

variable {R : Schedule → Schedule → Prop} {s t u : Shell}

section Rounds

variable {front rest : List Arrival}

/-- The shell has met these events of the next pause, and the rest of them is still to come. -/
def ahead (s : Shell) (front rest : List Arrival) : Shell :=
  s.mapMachine fun m => m.ahead front rest

/-- A pause that is parted begins with the stops in front. -/
theorem Alike.ahead (h : s.Alike (Schedule.Parting front rest) t) :
    (s.ahead front rest).Alike (Schedule.Delayed 2) t.pause := by
  obtain ⟨-, hfront, hlater⟩ := h.machine.arrivals
  obtain ⟨machine, hmachine, rfl⟩ := h
  exact ⟨_, hmachine.ahead hfront hlater, rfl⟩

end Rounds

/-- One notification reports all the children that are terminated but unreported when the shell
next looks. -/
def KeepsUp (s : Shell) : Prop :=
  s.pause.machine.kernel.outstanding.length ≤ 1024

instance : DecidablePred KeepsUp := fun s =>
  inferInstanceAs (Decidable (s.pause.machine.kernel.outstanding.length ≤ 1024))

theorem KeepsUp.told (h : s.KeepsUp) (hlog : s.machine.kernel.log.WellFormed) :
    s.pause.notify.machine.kernel.Told :=
  JobTable.told_notify ((Machine.pause_steady False s.machine).log hlog) h s.jobs .healthy

section Parts

variable {host : Host}

/-- The shell with something else to arrive. -/
def awaiting (s : Shell) (arrivals : Schedule) : Shell :=
  s.mapMachine fun m => m.awaiting arrivals

end Parts

section Remarks

variable {host : Host}

/-- The notifications keep up before each of the lines and behind the last one. -/
def KeepsUpAlong (host : Host) : List String → Shell → Prop
  | [], s => s.KeepsUp
  | line :: lines, s =>
    s.KeepsUp ∧
      match s.greet.pause.executeLine host line with
      | .running t => KeepsUpAlong host lines t
      | .left _ _ => True

instance decidableKeepsUpAlong (host : Host) :
    (lines : List String) → (s : Shell) → Decidable (KeepsUpAlong host lines s)
  | [], s => inferInstanceAs (Decidable s.KeepsUp)
  | line :: lines, s =>
    have : Decidable
        (match s.greet.pause.executeLine host line with
        | .running t => KeepsUpAlong host lines t
        | .left _ _ => True) :=
      match s.greet.pause.executeLine host line with
      | .running t => decidableKeepsUpAlong host lines t
      | .left _ _ => .isTrue trivial
    inferInstanceAs (Decidable (s.KeepsUp ∧ _))

end Remarks

end Shell

end JobShell
