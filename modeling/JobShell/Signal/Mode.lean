/-!
# Foreground-only mode

Each stop signal toggles the mode. One counter of 64 bits serves both ends: its parity is
the mode, and the distance from it to the number that a reader has already announced is
what that reader still owes. So the mode and its announcements cannot disagree.
-/

namespace JobShell

/-- Whether `&` is honoured. -/
inductive Mode where
  | normal
  | foregroundOnly
deriving DecidableEq, Repr

namespace Mode

/-- What the user is told on entering the mode. -/
def announcement : Mode → String
  | foregroundOnly => "Entering foreground-only mode (& is now ignored)"
  | normal => "Exiting foreground-only mode"

/-- The mode that the toggle with this number, counted from 0, enters. -/
def enteredBy (n : Nat) : Mode :=
  if n % 2 = 0 then foregroundOnly else normal

end Mode

/-- The number of toggles so far. -/
structure ModeSwitch where
  toggles : UInt64 := 0
deriving DecidableEq, Repr

namespace ModeSwitch

def toggle (s : ModeSwitch) : ModeSwitch :=
  ⟨s.toggles + 1⟩

/-- The mode after an odd number of toggles. -/
def isForegroundOnly (s : ModeSwitch) : Bool :=
  s.toggles % 2 == 1

/-- The modes entered since `announced` toggles, the oldest first, and the new number of
announced toggles. -/
def takeChanges (s : ModeSwitch) (announced : UInt64) : List Mode × UInt64 :=
  ((List.range' announced.toNat (s.toggles.toNat - announced.toNat)).map Mode.enteredBy,
    s.toggles)

end ModeSwitch

end JobShell
