import JobShell.Signal.Mode
import Mathlib.Data.List.Iterate
import Mathlib.Data.List.Induction
import Mathlib.Logic.Function.Basic

/-!
# A mode switch and its readers

A switch is toggled while any number of readers, each with a counter of its own, take the
changes since they last looked. `ModeSwitch.Watched` is the switch together with what its readers
have counted and received, and `ModeSwitch.Watched.after` what an interleaving of toggles and
takings leads to. What a reader has received are the modes that the toggles before its latest
taking have entered, each once and in order (`ModeSwitch.Watched.received_after`).
-/

namespace JobShell

namespace Mode

/-- The mode that a toggle leads to. -/
def other : Mode → Mode
  | normal => foregroundOnly
  | foregroundOnly => normal

/-- The modes that so many toggles enter one after the other, from the normal mode on. -/
def alternating (n : Nat) : List Mode :=
  List.iterate other foregroundOnly n

theorem other_enteredBy (n : Nat) : (enteredBy n).other = enteredBy (n + 1) := by
  rw [enteredBy, enteredBy]
  split <;> split <;> first | rfl | omega

theorem map_enteredBy_range' (start n : Nat) :
    (List.range' start n).map enteredBy = List.iterate other (enteredBy start) n := by
  induction n generalizing start with
  | zero => rfl
  | succ n ih => rw [List.range'_succ, List.map_cons, ih, List.iterate, other_enteredBy]

theorem alternating_eq (n : Nat) : alternating n = (List.range' 0 n).map enteredBy :=
  (map_enteredBy_range' 0 n).symm

/-- The modes of the later toggles follow those of the earlier ones. -/
theorem alternating_append {m n : Nat} (h : m ≤ n) :
    alternating m ++ (List.range' m (n - m)).map enteredBy = alternating n := by
  have hrange := @List.range'_append_1 0 m (n - m)
  rw [Nat.zero_add, Nat.add_sub_cancel' h] at hrange
  rw [alternating_eq, alternating_eq, ← List.map_append, hrange]

theorem getLast?_alternating (n : Nat) :
    (alternating n).getLast?.getD normal = if n % 2 = 1 then foregroundOnly else normal := by
  cases n with
  | zero => rfl
  | succ n =>
      rw [alternating_eq, List.range'_1_concat, List.map_append, List.map_singleton,
        List.getLast?_concat, Option.getD_some, Nat.zero_add, enteredBy]
      split <;> split <;> first | rfl | omega

end Mode

namespace ModeSwitch

/-- The mode that the switch shows. -/
def shown (s : ModeSwitch) : Mode :=
  if s.isForegroundOnly then .foregroundOnly else .normal

/-- The parity of the counter is that of the toggles, however often it has wrapped. -/
theorem isForegroundOnly_iff (s : ModeSwitch) :
    s.isForegroundOnly = true ↔ s.toggles.toNat % 2 = 1 := by
  rw [isForegroundOnly, beq_iff_eq, ← UInt64.toNat_inj, UInt64.toNat_mod]
  rfl

/-- What happens to a switch and its readers. -/
inductive Action (ι : Type) where
  | toggle
  /-- A reader takes the changes since it last looked. -/
  | take (reader : ι)
deriving DecidableEq, Repr

/-- A new switch and its readers. -/
structure Watched (ι : Type) where
  switch : ModeSwitch := {}
  /-- How many toggles each reader has been told of. -/
  announced : ι → UInt64 := fun _ => 0
  /-- All modes that each reader has received, the oldest first. -/
  received : ι → List Mode := fun _ => []

namespace Watched

variable {ι : Type} [DecidableEq ι]

def act (w : Watched ι) : Action ι → Watched ι
  | .toggle => { w with switch := w.switch.toggle }
  | .take reader =>
    let (modes, announced) := w.switch.takeChanges (w.announced reader)
    { w with
      announced := Function.update w.announced reader announced
      received := Function.update w.received reader (w.received reader ++ modes) }

/-- What a new switch and its readers have come to. -/
def after (actions : List (Action ι)) : Watched ι :=
  actions.foldl act {}

/-- The number of toggles before the latest taking of a reader. -/
def seenBy (reader : ι) (actions : List (Action ι)) : Nat :=
  (actions.reverse.dropWhile (· ≠ .take reader)).count .toggle

/-- Whether a reader has part in an action. -/
def concerns (reader : ι) (a : Action ι) : Bool :=
  a = .toggle ∨ a = .take reader

variable {actions : List (Action ι)} {reader : ι} {a : Action ι}

theorem after_concat (actions : List (Action ι)) (a : Action ι) :
    after (actions ++ [a]) = (after actions).act a := by
  rw [after, List.foldl_append]
  rfl

section Sight

/-- What a reader knows of the switch. -/
def sight (w : Watched ι) (reader : ι) : ModeSwitch × UInt64 × List Mode :=
  (w.switch, w.announced reader, w.received reader)

theorem sight_act_take (w : Watched ι) (reader : ι) :
    (w.act (.take reader)).sight reader =
      (w.switch, w.switch.toggles,
        w.received reader ++ (w.switch.takeChanges (w.announced reader)).1) := by
  simp [sight, act, takeChanges]

/-- Takings of other readers are out of sight. -/
theorem sight_act_of_not_concerns (w : Watched ι) (h : concerns reader a = false) :
    (w.act a).sight reader = w.sight reader := by
  cases a with
  | toggle => simp [concerns] at h
  | take other =>
      have hother : reader ≠ other := by
        rintro rfl
        simp [concerns] at h
      simp [sight, act, takeChanges, Function.update_of_ne hother]

/-- A reader that does not take is told nothing. -/
theorem told_act_of_ne (w : Watched ι) (h : a ≠ .take reader) :
    (w.act a).announced reader = w.announced reader ∧
      (w.act a).received reader = w.received reader := by
  cases a with
  | toggle => exact ⟨rfl, rfl⟩
  | take other =>
      have hother : concerns reader (.take other) = false := by
        simpa [concerns] using h
      have hsight := sight_act_of_not_concerns w hother
      exact ⟨congrArg (fun seen => seen.2.1) hsight, congrArg (fun seen => seen.2.2) hsight⟩

theorem sight_act_congr {w w' : Watched ι} (h : w.sight reader = w'.sight reader)
    (a : Action ι) : (w.act a).sight reader = (w'.act a).sight reader := by
  cases hconcerns : concerns reader a with
  | false =>
      rw [sight_act_of_not_concerns w hconcerns, sight_act_of_not_concerns w' hconcerns, h]
  | true =>
      simp only [sight, Prod.mk.injEq] at h
      obtain ⟨hswitch, hannounced, hreceived⟩ := h
      cases a with
      | toggle => simp [sight, act, hswitch, hannounced, hreceived]
      | take other =>
          obtain rfl : other = reader := by simpa [concerns] using hconcerns
          rw [sight_act_take, sight_act_take, hswitch, hannounced, hreceived]

/-- A reader receives the same whether or not others take as well. -/
theorem sight_after_filter (reader : ι) (actions : List (Action ι)) :
    (after (actions.filter (concerns reader))).sight reader = (after actions).sight reader := by
  induction actions using List.reverseRecOn with
  | nil => rfl
  | append_singleton actions a ih =>
      rw [List.filter_append, after_concat]
      cases hconcerns : concerns reader a with
      | true =>
          rw [List.filter_cons_of_pos hconcerns, List.filter_nil, after_concat]
          exact sight_act_congr ih a
      | false =>
          rw [List.filter_cons_of_neg (by simp [hconcerns]), List.filter_nil, List.append_nil,
            sight_act_of_not_concerns _ hconcerns, ih]

/-- What a reader has received depends on the toggles and on its own takings only. -/
theorem received_eq_of_filter_eq {actions' : List (Action ι)}
    (h : actions.filter (concerns reader) = actions'.filter (concerns reader)) :
    (after actions).received reader = (after actions').received reader := by
  have hsight : (after actions).sight reader = (after actions').sight reader := by
    rw [← sight_after_filter, h, sight_after_filter]
  exact congrArg (fun seen => seen.2.2) hsight

end Sight

section Seen

theorem seenBy_take (reader : ι) (actions : List (Action ι)) :
    seenBy reader (actions ++ [.take reader]) = actions.count .toggle := by
  rw [seenBy, List.reverse_concat, List.dropWhile_cons_of_neg (by simp),
    List.count_cons_of_ne (by simp), List.count_reverse]

theorem seenBy_of_ne (h : a ≠ .take reader) :
    seenBy reader (actions ++ [a]) = seenBy reader actions := by
  rw [seenBy, List.reverse_concat, List.dropWhile_cons_of_pos (by simpa using h), seenBy]

theorem seenBy_le (reader : ι) (actions : List (Action ι)) :
    seenBy reader actions ≤ actions.count .toggle := by
  rw [← List.count_reverse (l := actions)]
  exact (List.dropWhile_suffix _).sublist.count_le _

theorem toggles_after (actions : List (Action ι)) :
    (after actions).switch.toggles = .ofNat (actions.count .toggle) := by
  induction actions using List.reverseRecOn with
  | nil => rfl
  | append_singleton actions a ih =>
      rw [after_concat, List.count_append]
      cases a with
      | toggle =>
          rw [List.count_singleton_self, UInt64.ofNat_add, ← ih]
          rfl
      | take reader => exact ih

/-- After a taking of its own a reader has been told of every toggle; nothing else changes
what it has been told of. -/
theorem announced_after (reader : ι) (actions : List (Action ι)) :
    (after actions).announced reader = .ofNat (seenBy reader actions) := by
  induction actions using List.reverseRecOn with
  | nil => rfl
  | append_singleton actions a ih =>
      rw [after_concat]
      by_cases hown : a = .take reader
      · subst hown
        have hsight := sight_act_take (after actions) reader
        rw [seenBy_take, ← toggles_after]
        exact congrArg (fun seen => seen.2.1) hsight
      · rw [seenBy_of_ne hown, ← ih]
        exact (told_act_of_ne _ hown).1

/-- What a reader has received are the modes of the toggles before its latest taking. -/
theorem received_after (reader : ι) (h : actions.count .toggle < 2 ^ 64) :
    (after actions).received reader = Mode.alternating (seenBy reader actions) := by
  induction actions using List.reverseRecOn with
  | nil => rfl
  | append_singleton actions a ih =>
      have hfewer : actions.count .toggle < 2 ^ 64 :=
        Nat.lt_of_le_of_lt ((List.prefix_append actions [a]).sublist.count_le _) h
      rw [after_concat]
      by_cases hown : a = .take reader
      · subst hown
        have hsight := sight_act_take (after actions) reader
        have hseen := seenBy_le reader actions
        have htaken : ((after actions).switch.takeChanges ((after actions).announced reader)).1 =
            (List.range' (seenBy reader actions)
              (actions.count .toggle - seenBy reader actions)).map Mode.enteredBy := by
          rw [takeChanges, toggles_after, announced_after, UInt64.toNat_ofNat_of_lt' hfewer,
            UInt64.toNat_ofNat_of_lt' (Nat.lt_of_le_of_lt hseen hfewer)]
        rw [seenBy_take, ← Mode.alternating_append hseen, ← ih hfewer, ← htaken]
        exact congrArg (fun seen => seen.2.2) hsight
      · rw [seenBy_of_ne hown, ← ih hfewer]
        exact (told_act_of_ne _ hown).2

/-- The mode last received at a taking is the one that the switch shows then. -/
theorem getLast?_received_take (reader : ι) (h : actions.count .toggle < 2 ^ 64) :
    ((after (actions ++ [.take reader])).received reader).getLast?.getD .normal =
      (after actions).switch.shown := by
  have hcount : (actions ++ [Action.take reader]).count .toggle = actions.count .toggle := by
    rw [List.count_append]
    rfl
  rw [received_after reader (hcount.trans_lt h), seenBy_take, Mode.getLast?_alternating, shown]
  simp only [isForegroundOnly_iff, toggles_after, UInt64.toNat_ofNat_of_lt' h]

end Seen

end Watched

end ModeSwitch

end JobShell
