import JobShell.Signal.TerminationLog

/-!
# What a termination log holds

A log is read through the list of facts in its active buffer. Here each operation is
described by what it does to this list and to the mark, so that the slots, the index of the
active buffer and the stale contents past the length of a buffer are not looked at again.

`TerminationLog.WellFormed` is what every log satisfies that was only pushed to, collected
into and taken: the buffer that is not active is empty and unmarked, the active one holds at
most 64 facts, and a mark is found on a full buffer only.
-/

namespace JobShell

namespace FactBuffer

variable (b : FactBuffer) (fact : Fact)

/-- The first `n` slots, as they are read one after the other. -/
theorem filterMap_range_slots (n : Nat) :
    ((List.range n).filterMap fun i => b.slots[i]?) = b.slots.toList.take n := by
  induction n with
  | zero => rfl
  | succ n ih =>
      rw [List.range_succ, List.filterMap_append, ih, List.take_add_one,
        Vector.getElem?_toList]
      cases h : b.slots[n]? <;> simp [h]

theorem facts_eq_take : b.facts = b.slots.toList.take b.length :=
  b.filterMap_range_slots b.length

theorem length_facts : b.facts.length = min b.length capacity := by
  rw [facts_eq_take, List.length_take, Vector.length_toList]

theorem push_fst : (b.push fact).1 = decide (b.length < capacity) := by
  by_cases h : b.length < capacity <;> simp [push, h]

theorem hasRoom_fst : b.hasRoom.1 = decide (b.length < capacity) := by
  by_cases h : b.length < capacity <;> simp [hasRoom, h]

/-- A refused fact leaves what looking for room in vain leaves. -/
theorem push_snd_of_full (h : ¬ b.length < capacity) : (b.push fact).2 = b.hasRoom.2 := by
  simp [push, hasRoom, h]

theorem hasRoom_snd_of_room (h : b.length < capacity) : b.hasRoom.2 = b := by
  simp [hasRoom, h]

theorem hasRoom_snd :
    b.hasRoom.2 = { b with saturated := b.saturated || decide (capacity ≤ b.length) } := by
  by_cases h : b.length < capacity
  · simp [hasRoom, h, Nat.not_le.2 h]
  · simp [hasRoom, h, Nat.not_lt.1 h]

/-- An accepted fact comes after those that were there. -/
theorem facts_push (h : b.length < capacity) : (b.push fact).2.facts = b.facts ++ [fact] := by
  have hpush : (b.push fact).2 =
      { b with slots := b.slots.set b.length fact h, length := b.length + 1 } := by
    simp [push, h]
  have hslot : b.length < b.slots.toList.length := by simpa using h
  rw [hpush, facts_eq_take, facts_eq_take, Vector.toList_set, List.take_add_one,
    List.take_set_of_le (Nat.le_refl _), List.getElem?_set_self hslot, Option.toList_some]

theorem length_push (h : b.length < capacity) : (b.push fact).2.length = b.length + 1 := by
  simp [push, h]

theorem saturated_push (h : b.length < capacity) :
    (b.push fact).2.saturated = b.saturated := by
  simp [push, h]

end FactBuffer

namespace TerminationLog

/-- The buffer that is not active. -/
def idle (log : TerminationLog) : FactBuffer :=
  log.buffer (!log.oddActive)

/-- The facts that wait, the oldest first. -/
def waiting (log : TerminationLog) : List Fact :=
  log.active.facts

/-- The number of facts that the active buffer can still take. -/
def room (log : TerminationLog) : Nat :=
  FactBuffer.capacity - log.pending

section Buffers

variable (log : TerminationLog) (odd : Bool) (b c : FactBuffer)

@[simp] theorem buffer_setBuffer_self : (log.setBuffer odd b).buffer odd = b := by
  cases odd <;> rfl

@[simp] theorem buffer_setBuffer_not :
    (log.setBuffer odd b).buffer (!odd) = log.buffer (!odd) := by
  cases odd <;> rfl

@[simp] theorem oddActive_setBuffer : (log.setBuffer odd b).oddActive = log.oddActive := by
  cases odd <;> rfl

@[simp] theorem setBuffer_setBuffer :
    (log.setBuffer odd b).setBuffer odd c = log.setBuffer odd c := by
  cases odd <;> rfl

@[simp] theorem setBuffer_buffer : log.setBuffer odd (log.buffer odd) = log := by
  cases odd <;> rfl

/-- The two buffers lie apart. -/
theorem setBuffer_comm :
    (log.setBuffer odd b).setBuffer (!odd) c = (log.setBuffer (!odd) c).setBuffer odd b := by
  cases odd <;> rfl

@[simp] theorem oddActive_flip : log.flip.oddActive = !log.oddActive := rfl

@[simp] theorem buffer_flip : log.flip.buffer odd = log.buffer odd := by
  cases odd <;> rfl

end Buffers

section Operations

variable (log : TerminationLog) (fact : Fact) (supply : List Fact)

theorem push_fst : (log.push fact).1 = decide (log.pending < FactBuffer.capacity) :=
  FactBuffer.push_fst log.active fact

@[simp] theorem active_push : (log.push fact).2.active = (log.active.push fact).2 := by
  simp [push, active]

@[simp] theorem idle_push : (log.push fact).2.idle = log.idle := by
  simp [push, idle]

@[simp] theorem oddActive_push : (log.push fact).2.oddActive = log.oddActive := by
  simp [push]

theorem hasRoom_fst : log.hasRoom.1 = decide (log.pending < FactBuffer.capacity) :=
  log.active.hasRoom_fst

@[simp] theorem active_hasRoom : log.hasRoom.2.active = log.active.hasRoom.2 := by
  simp [hasRoom, active]

@[simp] theorem idle_hasRoom : log.hasRoom.2.idle = log.idle := by
  simp [hasRoom, idle]

@[simp] theorem oddActive_hasRoom : log.hasRoom.2.oddActive = log.oddActive := by
  simp [hasRoom]

theorem hasRoom_snd_of_room (h : log.pending < FactBuffer.capacity) : log.hasRoom.2 = log := by
  change log.setBuffer log.oddActive log.active.hasRoom.2 = log
  rw [FactBuffer.hasRoom_snd_of_room log.active h]
  exact log.setBuffer_buffer log.oddActive

@[simp] theorem waiting_hasRoom : log.hasRoom.2.waiting = log.waiting := by
  rw [waiting, active_hasRoom, FactBuffer.hasRoom_snd]
  rfl

@[simp] theorem pending_hasRoom : log.hasRoom.2.pending = log.pending := by
  rw [pending, active_hasRoom, FactBuffer.hasRoom_snd]
  rfl

theorem saturated_hasRoom :
    log.hasRoom.2.active.saturated =
      (log.active.saturated || decide (FactBuffer.capacity ≤ log.pending)) := by
  rw [active_hasRoom, FactBuffer.hasRoom_snd]
  rfl

theorem take_fst : log.take.1 = ⟨log.waiting, log.active.saturated⟩ := rfl

@[simp] theorem active_take : log.take.2.active = log.idle := by
  simp [take, active, idle]

@[simp] theorem idle_take : log.take.2.idle = log.active.cleared := by
  simp [take, idle]

theorem push_snd_of_full (h : ¬ log.pending < FactBuffer.capacity) :
    (log.push fact).2 = log.hasRoom.2 := by
  change log.setBuffer log.oddActive (log.active.push fact).2 =
    log.setBuffer log.oddActive log.active.hasRoom.2
  rw [FactBuffer.push_snd_of_full log.active fact h]

theorem waiting_push (h : log.pending < FactBuffer.capacity) :
    (log.push fact).2.waiting = log.waiting ++ [fact] := by
  rw [waiting, active_push]
  exact FactBuffer.facts_push log.active fact h

theorem pending_push (h : log.pending < FactBuffer.capacity) :
    (log.push fact).2.pending = log.pending + 1 := by
  rw [pending, active_push]
  exact FactBuffer.length_push log.active fact h

/-- One turn of collecting while there is room. -/
theorem collect_cons_of_room (h : log.pending < FactBuffer.capacity) :
    log.collect (fact :: supply) = (log.push fact).2.collect supply := by
  have hroom : log.hasRoom = (true, log) :=
    Prod.ext (by simp [hasRoom_fst, h]) (log.hasRoom_snd_of_room h)
  rw [collect, hroom]

theorem collect_cons_of_full (h : ¬ log.pending < FactBuffer.capacity) :
    log.collect (fact :: supply) = (fact :: supply, log.hasRoom.2) := by
  have hroom : log.hasRoom = (false, log.hasRoom.2) :=
    Prod.ext (by simp [hasRoom_fst, h]) rfl
  rw [collect, hroom]

end Operations

/-- Pushes facts one after the other. -/
def pushAll (log : TerminationLog) (facts : List Fact) : TerminationLog :=
  facts.foldl (fun log fact => (log.push fact).2) log

@[simp] theorem pushAll_nil (log : TerminationLog) : log.pushAll [] = log := rfl

@[simp] theorem pushAll_cons (log : TerminationLog) (fact : Fact) (facts : List Fact) :
    log.pushAll (fact :: facts) = (log.push fact).2.pushAll facts := rfl

/-- Facts for which there is room all end up in the log, in their order. -/
theorem active_pushAll (log : TerminationLog) (facts : List Fact)
    (h : log.pending + facts.length ≤ FactBuffer.capacity) :
    (log.pushAll facts).waiting = log.waiting ++ facts ∧
      (log.pushAll facts).pending = log.pending + facts.length ∧
        (log.pushAll facts).active.saturated = log.active.saturated := by
  induction facts generalizing log with
  | nil => simp
  | cons fact facts ih =>
      rw [List.length_cons] at h ⊢
      have hroom : log.pending < FactBuffer.capacity := by omega
      have hpending := log.pending_push fact hroom
      rcases ih (log.push fact).2 (by omega) with ⟨hwaiting, hlength, hmark⟩
      rw [log.waiting_push fact hroom, List.append_assoc, List.singleton_append] at hwaiting
      rw [active_push, FactBuffer.saturated_push _ _ hroom] at hmark
      rw [pushAll_cons]
      exact ⟨hwaiting, by omega, hmark⟩

/-- Collecting is pushing what there is room for and looking for room once more, be it that
the children or the room have come to an end. -/
theorem collect_eq (log : TerminationLog) (supply : List Fact) :
    log.collect supply =
      (supply.drop log.room, (log.pushAll (supply.take log.room)).hasRoom.2) := by
  induction supply generalizing log with
  | nil => rw [collect, List.drop_nil, List.take_nil, pushAll_nil]
  | cons fact supply ih =>
      by_cases h : log.pending < FactBuffer.capacity
      · have hroom : log.room = (log.push fact).2.room + 1 := by
          rw [room, room, log.pending_push fact h]
          omega
        rw [log.collect_cons_of_room fact supply h, ih, hroom, List.drop_succ_cons,
          List.take_succ_cons, pushAll_cons]
      · have hroom : log.room = 0 := by
          rw [room]
          omega
        rw [log.collect_cons_of_full fact supply h, hroom, List.drop_zero, List.take_zero,
          pushAll_nil]

section Collect

variable (log : TerminationLog) (supply : List Fact)

@[simp] theorem collect_fst : (log.collect supply).1 = supply.drop log.room := by
  rw [collect_eq]

variable (h : log.pending ≤ FactBuffer.capacity)
include h

theorem pending_add_room : log.pending + log.room = FactBuffer.capacity := by
  rw [room]
  omega

theorem pending_add_length_take_room :
    log.pending + (supply.take log.room).length ≤ FactBuffer.capacity := by
  have hroom := log.pending_add_room h
  have htake := List.length_take_le log.room supply
  omega

/-- What is collected comes after what waits already. -/
theorem waiting_collect :
    (log.collect supply).2.waiting = log.waiting ++ supply.take log.room := by
  have hall := log.active_pushAll _ (log.pending_add_length_take_room supply h)
  rw [collect_eq, waiting_hasRoom, hall.1]

/-- The mark is set as soon as the buffer is full, whether or not a child is left. -/
theorem saturated_collect :
    (log.collect supply).2.active.saturated =
      (log.active.saturated ||
        decide (FactBuffer.capacity ≤ log.pending + supply.length)) := by
  have hall := log.active_pushAll _ (log.pending_add_length_take_room supply h)
  have hroom := log.pending_add_room h
  rw [collect_eq, saturated_hasRoom, hall.2.1, hall.2.2, List.length_take]
  congr 1
  exact decide_eq_decide.2 (by omega)

end Collect

/-- What holds of every log that was only pushed to, collected into and taken. -/
structure WellFormed (log : TerminationLog) : Prop where
  idle_length : log.idle.length = 0
  idle_saturated : log.idle.saturated = false
  pending_le : log.pending ≤ FactBuffer.capacity
  full_of_saturated : log.active.saturated = true → log.pending = FactBuffer.capacity

namespace WellFormed

theorem empty : TerminationLog.empty.WellFormed where
  idle_length := rfl
  idle_saturated := rfl
  pending_le := Nat.zero_le _
  full_of_saturated := nofun

variable {log : TerminationLog} (h : log.WellFormed)
include h

theorem idle_facts : log.idle.facts = [] := by
  rw [FactBuffer.facts_eq_take, h.idle_length, List.take_zero]

theorem length_waiting : log.waiting.length = log.pending := by
  rw [waiting, FactBuffer.length_facts]
  exact Nat.min_eq_left h.pending_le

theorem hasRoom : log.hasRoom.2.WellFormed where
  idle_length := by rw [idle_hasRoom, h.idle_length]
  idle_saturated := by rw [idle_hasRoom, h.idle_saturated]
  pending_le := by rw [pending_hasRoom]; exact h.pending_le
  full_of_saturated := by
    intro hmark
    rw [pending_hasRoom]
    rw [saturated_hasRoom, Bool.or_eq_true, decide_eq_true_eq] at hmark
    cases hmark with
    | inl hmark => exact h.full_of_saturated hmark
    | inr hfull => exact Nat.le_antisymm h.pending_le hfull

theorem push (fact : Fact) : (log.push fact).2.WellFormed := by
  by_cases hroom : log.pending < FactBuffer.capacity
  · have hmark : log.active.saturated = false := by
      rw [← Bool.not_eq_true]
      intro hmark
      have hfull := h.full_of_saturated hmark
      omega
    have hpending := log.pending_push fact hroom
    exact {
      idle_length := by rw [idle_push, h.idle_length]
      idle_saturated := by rw [idle_push, h.idle_saturated]
      pending_le := by omega
      full_of_saturated := by
        intro hmark'
        rw [active_push, FactBuffer.saturated_push _ _ hroom, hmark] at hmark'
        exact absurd hmark' Bool.false_ne_true }
  · rw [log.push_snd_of_full fact hroom]
    exact h.hasRoom

theorem pushAll (facts : List Fact) : (log.pushAll facts).WellFormed := by
  induction facts generalizing log with
  | nil => exact h
  | cons fact facts ih => exact ih (h.push fact)

theorem collect (supply : List Fact) : (log.collect supply).2.WellFormed := by
  rw [collect_eq]
  exact (h.pushAll _).hasRoom

theorem take : log.take.2.WellFormed where
  idle_length := by rw [idle_take]; rfl
  idle_saturated := by rw [idle_take]; rfl
  pending_le := by
    rw [pending, active_take, h.idle_length]
    exact Nat.zero_le _
  full_of_saturated := by
    intro hmark
    rw [active_take, h.idle_saturated] at hmark
    exact absurd hmark Bool.false_ne_true

theorem waiting_take : log.take.2.waiting = [] := by
  rw [waiting, active_take, h.idle_facts]

theorem saturated_take : log.take.2.active.saturated = false := by
  rw [active_take, h.idle_saturated]

end WellFormed

end TerminationLog

end JobShell
