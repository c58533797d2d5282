import JobShell.Proofs.Log.Contents
import Mathlib.Data.List.Induction

/-!
# A log is a bounded queue

`FactQueue` is what a termination log is for its users: one list of at most 64 facts and a
mark. A log with its two buffers, the index of the active one and whatever its slots have
kept answers every sequence of pushes, collections and takings as such a queue does
(`TerminationLog.perform_queue`), and the answers of the queue are read off the history of
the operations before (`LogRecord.Follows`): an operation depends on what was accepted and
refused since the last taking, and on nothing else.
-/

namespace JobShell

/-- What can be done with a log. `supply` is what the children that have ended would yield. -/
inductive LogOperation where
  | push (fact : Fact)
  | collect (supply : List Fact)
  | take
deriving DecidableEq, Repr

/-- An operation with its answer: whether a push was accepted, which children a collection
left alone and whether it found the buffer full, what a taking yielded. -/
inductive LogRecord where
  | push (fact : Fact) (accepted : Bool)
  | collect (supply left : List Fact) (foundFull : Bool)
  | take (drained : Drained)
deriving DecidableEq, Repr

namespace LogRecord

/-- Carries operations out one after the other, and records them. -/
def history {State : Type} (perform : State → LogOperation → LogRecord × State) (s : State) :
    List LogOperation → List LogRecord × State
  | [] => ([], s)
  | operation :: operations =>
    let (record, s) := perform s operation
    let (records, s) := history perform s operations
    (record :: records, s)

/-- The facts that went into the log: a pushed fact that was accepted, and the children that
a collection did not leave alone. -/
def accepted : LogRecord → List Fact
  | push fact accepted => if accepted then [fact] else []
  | collect supply left _ => supply.take (supply.length - left.length)
  | take _ => []

/-- The facts that came out of the log. -/
def taken : LogRecord → List Fact
  | take drained => drained.facts
  | _ => []

/-- Whether a fact was refused or no room was found. -/
def overran : LogRecord → Bool
  | push _ accepted => !accepted
  | collect _ _ foundFull => foundFull
  | take _ => false

/-- Whether this is a taking. -/
def isTake : LogRecord → Bool
  | take _ => true
  | _ => false

/-- The records after the last taking. -/
def sinceTake (records : List LogRecord) : List LogRecord :=
  records.foldl (fun recent record => if record.isTake then [] else recent ++ [record]) []

/-- What the answer has to be, when `recent` is what happened since the last taking. -/
def Follows (recent : List LogRecord) : LogRecord → Prop
  | push _ accepted =>
    accepted = true ↔ (recent.flatMap LogRecord.accepted).length < FactBuffer.capacity
  | collect supply left foundFull =>
    left = supply.drop
        (FactBuffer.capacity - (recent.flatMap LogRecord.accepted).length) ∧
      (foundFull = true ↔
        FactBuffer.capacity ≤ (recent.flatMap LogRecord.accepted).length + supply.length)
  | take drained =>
    drained.facts = recent.flatMap LogRecord.accepted ∧
      (drained.saturated = true ↔ ∃ record ∈ recent, record.overran = true)

section History

variable {State : Type} (perform : State → LogOperation → LogRecord × State)

theorem history_append_singleton (s : State) (operations : List LogOperation)
    (operation : LogOperation) :
    history perform s (operations ++ [operation]) =
      ((history perform s operations).1 ++
          [(perform (history perform s operations).2 operation).1],
        (perform (history perform s operations).2 operation).2) := by
  induction operations generalizing s with
  | nil => rfl
  | cons first operations ih =>
      simp only [List.cons_append, history, ih]

end History

theorem sinceTake_append_singleton (records : List LogRecord) (record : LogRecord) :
    sinceTake (records ++ [record]) =
      if record.isTake then [] else sinceTake records ++ [record] := by
  rw [sinceTake, List.foldl_append]
  rfl

end LogRecord

namespace TerminationLog

/-- Whether a collection ends because it finds no room. -/
def findsFull (log : TerminationLog) : List Fact → Bool
  | [] => !log.hasRoom.1
  | fact :: supply => if log.hasRoom.1 then (log.push fact).2.findsFull supply else true

/-- Carries an operation out. -/
def perform (log : TerminationLog) : LogOperation → LogRecord × TerminationLog
  | .push fact => (.push fact (log.push fact).1, (log.push fact).2)
  | .collect supply =>
    (.collect supply (log.collect supply).1 (log.findsFull supply), (log.collect supply).2)
  | .take => (.take log.take.1, log.take.2)

theorem findsFull_eq (log : TerminationLog) (supply : List Fact)
    (h : log.pending ≤ FactBuffer.capacity) :
    log.findsFull supply = decide (FactBuffer.capacity ≤ log.pending + supply.length) := by
  induction supply generalizing log with
  | nil =>
      rw [findsFull, hasRoom_fst, List.length_nil, Nat.add_zero, ← decide_not]
      exact decide_eq_decide.2 Nat.not_lt
  | cons fact supply ih =>
      rw [findsFull, hasRoom_fst, List.length_cons]
      by_cases hroom : log.pending < FactBuffer.capacity
      · have hpending := log.pending_push fact hroom
        rw [decide_eq_true hroom, if_pos rfl, ih _ (by omega), hpending]
        exact decide_eq_decide.2 (by omega)
      · rw [decide_eq_false hroom, if_neg Bool.false_ne_true]
        exact (decide_eq_true (by omega)).symm

end TerminationLog

/-- A queue of at most 64 facts, with a mark that tells that it has been full. -/
structure FactQueue where
  waiting : List Fact := []
  overrun : Bool := false
deriving DecidableEq, Repr

namespace FactQueue

/-- Carries an operation out. -/
def perform (q : FactQueue) : LogOperation → LogRecord × FactQueue
  | .push fact =>
    if q.waiting.length < FactBuffer.capacity then
      (.push fact true, { q with waiting := q.waiting ++ [fact] })
    else (.push fact false, { q with overrun := true })
  | .collect supply =>
    let room := FactBuffer.capacity - q.waiting.length
    let full := decide (FactBuffer.capacity ≤ q.waiting.length + supply.length)
    (.collect supply (supply.drop room) full,
      { waiting := q.waiting ++ supply.take room, overrun := q.overrun || full })
  | .take => (.take ⟨q.waiting, q.overrun⟩, {})

/-- What one operation does to a queue, told by its record: a taking empties the queue, any
other operation appends what it accepted. -/
theorem perform_reads (q : FactQueue) (operation : LogOperation) :
    let record := (q.perform operation).1
    let q' := (q.perform operation).2
    q' = (if record.isTake then {}
        else ⟨q.waiting ++ record.accepted, q.overrun || record.overran⟩) ∧
      record.taken ++ q'.waiting = q.waiting ++ record.accepted := by
  cases operation with
  | push fact =>
      by_cases hroom : q.waiting.length < FactBuffer.capacity
      · simp [perform, hroom, LogRecord.isTake, LogRecord.accepted, LogRecord.overran,
          LogRecord.taken]
      · simp [perform, hroom, LogRecord.isTake, LogRecord.accepted, LogRecord.overran,
          LogRecord.taken]
  | collect supply =>
      have hroom (n : Nat) : supply.take (supply.length - (supply.drop n).length) =
          supply.take n := by
        rw [List.length_drop, List.take_eq_take_iff]
        omega
      simp [perform, LogRecord.isTake, LogRecord.accepted, LogRecord.overran, LogRecord.taken,
        hroom, -List.length_drop]
  | take => simp [perform, LogRecord.isTake, LogRecord.accepted, LogRecord.taken]

/-- The answers of a queue that holds what was accepted since the last taking. -/
theorem perform_follows (q : FactQueue) (recent : List LogRecord)
    (hwaiting : q.waiting = recent.flatMap LogRecord.accepted)
    (hoverrun : q.overrun = recent.any LogRecord.overran) (operation : LogOperation) :
    (q.perform operation).1.Follows recent := by
  cases operation with
  | push fact =>
      by_cases hroom : q.waiting.length < FactBuffer.capacity
      · rw [perform, if_pos hroom]
        rw [hwaiting] at hroom
        exact iff_of_true rfl hroom
      · rw [perform, if_neg hroom]
        rw [hwaiting] at hroom
        exact iff_of_false Bool.false_ne_true hroom
  | collect supply =>
      rw [perform, hwaiting]
      exact ⟨rfl, decide_eq_true_iff⟩
  | take =>
      refine ⟨hwaiting, ?_⟩
      change q.overrun = true ↔ _
      rw [hoverrun, List.any_eq_true]

/-- What a queue holds is read off the history of its operations. -/
theorem history_reads (operations : List LogOperation) :
    let records := (LogRecord.history perform {} operations).1
    let q := (LogRecord.history perform {} operations).2
    q.waiting = (LogRecord.sinceTake records).flatMap LogRecord.accepted ∧
      q.overrun = (LogRecord.sinceTake records).any LogRecord.overran ∧
      records.flatMap LogRecord.taken ++ q.waiting =
        records.flatMap LogRecord.accepted := by
  induction operations using List.reverseRecOn with
  | nil => exact ⟨rfl, rfl, rfl⟩
  | append_singleton operations operation ih =>
      obtain ⟨hwaiting, hoverrun, htaken⟩ := ih
      obtain ⟨hnext, hmoved⟩ :=
        (LogRecord.history perform {} operations).2.perform_reads operation
      simp only [LogRecord.history_append_singleton, LogRecord.sinceTake_append_singleton,
        List.flatMap_append, List.flatMap_singleton]
      refine ⟨?_, ?_, ?_⟩
      · rw [hnext, hwaiting]
        split <;> simp
      · rw [hnext, hoverrun]
        split <;> simp
      · rw [List.append_assoc, hmoved, ← List.append_assoc, htaken]

end FactQueue

namespace TerminationLog

/-- The queue that a log stands for. -/
def queue (log : TerminationLog) : FactQueue where
  waiting := log.waiting
  overrun := log.active.saturated

/-- One operation on a log is the same operation on its queue. -/
theorem perform_queue {log : TerminationLog} (h : log.WellFormed) (operation : LogOperation) :
    ((log.perform operation).1, (log.perform operation).2.queue) =
        log.queue.perform operation ∧
      (log.perform operation).2.WellFormed := by
  have hlength : log.queue.waiting.length = log.pending := h.length_waiting
  cases operation with
  | push fact =>
      refine ⟨?_, h.push fact⟩
      rw [perform, FactQueue.perform, hlength, push_fst]
      by_cases hroom : log.pending < FactBuffer.capacity
      · rw [if_pos hroom, decide_eq_true hroom, queue, log.waiting_push fact hroom,
          active_push, FactBuffer.saturated_push _ _ hroom]
        rfl
      · rw [if_neg hroom, decide_eq_false hroom, log.push_snd_of_full fact hroom, queue,
          waiting_hasRoom, saturated_hasRoom, decide_eq_true (Nat.not_lt.1 hroom),
          Bool.or_true]
        rfl
  | collect supply =>
      refine ⟨?_, h.collect supply⟩
      rw [perform, FactQueue.perform, hlength, collect_fst, findsFull_eq _ _ h.pending_le, queue,
        waiting_collect _ _ h.pending_le, saturated_collect _ _ h.pending_le]
      rfl
  | take =>
      refine ⟨?_, h.take⟩
      rw [perform, FactQueue.perform, take_fst, queue, h.waiting_take, h.saturated_take]
      rfl

/-- A sequence of operations on a log is the same sequence on its queue. -/
theorem history_queue {log : TerminationLog} (h : log.WellFormed)
    (operations : List LogOperation) :
    ((LogRecord.history perform log operations).1,
          (LogRecord.history perform log operations).2.queue) =
        LogRecord.history FactQueue.perform log.queue operations ∧
      (LogRecord.history perform log operations).2.WellFormed := by
  induction operations generalizing log with
  | nil => exact ⟨rfl, h⟩
  | cons operation operations ih =>
      rcases perform_queue h operation with ⟨hstep, hnext⟩
      obtain ⟨hrest, hlast⟩ := ih hnext
      refine ⟨?_, hlast⟩
      simp only [LogRecord.history, ← hstep, ← hrest]

/-- **A log is a bounded queue.** After any sequence of operations on a new log, which are
answered as a bounded queue answers them, the log is well formed and every next operation is
answered as the history since the last taking demands: a push is accepted if and only if
fewer than 64 facts were accepted, a taking yields exactly the accepted facts in their order,
with the mark if and only if a fact was refused or no room was found. What was taken in all
takings, followed by what waits, is what was accepted. -/
theorem history_bounded_queue (operations : List LogOperation) :
    let records := (LogRecord.history perform empty operations).1
    let log := (LogRecord.history perform empty operations).2
    (records, log.queue) = LogRecord.history FactQueue.perform {} operations ∧
      (∀ operation, (log.perform operation).1.Follows (LogRecord.sinceTake records)) ∧
      log.waiting = (LogRecord.sinceTake records).flatMap LogRecord.accepted ∧
      records.flatMap LogRecord.taken ++ log.waiting =
        records.flatMap LogRecord.accepted ∧
      log.WellFormed := by
  intro records log
  rcases history_queue WellFormed.empty operations with ⟨hqueue, hformed⟩
  obtain ⟨hwaiting, hoverrun, htaken⟩ := FactQueue.history_reads operations
  have hempty : empty.queue = {} := rfl
  rw [hempty] at hqueue
  rw [← hqueue] at hwaiting hoverrun htaken
  refine ⟨hqueue, ?_, hwaiting, htaken, hformed⟩
  intro operation
  have hstep := congrArg Prod.fst (perform_queue hformed operation).1
  change (log.perform operation).1 = _ at hstep
  rw [hstep]
  exact log.queue.perform_follows _ hwaiting hoverrun operation

end TerminationLog

end JobShell
