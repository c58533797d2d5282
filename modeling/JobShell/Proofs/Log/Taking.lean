import JobShell.Proofs.Log.Contents

/-!
# Taking while the handler runs

Taking a log is a sequence of accesses to memory, and the handler of the child signal may run
between any two of them. `Taking.access` is one access: the flip of the active buffer, the
load of the length, the loads of each slot, the store that empties the buffer and the swap
that takes its mark. `TerminationLog.interleave` lets accesses and runs of the handler follow
one another in any order.

Once the flip is done the handler works on the one buffer and the taking on the other. So
each state of an interleaving is the log that the handler has made of the log that a taking
without interruption leaves, with the taken buffer put back as far as it is not yet reset;
`Taking.remains` is this buffer and `Taking.Coherent` what the taking knows of it.
-/

namespace JobShell

/-- What the handler of the child signal asks of a log. -/
inductive LogRequest where
  | push (fact : Fact)
  | hasRoom
deriving DecidableEq, Repr

namespace TerminationLog

/-- The answer to one request. -/
def answer (log : TerminationLog) : LogRequest → Bool × TerminationLog
  | .push fact => log.push fact
  | .hasRoom => log.hasRoom

/-- The answers in one run of the handler. -/
def answerAll (log : TerminationLog) : List LogRequest → List Bool × TerminationLog
  | [] => ([], log)
  | request :: requests =>
    let (accepted, log) := log.answer request
    let (answers, log) := log.answerAll requests
    (accepted :: answers, log)

/-- The answers in runs of the handler, one after the other. -/
def answerRuns (log : TerminationLog) :
    List (List LogRequest) → List (List Bool) × TerminationLog
  | [] => ([], log)
  | requests :: runs =>
    let (answers, log) := log.answerAll requests
    let (later, log) := log.answerRuns runs
    (answers :: later, log)

/-- A run of the handler that collects children is a sequence of such requests. -/
theorem collect_eq_answerAll (log : TerminationLog) (supply : List Fact) :
    (log.collect supply).2 =
      (log.answerAll
        ((supply.take log.room).flatMap (fun fact => [.hasRoom, .push fact]) ++ [.hasRoom])).2 := by
  rw [collect_eq]
  induction supply generalizing log with
  | nil => rw [List.take_nil]; rfl
  | cons fact supply ih =>
      by_cases h : log.pending < FactBuffer.capacity
      · have hroom : log.room = (log.push fact).2.room + 1 := by
          rw [room, room, log.pending_push fact h]
          omega
        rw [hroom, List.take_succ_cons, pushAll_cons, ih]
        simp only [List.flatMap_cons, List.cons_append, answerAll, answer,
          log.hasRoom_snd_of_room h, List.nil_append]
      · have hroom : log.room = 0 := by
          rw [room]
          omega
        rw [hroom, List.take_zero]
        rfl

end TerminationLog

/-- How far a taking has come: which access is the next, and what the earlier ones have
found. `odd` tells which buffer was active before the flip. -/
inductive Taking where
  | flipping
  | measuring (odd : Bool)
  | readingPid (odd : Bool) (length index : Nat) (read : List Fact)
  | readingStatus (odd : Bool) (length index : Nat) (read : List Fact) (pid : Option Pid)
  | emptying (odd : Bool) (read : List Fact)
  | unmarking (odd : Bool) (read : List Fact)
  | finished (drained : Drained)
deriving DecidableEq, Repr

namespace Taking

/-- What is next once the slots before `index` are read. -/
def reading (odd : Bool) (length index : Nat) (read : List Fact) : Taking :=
  if index < length then .readingPid odd length index read else .emptying odd read

/-- The fact in a slot, from its two loads. -/
def loaded : Option Pid → Option StatusWord → List Fact
  | some pid, some status => [⟨pid, status⟩]
  | _, _ => []

/-- One access. -/
def access (log : TerminationLog) : Taking → Taking × TerminationLog
  | flipping => (measuring log.oddActive, log.flip)
  | measuring odd => (reading odd (log.buffer odd).length 0 [], log)
  | readingPid odd length index read =>
    (readingStatus odd length index read ((log.buffer odd).slots[index]?.map Fact.pid), log)
  | readingStatus odd length index read pid =>
    (reading odd length (index + 1)
      (read ++ loaded pid ((log.buffer odd).slots[index]?.map Fact.status)), log)
  | emptying odd read =>
    (unmarking odd read, log.setBuffer odd { log.buffer odd with length := 0 })
  | unmarking odd read =>
    (finished ⟨read, (log.buffer odd).saturated⟩,
      log.setBuffer odd { log.buffer odd with saturated := false })
  | finished drained => (finished drained, log)

/-- What the taking yields, once it is finished. -/
def drained? : Taking → Option Drained
  | finished drained => some drained
  | _ => none

end Taking

/-- What happens next: the taking makes an access, or the handler runs. -/
inductive Turn where
  | access
  | handler (requests : List LogRequest)
deriving DecidableEq, Repr

namespace Turn

/-- The number of accesses. -/
def accesses : List Turn → Nat
  | [] => 0
  | access :: turns => accesses turns + 1
  | handler _ :: turns => accesses turns

/-- The runs of the handler. -/
def runs : List Turn → List (List LogRequest)
  | [] => []
  | access :: turns => runs turns
  | handler requests :: turns => requests :: runs turns

end Turn

/-- What an interleaving comes to. -/
structure Interleaved where
  taking : Taking
  answers : List (List Bool)
  log : TerminationLog
deriving DecidableEq, Repr

/-- Lets a taking and the handler have their turns on a log. -/
def TerminationLog.interleave (log : TerminationLog) (taking : Taking) :
    List Turn → Interleaved
  | [] => ⟨taking, [], log⟩
  | .access :: turns => (taking.access log).2.interleave (taking.access log).1 turns
  | .handler requests :: turns =>
    let (answers, log) := log.answerAll requests
    let rest := log.interleave taking turns
    { rest with answers := answers :: rest.answers }

namespace TerminationLog

/-! The handler does not look at the buffer that is not active. -/

section Handler

variable (log : TerminationLog) (odd : Bool) (b : FactBuffer) (hodd : log.oddActive = !odd)

@[simp] theorem oddActive_answer (request : LogRequest) :
    (log.answer request).2.oddActive = log.oddActive := by
  cases request with
  | push fact => exact log.oddActive_push fact
  | hasRoom => exact log.oddActive_hasRoom

@[simp] theorem oddActive_answerAll (requests : List LogRequest) :
    (log.answerAll requests).2.oddActive = log.oddActive := by
  induction requests generalizing log with
  | nil => rfl
  | cons request requests ih => rw [answerAll, ih, oddActive_answer]

include hodd

theorem active_setBuffer : (log.setBuffer odd b).active = log.active := by
  rw [active, active, oddActive_setBuffer, hodd, buffer_setBuffer_not]

theorem answer_setBuffer (request : LogRequest) :
    (log.setBuffer odd b).answer request =
      ((log.answer request).1, (log.answer request).2.setBuffer odd b) := by
  have hactive := log.active_setBuffer odd b hodd
  cases request with
  | push fact =>
      simp only [answer, push, hactive, oddActive_setBuffer, hodd, setBuffer_comm]
  | hasRoom =>
      simp only [answer, hasRoom, hactive, oddActive_setBuffer, hodd, setBuffer_comm]

theorem answerAll_setBuffer (requests : List LogRequest) :
    (log.setBuffer odd b).answerAll requests =
      ((log.answerAll requests).1, (log.answerAll requests).2.setBuffer odd b) := by
  induction requests generalizing log with
  | nil => rfl
  | cons request requests ih =>
      have hnext : (log.answer request).2.oddActive = !odd := by
        rw [oddActive_answer, hodd]
      simp only [answerAll, log.answer_setBuffer odd b hodd, ih _ hnext]

theorem answerRuns_setBuffer (runs : List (List LogRequest)) :
    (log.setBuffer odd b).answerRuns runs =
      ((log.answerRuns runs).1, (log.answerRuns runs).2.setBuffer odd b) := by
  induction runs generalizing log with
  | nil => rfl
  | cons requests runs ih =>
      have hnext : (log.answerAll requests).2.oddActive = !odd := by
        rw [oddActive_answerAll, hodd]
      simp only [answerRuns, log.answerAll_setBuffer odd b hodd, ih _ hnext]

end Handler

end TerminationLog

namespace Taking

/-- What is left in the taken buffer, which was `b` at the flip. -/
def remains (b : FactBuffer) : Taking → FactBuffer
  | unmarking _ _ => { b with length := 0 }
  | finished _ => b.cleared
  | _ => b

/-- The number of accesses to come in taking the buffer `b`. -/
def left (b : FactBuffer) : Taking → Nat
  | flipping => 2 * b.length + 4
  | measuring _ => 2 * b.length + 3
  | readingPid _ length index _ => 2 * (length - index) + 2
  | readingStatus _ length index _ _ => 2 * (length - index) + 1
  | emptying _ _ => 2
  | unmarking _ _ => 1
  | finished _ => 0

/-- After the flip, what was found so far is what the buffer `b` held. -/
def Coherent (b : FactBuffer) (odd : Bool) : Taking → Prop
  | flipping => False
  | measuring odd' => odd' = odd
  | readingPid odd' length index read =>
    odd' = odd ∧ length = b.length ∧ index < length ∧ read = b.slots.toList.take index
  | readingStatus odd' length index read pid =>
    odd' = odd ∧ length = b.length ∧ index < length ∧ read = b.slots.toList.take index ∧
      pid = b.slots[index]?.map Fact.pid
  | emptying odd' read => odd' = odd ∧ read = b.facts
  | unmarking odd' read => odd' = odd ∧ read = b.facts
  | finished drained => drained = ⟨b.facts, b.saturated⟩

theorem loaded_slot (slot : Option Fact) :
    loaded (slot.map Fact.pid) (slot.map Fact.status) = slot.toList := by
  cases slot <;> rfl

/-- Reading goes on with the slots up to `index` if there are more, and is over otherwise. -/
theorem reading_coherent {b : FactBuffer} (odd : Bool) {index : Nat} (h : index ≤ b.length) :
    (reading odd b.length index (b.slots.toList.take index)).Coherent b odd ∧
      (reading odd b.length index (b.slots.toList.take index)).remains b = b ∧
        (reading odd b.length index (b.slots.toList.take index)).left b =
          2 * (b.length - index) + 2 := by
  by_cases hindex : index < b.length
  · simp [reading, hindex, Coherent, remains, left]
  · have hend : index = b.length := by omega
    subst hend
    simp [reading, Coherent, remains, left, b.facts_eq_take]

/-- One access of the taking, whatever the handler has made of the other buffer. -/
theorem access_coherent {b : FactBuffer} {odd : Bool} (log : TerminationLog) {taking : Taking}
    (h : taking.Coherent b odd) :
    (taking.access (log.setBuffer odd (taking.remains b))).1.Coherent b odd ∧
      (taking.access (log.setBuffer odd (taking.remains b))).2 =
        log.setBuffer odd
          ((taking.access (log.setBuffer odd (taking.remains b))).1.remains b) ∧
      (taking.access (log.setBuffer odd (taking.remains b))).1.left b = taking.left b - 1 := by
  cases taking with
  | flipping => exact h.elim
  | measuring odd' =>
      obtain rfl : odd' = odd := h
      have haccess : (measuring odd').access (log.setBuffer odd' b) =
          (reading odd' b.length 0 [], log.setBuffer odd' b) := by
        simp [access]
      rcases reading_coherent odd' (Nat.zero_le b.length) with ⟨hcoherent, hremains, hleft⟩
      rw [List.take_zero] at hcoherent hremains hleft
      rw [show (measuring odd').remains b = b from rfl, haccess]
      exact ⟨hcoherent, by rw [hremains], by rw [hleft]; rfl⟩
  | readingPid odd' length index read =>
      obtain ⟨rfl, rfl, hindex, rfl⟩ := h
      simp [remains, access, Coherent, left, hindex]
  | readingStatus odd' length index read pid =>
      rcases h with ⟨rfl, rfl, hindex, rfl, rfl⟩
      obtain ⟨hcoherent, hremains, hleft⟩ :=
        reading_coherent odd' (Nat.succ_le_of_lt hindex)
      have hread : b.slots.toList.take index ++
          loaded (b.slots[index]?.map Fact.pid) (b.slots[index]?.map Fact.status) =
            b.slots.toList.take (index + 1) := by
        rw [loaded_slot, List.take_add_one, Vector.getElem?_toList]
      have haccess :
          (readingStatus odd' b.length index (b.slots.toList.take index)
            (b.slots[index]?.map Fact.pid)).access (log.setBuffer odd' b) =
            (reading odd' b.length (index + 1) (b.slots.toList.take (index + 1)),
              log.setBuffer odd' b) := by
        simp only [access, TerminationLog.buffer_setBuffer_self, hread]
      rw [show (readingStatus odd' b.length index _ _).remains b = b from rfl, haccess]
      refine ⟨hcoherent, by rw [hremains], ?_⟩
      rw [hleft, left]
      omega
  | emptying odd' read =>
      obtain ⟨rfl, rfl⟩ := h
      simp [remains, access, Coherent, left]
  | unmarking odd' read =>
      rcases h with ⟨rfl, rfl⟩
      simp [remains, access, Coherent, left, FactBuffer.cleared]
  | finished drained =>
      exact ⟨h, rfl, rfl⟩

/-- A coherent taking is finished exactly when no access is to come. -/
theorem drained?_eq {b : FactBuffer} {odd : Bool} {taking : Taking}
    (h : taking.Coherent b odd) :
    taking.drained? = if taking.left b = 0 then some ⟨b.facts, b.saturated⟩ else none := by
  cases taking with
  | finished drained =>
      obtain rfl : drained = _ := h
      rfl
  | _ => simp [drained?, left]

/-- A finished taking has reset its buffer. -/
theorem remains_of_finished {b : FactBuffer} {taking : Taking}
    (h : taking.drained?.isSome = true) : taking.remains b = b.cleared := by
  cases taking with
  | finished drained => rfl
  | _ => exact absurd h Bool.false_ne_true

end Taking

namespace TerminationLog

/-- The turns after the flip. `log` is what there would be had the taking been completed at
once; the turns act on it with the taken buffer put back. -/
theorem interleave_coherent {b : FactBuffer} {odd : Bool} (turns : List Turn)
    (log : TerminationLog) (hodd : log.oddActive = !odd) (taking : Taking)
    (h : taking.Coherent b odd) :
    let s := (log.setBuffer odd (taking.remains b)).interleave taking turns
    s.taking.Coherent b odd ∧
      s.answers = (log.answerRuns (Turn.runs turns)).1 ∧
      s.log = (log.answerRuns (Turn.runs turns)).2.setBuffer odd (s.taking.remains b) ∧
      s.taking.left b = taking.left b - Turn.accesses turns := by
  -- an access changes the taking and the taken buffer, a run of the handler only `log`
  induction turns generalizing log taking with
  | nil => exact ⟨h, rfl, rfl, rfl⟩
  | cons turn turns ih =>
      cases turn with
      | access =>
          obtain ⟨hcoherent, hlog, hleft⟩ := Taking.access_coherent log h
          rcases ih log hodd _ hcoherent with ⟨hcoherent', hanswers, hlog', hleft'⟩
          rw [← hlog] at hcoherent' hanswers hlog' hleft'
          refine ⟨hcoherent', hanswers, hlog', ?_⟩
          rw [interleave, hleft', hleft, Turn.accesses]
          omega
      | handler requests =>
          have hnext : (log.answerAll requests).2.oddActive = !odd := by
            rw [oddActive_answerAll, hodd]
          obtain ⟨hcoherent, hanswers, hlog, hleft⟩ := ih _ hnext taking h
          simp only [interleave, log.answerAll_setBuffer odd _ hodd, Turn.runs, answerRuns,
            Turn.accesses]
          exact ⟨hcoherent, by rw [hanswers], hlog, hleft⟩

/-- The flip leaves the log of a completed taking with the taken buffer put back. -/
theorem flip_eq_setBuffer_take (log : TerminationLog) :
    log.flip = log.take.2.setBuffer log.oddActive log.active := by
  rw [take, setBuffer_setBuffer, active, ← log.buffer_flip log.oddActive, setBuffer_buffer]

/-- **Taking is atomic for the handler.** Let the handler run any number of times, each time
with any requests, between the accesses of a taking. The handler gets the answers that it
would get after a taking without interruption. After its `2 * n + 4` accesses, where `n` is
the number of facts, and not before, the taking is finished; it yields what a taking without
interruption yields, and the log is the one that the same runs of the handler make of the
log after such a taking. -/
theorem interleave_take (log : TerminationLog) (turns : List Turn) :
    let s := log.interleave .flipping (.access :: turns)
    let after := log.take.2.answerRuns (Turn.runs turns)
    s.answers = after.1 ∧
      s.taking.drained? =
        (if 2 * log.pending + 4 ≤ Turn.accesses (.access :: turns) then some log.take.1
          else none) ∧
      (s.taking.drained?.isSome = true → s.log = after.2) := by
  intro s after
  have hodd : log.take.2.oddActive = !log.oddActive := by
    rw [take, oddActive_setBuffer, oddActive_flip]
  have hstart : s = (log.take.2.setBuffer log.oddActive
      ((Taking.measuring log.oddActive).remains log.active)).interleave
        (.measuring log.oddActive) turns := by
    change log.flip.interleave _ turns = _
    rw [flip_eq_setBuffer_take]
    rfl
  obtain ⟨hcoherent, hanswers, hlog, hleft⟩ :=
    interleave_coherent (b := log.active) turns log.take.2 hodd (.measuring log.oddActive) rfl
  rw [← hstart] at hcoherent hanswers hlog hleft
  refine ⟨hanswers, ?_, ?_⟩
  · rw [Taking.drained?_eq hcoherent, hleft, take_fst]
    have hcount : 2 * log.active.length + 3 - Turn.accesses turns = 0 ↔
        2 * log.pending + 4 ≤ Turn.accesses turns + 1 := by
      rw [pending]
      omega
    exact ite_congr (propext hcount) (fun _ => rfl) (fun _ => rfl)
  · intro hfinished
    -- the runs of the handler keep the reset buffer as the taking has left it
    have hcleared : log.take.2.setBuffer log.oddActive log.active.cleared = log.take.2 := by
      rw [take, setBuffer_setBuffer]
    have hframe :=
      log.take.2.answerRuns_setBuffer log.oddActive log.active.cleared hodd (Turn.runs turns)
    rw [hcleared] at hframe
    rw [hlog, Taking.remains_of_finished hfinished]
    exact (congrArg Prod.snd hframe).symm

example :
    let log := (empty.push ⟨7, 0⟩).2
    let s := log.interleave .flipping
      [.access, .handler [.push ⟨8, 15⟩], .access, .access, .handler [.hasRoom, .push ⟨9, 256⟩],
        .access, .access, .access]
    s.taking = .finished ⟨[⟨7, 0⟩], false⟩ ∧ s.answers = [[true], [true, true]] ∧
      s.log.waiting = [⟨8, 15⟩, ⟨9, 256⟩] := by
  decide

end TerminationLog

end JobShell
