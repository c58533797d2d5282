import JobShell.Proofs.Job.Draining
import JobShell.Proofs.Text.OneLine
import Mathlib.Data.List.Nodup

/-!
# The order of facts

What facts do to a job table depends on little of their order. A pid stays in the table unless
some fact tells of an end of it (`JobTable.settleAll_eq`), and it is reported with the first end
that a fact tells of (`JobTable.mem_reports_iff`), once. So facts of different pids can change
places, batches can be cut anywhere, and of the place that the reports go to nothing comes back
to the table (`JobTable.reconcile_any_order`).
-/

namespace JobShell

/-- The end of this pid that a fact tells of. -/
def Fact.endOf? (pid : Pid) (fact : Fact) : Option Termination :=
  if fact.pid = pid then Termination.ofStatus? fact.status else none

namespace JobTable

/-- The first end of a pid that facts tell of. -/
def firstEnd? (facts : List Fact) (pid : Pid) : Option Termination :=
  facts.findSome? (Fact.endOf? pid)

/-- Some fact tells of an end of the pid. -/
def Ended (facts : List Fact) (pid : Pid) : Prop :=
  ∃ fact ∈ facts, fact.pid = pid ∧ (Termination.ofStatus? fact.status).isSome

instance (facts : List Fact) (pid : Pid) : Decidable (Ended facts pid) :=
  inferInstanceAs (Decidable (∃ fact ∈ facts, _))

variable {t : JobTable} {fact : Fact} {facts facts' : List Fact} {pid : Pid}
  {termination : Termination} {report : Pid × Termination}

section Ends

theorem firstEnd?_cons_of_none (hend : Termination.ofStatus? fact.status = none)
    (facts : List Fact) (pid : Pid) : firstEnd? (fact :: facts) pid = firstEnd? facts pid := by
  have hnone : fact.endOf? pid = none := by rw [Fact.endOf?, hend, ite_self]
  rw [firstEnd?, List.findSome?_cons, hnone]
  rfl

theorem firstEnd?_cons_self (hend : Termination.ofStatus? fact.status = some termination)
    (facts : List Fact) : firstEnd? (fact :: facts) fact.pid = some termination := by
  rw [firstEnd?, List.findSome?_cons, Fact.endOf?, if_pos rfl, hend]

theorem firstEnd?_cons_of_ne (hother : fact.pid ≠ pid) (facts : List Fact) :
    firstEnd? (fact :: facts) pid = firstEnd? facts pid := by
  rw [firstEnd?, List.findSome?_cons, Fact.endOf?, if_neg hother]
  rfl

/-- Only facts of the pid itself count. -/
theorem firstEnd?_filter (facts : List Fact) (pid : Pid) :
    firstEnd? (facts.filter fun fact => fact.pid == pid) pid = firstEnd? facts pid := by
  induction facts with
  | nil => rfl
  | cons fact facts ih =>
      rw [List.filter_cons]
      split
      · rw [firstEnd?, List.findSome?_cons, firstEnd?, List.findSome?_cons]
        cases fact.endOf? pid with
        | none => exact ih
        | some termination => rfl
      · next hother => rw [ih, firstEnd?_cons_of_ne (mt beq_iff_eq.2 hother)]

theorem ended_cons : Ended (fact :: facts) pid ↔
    (fact.pid = pid ∧ (Termination.ofStatus? fact.status).isSome) ∨ Ended facts pid :=
  List.exists_mem_cons_iff ..

theorem ended_congr (h : facts.Perm facts') : Ended facts pid ↔ Ended facts' pid :=
  exists_congr fun _ => and_congr_left fun _ => h.mem_iff

end Ends

/-- The jobs that no fact has ended are left. -/
theorem settleAll_eq (t : JobTable) (facts : List Fact) :
    t.settleAll facts = ⟨t.jobs.filter fun job => ¬ Ended facts job.pid⟩ := by
  induction facts generalizing t with
  | nil => simp [settleAll, Ended]
  | cons fact facts ih =>
      have hstep : t.settleAll (fact :: facts) = (t.settle fact).settleAll facts := rfl
      rw [hstep, ih, settle]
      congr 1
      split
      · next hend =>
          rw [erase, List.filter_filter]
          refine List.filter_congr fun job _ => ?_
          have hpid : (job.pid != fact.pid) = !decide (fact.pid = job.pid) := by
            rw [bne, beq_eq_decide, decide_eq_decide.2 eq_comm]
          simp [ended_cons, hend, hpid, Bool.and_comm]
      · next hnone =>
          refine List.filter_congr fun job _ => ?_
          simp [ended_cons, hnone]

section Reports

theorem report?_eq_some_iff : t.report? fact = some report ↔
    report.1 = fact.pid ∧ fact.pid ∈ t.pids ∧
      Termination.ofStatus? fact.status = some report.2 := by
  cases hend : Termination.ofStatus? fact.status with
  | none => simp [report?, hend]
  | some termination =>
      by_cases hmem : fact.pid ∈ t.pids
      · rw [report?_of_mem hend hmem, Option.some_inj, Prod.ext_iff, Option.some_inj,
          and_iff_right hmem, eq_comm]
      · simp [report?_of_notMem hmem, hmem]

/-- A tracked pid is reported with the first end that is told of it, and no other pid is. -/
theorem mem_reports_iff : report ∈ t.reports facts ↔
    report.1 ∈ t.pids ∧ firstEnd? facts report.1 = some report.2 := by
  induction facts generalizing t with
  | nil => simp [reports, firstEnd?]
  | cons fact facts ih =>
      rw [reports, List.mem_append, Option.mem_toList, report?_eq_some_iff, ih]
      cases hend : Termination.ofStatus? fact.status with
      | none =>
          rw [settle, hend, firstEnd?_cons_of_none hend]
          simp
      | some termination =>
          rw [mem_pids_settle (by rw [hend]; rfl)]
          -- the fact decides for its pid, which is gone for the facts behind it
          by_cases hpid : report.1 = fact.pid
          · rw [hpid, firstEnd?_cons_self hend]
            simp
          · rw [firstEnd?_cons_of_ne (Ne.symm hpid)]
            simp [hpid]

/-- No pid is reported twice. -/
theorem nodup_reports (t : JobTable) (facts : List Fact) :
    ((t.reports facts).map Prod.fst).Nodup := by
  induction facts generalizing t with
  | nil => exact List.nodup_nil
  | cons fact facts ih =>
      rw [reports]
      cases hreport : t.report? fact with
      | none => exact ih _
      | some report =>
          obtain ⟨hpid, -, hend⟩ := report?_eq_some_iff.1 hreport
          refine List.nodup_cons.2 ⟨fun hmem => ?_, ih _⟩
          obtain ⟨later, hlater, hsame⟩ := List.mem_map.1 hmem
          have hleft := (mem_reports_iff.1 hlater).1
          rw [mem_pids_settle (by rw [hend]; rfl)] at hleft
          exact hleft.2 (hsame.trans hpid)

/-- Facts of one pid in the same order, and those of different pids in any. -/
theorem reports_perm (t : JobTable) (h : ∀ pid,
    facts.filter (fun fact => fact.pid == pid) = facts'.filter fun fact => fact.pid == pid) :
    (t.reports facts).Perm (t.reports facts') := by
  refine (List.perm_ext_iff_of_nodup (t.nodup_reports facts).of_map
    (t.nodup_reports facts').of_map).2 fun report => ?_
  rw [mem_reports_iff, mem_reports_iff, ← firstEnd?_filter, h, firstEnd?_filter]

end Reports

section Text

/-- What a report says, without the end of the line. -/
def reportSentence (report : Pid × Termination) : String :=
  "background pid " ++ toString report.1 ++ " is done: " ++ report.2.message

/-- No report holds a character that ends a line. -/
theorem notMem_reportSentence {c : Char} (h : c = '\n' ∨ c = '\r') (report : Pid × Termination) :
    c ∉ (reportSentence report).toList := by
  have hnumber (n : Int) : c ∉ (toString n).toList := by
    obtain rfl | rfl := h <;> exact Text.notMem_toString (by decide) (by decide) n
  have hmessage : c ∉ report.2.message.toList := by
    cases report.2 <;> refine Text.notMem_append ?_ (hnumber _) <;>
      obtain rfl | rfl := h <;> decide
  refine Text.notMem_append (Text.notMem_append (Text.notMem_append ?_ (hnumber _)) ?_) hmessage <;>
    obtain rfl | rfl := h <;> decide

/-- Reports come in one line each. -/
theorem lines_reportText (reports : List (Pid × Termination)) :
    Text.lines (reportText reports) = reports.map reportSentence := by
  induction reports with
  | nil => rfl
  | cons report reports ih =>
      have hreturn : (reportSentence report).toList.getLast? ≠ some '\r' := fun hlast =>
        notMem_reportSentence (.inr rfl) report (List.mem_of_getLast? hlast)
      rw [reportText, List.map_cons, ← ih]
      exact Text.lines_line_append (notMem_reportSentence (.inl rfl) report) hreturn _

end Text

theorem reconcile_fst (t : JobTable) (sink : Sink) (facts : List Fact) :
    (t.reconcile sink facts).1 = t.settleAll facts := by
  rw [reconcile_eq]

/-- Each report is asked for once, and the text lacks those alone whose writes were refused. -/
theorem reconcile_snd (t : JobTable) (sink : Sink) (facts : List Fact) :
    (t.reconcile sink facts).2 =
      { sink with
        text := sink.text ++ reportText (accepted sink (t.reports facts))
        operations := sink.operations + (t.reports facts).length + 1 } := by
  rw [reconcile_eq, foldl_writeReport]
  rfl

/-- A sink that refuses all writes or none takes the same reports in two batches as in one. -/
theorem text_reconcile_append (t : JobTable) {sink : Sink}
    (h : ∀ n n', sink.failsAt n false = sink.failsAt n' false) (xs ys : List Fact) :
    (t.reconcile sink (xs ++ ys)).2.text =
      ((t.reconcile sink xs).1.reconcile (t.reconcile sink xs).2 ys).2.text := by
  cases hrefuses : sink.failsAt 0 false with
  | true =>
      have hnone (s : Sink) (hs : s.failsAt = sink.failsAt) (reports : List (Pid × Termination)) :
          accepted s reports = [] := by
        simp [accepted, hs, h _ 0, hrefuses]
      simp only [reconcile_snd, hnone]
      rw [String.append_assoc]
      rfl
  | false =>
      have hall (s : Sink) (hs : s.failsAt = sink.failsAt) (reports : List (Pid × Termination)) :
          accepted s reports = reports :=
        accepted_of_takes (fun n => by rw [hs, h n 0, hrefuses]) reports
      simp only [reconcile_snd, hall, reconcile_fst, reports_append, reportText_append,
        String.append_assoc]

theorem lines_reconcile (t : JobTable) (facts : List Fact) :
    Text.lines (t.reconcile .healthy facts).2.text = (t.reports facts).map reportSentence := by
  rw [reconcile_snd, accepted_of_takes fun _ => rfl, ← lines_reportText]
  exact congrArg Text.lines String.empty_append

/-- **What facts do to a job table hangs neither on batches, nor on the order of different pids,
nor on the output.**

Facts in two batches leave the table that they leave in one, and the same text of reports if the
sink refuses all writes or none. The table that is left is the one before without the pids of
which some fact tells an end, so it is the same for every permutation of the facts. If facts are
permuted so that those of each pid stay in order, the lines of the reports are permuted; a pid is
reported if it is tracked and some fact tells of its end, once, and with the first of these ends.

Whichever writes and flushes fail, the table is the one that a healthy sink would leave. Each
report is an operation of its own, followed by one flush, and only the reports whose own write
fails are missing in the text. -/
theorem reconcile_any_order (t : JobTable) :
    (∀ (sink : Sink) (xs ys : List Fact),
      (t.reconcile sink (xs ++ ys)).1 =
        ((t.reconcile sink xs).1.reconcile (t.reconcile sink xs).2 ys).1 ∧
      ((∀ n n', sink.failsAt n false = sink.failsAt n' false) →
        (t.reconcile sink (xs ++ ys)).2.text =
          ((t.reconcile sink xs).1.reconcile (t.reconcile sink xs).2 ys).2.text)) ∧
    (∀ (sink : Sink) (facts : List Fact),
      (t.reconcile sink facts).1 = ⟨t.jobs.filter fun job => ¬ Ended facts job.pid⟩) ∧
    (∀ (sink sink' : Sink) (facts facts' : List Fact), facts.Perm facts' →
      (t.reconcile sink facts).1 = (t.reconcile sink' facts').1) ∧
    (∀ facts facts' : List Fact,
      (∀ pid, facts.filter (fun fact => fact.pid == pid) =
        facts'.filter fun fact => fact.pid == pid) →
      (Text.lines (t.reconcile .healthy facts).2.text).Perm
        (Text.lines (t.reconcile .healthy facts').2.text)) ∧
    (∀ facts : List Fact,
      Text.lines (t.reconcile .healthy facts).2.text = (t.reports facts).map reportSentence ∧
      ((t.reports facts).map Prod.fst).Nodup ∧
      ∀ pid termination, (pid, termination) ∈ t.reports facts ↔
        pid ∈ t.pids ∧ firstEnd? facts pid = some termination) ∧
    ∀ (sink : Sink) (facts : List Fact),
      (t.reconcile sink facts).1 = (t.reconcile .healthy facts).1 ∧
      (t.reconcile sink facts).2.operations = sink.operations + (t.reports facts).length + 1 ∧
      (t.reconcile sink facts).2.text =
        sink.text ++ reportText (accepted sink (t.reports facts)) := by
  refine ⟨fun sink xs ys => ⟨?_, fun h => text_reconcile_append t h xs ys⟩, fun sink facts => ?_,
    fun sink sink' facts facts' h => ?_, fun facts facts' h => ?_, fun facts => ?_,
    fun sink facts => ⟨?_, ?_, ?_⟩⟩
  · rw [reconcile_fst, reconcile_fst, reconcile_fst, settleAll_append]
  · rw [reconcile_fst, settleAll_eq]
  · simp only [reconcile_fst, settleAll_eq, ended_congr h]
  · rw [lines_reconcile, lines_reconcile]
    exact (reports_perm t h).map reportSentence
  · exact ⟨lines_reconcile t facts, nodup_reports t facts, fun _ _ => mem_reports_iff⟩
  · rw [reconcile_fst, reconcile_fst]
  · rw [reconcile_snd]
  · rw [reconcile_snd]

/-- Two ends of one pid, an end of a pid that is not tracked and a word that tells of no end; and
a sink that fails at its first operation alone. -/
theorem reconcile_any_order_mixed :
    let t : JobTable := ⟨[{ pid := 7, input := "a &" }, { pid := 9, input := "b &" }]⟩
    let nine : List Fact := [⟨9, Termination.exitStatus 3⟩, ⟨9, Termination.exitStatus 4⟩]
    let seven : List Fact := [⟨7, 0x7f⟩, ⟨7, Termination.signalStatus 15⟩]
    let unknown : Fact := ⟨5, Termination.exitStatus 0⟩
    (t.reconcile .healthy (nine ++ unknown :: seven)).1 =
        (t.reconcile .refusingWrites (seven ++ unknown :: nine)).1 ∧
      (Text.lines (t.reconcile .healthy (nine ++ unknown :: seven)).2.text).Perm
        (Text.lines (t.reconcile .healthy (seven ++ unknown :: nine)).2.text) ∧
      Text.lines (t.reconcile .healthy (nine ++ unknown :: seven)).2.text =
        ["background pid 9 is done: exit value 3",
          "background pid 7 is done: terminated by signal 15"] ∧
      (t.reconcile { failsAt := fun n _ => n == 0 } (nine ++ unknown :: seven)).2.text =
        "background pid 7 is done: terminated by signal 15\n" := by
  intro t nine seven unknown
  obtain ⟨-, -, hperm, hlines, hreports, hsink⟩ := reconcile_any_order t
  refine ⟨hperm _ _ _ _ (by decide), hlines _ _ fun pid => ?_, ?_, ?_⟩
  · by_cases hnine : pid = 9
    · rw [hnine]
      decide
    · by_cases hseven : pid = 7
      · rw [hseven]
        decide
      · simp [nine, seven, unknown, List.filter_cons, Ne.symm hnine, Ne.symm hseven]
  · exact (hreports _).1.trans (by decide +kernel)
  · exact (hsink _ _).2.2.trans (by decide +kernel)

end JobTable

end JobShell
