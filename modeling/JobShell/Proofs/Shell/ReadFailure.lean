import JobShell.Proofs.Input.Breaking
import JobShell.Proofs.Shell.Loop

/-!
# When a reading fails

The loop reports what has ended, asks for the next line and is told of a failure. It says so in
one line and comes back; nothing else has become of the state that the last line has left
(`Shell.Closes`). Of a standard input that breaks only complete lines are run
(`Shell.read_failure_runs_complete_lines`).
-/

namespace JobShell

namespace JobTable

variable {t : JobTable}

theorem mem_jobs_settle {fact : Fact} {job : Job} :
    job ∈ (t.settle fact).jobs ↔
      job ∈ t.jobs ∧ ∀ report ∈ t.report? fact, report.1 ≠ job.pid := by
  cases hend : Termination.ofStatus? fact.status with
  | none => simp [settle, report?, hend]
  | some termination =>
      rw [settle, hend, if_pos (Option.isSome_some), erase, List.mem_filter, bne_iff_ne]
      by_cases htracked : fact.pid ∈ t.pids
      · rw [report?_of_mem hend htracked]
        simp [eq_comm]
      · rw [report?_of_notMem htracked]
        have hother (hjob : job ∈ t.jobs) : job.pid ≠ fact.pid :=
          fun hpid => htracked (hpid ▸ List.mem_map_of_mem hjob)
        simpa using hother

/-- A job is tracked as it was unless it is reported. -/
theorem mem_jobs_settleAll {facts : List Fact} {job : Job} :
    job ∈ (t.settleAll facts).jobs ↔
      job ∈ t.jobs ∧ ∀ report ∈ t.reports facts, report.1 ≠ job.pid := by
  induction facts generalizing t with
  | nil => simp [settleAll, reports]
  | cons fact facts ih =>
      change job ∈ ((t.settle fact).settleAll facts).jobs ↔ _
      rw [ih, mem_jobs_settle, reports, and_assoc]
      simp [or_imp, forall_and]

end JobTable

/-- Asking for a line takes input and shows the prompt, or nothing. -/
theorem LineSource.readLine_shows (source : LineSource) (prompt : String) (m : Machine) :
    ∃ input shown,
      (source.readLine prompt m).2.2 = { m with input, output := m.output ++ shown } ∧
        (shown = [] ∨ shown = Text.encode prompt) := by
  have hnothing (input : ByteReader) :
      { m with input } = { m with input, output := m.output ++ [] } := by
    rw [List.append_nil]
  match source with
  | listed [] none | listed [] (some _) | listed (_ :: _) _ =>
      exact ⟨m.input, [], hnothing m.input, Or.inl rfl⟩
  | plain =>
      rw [readLine_plain]
      exact ⟨_, _, rfl, Or.inr rfl⟩
  | editor =>
      obtain ⟨shown, hshown, hprompt⟩ : ∃ shown,
          (if m.atTerminal = true then m.print prompt else m) =
            { m with output := m.output ++ shown } ∧
          (shown = [] ∨ shown = Text.encode prompt) := by
        split
        · exact ⟨_, rfl, Or.inr rfl⟩
        · exact ⟨[], by rw [List.append_nil], Or.inl rfl⟩
      rw [readLine]
      simp only [hshown]
      split
      · split <;> exact ⟨_, shown, rfl, hprompt⟩
      · exact ⟨_, shown, rfl, hprompt⟩
      · exact ⟨_, shown, rfl, hprompt⟩

namespace Shell

section Greet

/-- The facts that a notification takes. -/
def noticed (s : Shell) : List Fact :=
  (Kernel.drainBatches JobTable.maxDrainPasses s.machine.kernel).1.flatten

theorem notify_eq (s : Shell) :
    ∃ kernel, s.notify = { s with
      jobs := s.jobs.settleAll s.noticed
      machine := { s.machine with
        kernel
        output := s.machine.output ++
          Text.encode (JobTable.reportText (s.jobs.reports s.noticed)) } } := by
  have htext := JobTable.text_reconcileBatches s.jobs .healthy
    (Kernel.drainBatches JobTable.maxDrainPasses s.machine.kernel).1 fun _ _ => rfl
  refine ⟨(Kernel.drainBatches JobTable.maxDrainPasses s.machine.kernel).2, ?_⟩
  rw [notify, JobTable.notify, JobTable.drain_eq]
  dsimp only
  rw [htext, JobTable.reconcileBatches_fst, Sink.healthy, String.empty_append]
  rfl

theorem pause_eq (s : Shell) :
    ∃ kernel arrivals, s.pause = { s with
      machine := { s.machine with kernel, outside := { s.machine.outside with arrivals } } } := by
  obtain ⟨kernel, arrivals, -, hpause⟩ := s.machine.pause_eq
  exact ⟨kernel, arrivals, by rw [pause, mapMachine, hpause]⟩

/-- What happens before a line is read: jobs that have ended are reported and forgotten, modes are
announced, and things arrive. -/
theorem greet_eq (s : Shell) :
    ∃ kernel arrivals announced modes, s.greet = { s with
      jobs := s.jobs.settleAll s.pause.noticed
      announced
      machine := { s.machine with
        kernel
        outside := { s.machine.outside with arrivals }
        output := s.machine.output ++
          Text.encode (JobTable.reportText (s.jobs.reports s.pause.noticed)) ++
          announcements modes } } := by
  obtain ⟨kernel₁, arrivals₁, hfirst⟩ := s.pause_eq
  obtain ⟨kernel₂, hnotified⟩ := s.pause.notify_eq
  obtain ⟨kernel₃, arrivals₃, hsecond⟩ := s.pause.notify.pause_eq
  obtain ⟨announced, modes, hannounced⟩ : ∃ announced modes,
      s.pause.notify.pause.announce = { s.pause.notify.pause with
        announced
        machine := { s.pause.notify.pause.machine with
          output := s.pause.notify.pause.machine.output ++ announcements modes } } :=
    ⟨_, _, announce_eq _⟩
  obtain ⟨kernel, arrivals, hlast⟩ := s.pause.notify.pause.announce.pause_eq
  generalize s.pause.noticed = facts at hnotified ⊢
  refine ⟨kernel, arrivals, announced, modes, ?_⟩
  rw [greet, hlast, hannounced, hsecond, hnotified, hfirst]

end Greet

/-- The loop has come back from the state `r` because a reading failed. Facts that waited in the
log have been reported, and the failure has been told in one line. The last result, the working
directory and all jobs that were not reported are as they were. -/
structure Closes (r : Shell) (f : Failure) (u : Shell) : Prop where
  last : u.last = r.last
  directory : u.machine.directory = r.machine.directory
  files : u.machine.files = r.machine.files
  taken : r.pause.machine.kernel.log.waiting <+: r.pause.noticed
  jobs : ∀ job, job ∈ u.jobs.jobs ↔
    job ∈ r.jobs.jobs ∧ ∀ report ∈ r.jobs.reports r.pause.noticed, report.1 ≠ job.pid
  output : ∃ modes shown, (shown = [] ∨ shown = Text.encode r.config.prompt) ∧
    u.machine.output = r.machine.output ++
      Text.encode (JobTable.reportText (r.jobs.reports r.pause.noticed)) ++
      announcements modes ++ shown
  errors : u.machine.errors = r.machine.errors ++ Text.encode ("smallsh: " ++ f.message ++ "\n")

variable {host : Host} {s r t : Shell} {source : LineSource} {lines : List String} {f : Failure}

theorem closes_of_asks {answer : Except Failure (Option String)}
    (h : Asks host s source lines r answer t) (f : Failure) :
    Closes r f (t.complain f.message) := by
  obtain ⟨last, next, machine, -, hread, rfl⟩ := h
  obtain ⟨input, shown, hmachine, hshown⟩ :=
    last.readLine_shows r.greet.config.prompt r.greet.machine
  rw [hread] at hmachine
  obtain rfl : machine = _ := hmachine
  obtain ⟨kernel, arrivals, announced, modes, hgreet⟩ := r.greet_eq
  have hconfig : r.greet.config = r.config := by rw [hgreet]
  rw [hconfig] at hshown
  rw [hgreet]
  exact {
    last := rfl
    directory := rfl
    files := rfl
    taken := Kernel.waiting_prefix_drainBatches _ _
    jobs := fun _ => JobTable.mem_jobs_settleAll
    output := ⟨modes, shown, hshown, rfl⟩
    errors := rfl }

theorem executeLines_of_asks_error (hinput : InputLeft OnlyTaken host s source)
    (h : Asks host s source lines r (.error f) t) :
    s.executeLines host source = .running (t.complain f.message) := by
  obtain ⟨last, next, machine, hruns, hread, rfl⟩ := h
  exact (executeLines_eq_iff hinput).2 ⟨lines, r, last, hruns, .failed hread⟩

theorem executeLines_of_asks_left (hinput : InputLeft OnlyTaken host s source) {line : String}
    {code : Nat} {m : Machine} (h : Asks host s source lines r (.ok (some line)) t)
    (hleft : t.pause.executeLine host line = .left code m) :
    s.executeLines host source = .left code m := by
  obtain ⟨last, next, machine, hruns, hread, rfl⟩ := h
  exact (executeLines_eq_iff hinput).2 ⟨lines, r, last, hruns, .left hread hleft⟩

open ByteReader (closedFront lineFeed)

/-- **A reading that fails never runs half a line.** The front that ends in the last line feed is
the longest one that ends in a line feed. Its lines are what a plain reader gives of a source that
breaks, for all bytes, portions and sizes of the buffer, and then a failure; a line that the
source has not completed is lost.

Whatever source the loop is given: of lines that are followed by a failure it runs all in their
order, or those up to one that leaves. Then it reports what is in the log, tells of the failure in
one line and comes back, and the last result, the working directory and every job that was not
reported are as the last line has left them. The lines are those that the source gives by itself
where it reads no input or the programs leave the input alone, and those that it gives to the loop
where they take from it. -/
theorem read_failure_runs_complete_lines :
    (∀ bytes : Bytes, closedFront bytes <+: bytes ∧
      (closedFront bytes = [] ∨ (closedFront bytes).getLast? = some lineFeed) ∧
      ∀ front, front <+: bytes → front.getLast? = some lineFeed → front <+: closedFront bytes) ∧
    (∀ (prompt : String) (capacity : Nat) (deliveries : List Bytes), [] ∉ deliveries →
      ∀ (m : Machine) (lines : List String) (failure : Option Failure),
        LineSource.plain.Gives prompt
            { m with input := { capacity, ahead := deliveries, broken := true } } lines failure ↔
          if capacity = 0 ∧ deliveries ≠ [] then lines = [] ∧ failure = none
          else lines = Text.lines (Text.decodeLossy (closedFront deliveries.flatten)) ∧
            failure = some (.because .io LineSource.brokenInput)) ∧
    (∀ (host : Host) (s : Shell) (source : LineSource) (lines : List String) (f : Failure),
      InputLeft Eq host s source → source.Gives s.config.prompt s.machine lines (some f) →
        (∃ r t, Asks host s source lines r (.error f) t ∧
          s.executeLines host source = .running (t.complain f.message) ∧
          Closes r f (t.complain f.message)) ∨
        ∃ front line rest r t code m, lines = front ++ line :: rest ∧
          Asks host s source front r (.ok (some line)) t ∧
          t.pause.executeLine host line = .left code m ∧
          s.executeLines host source = .left code m) ∧
    ∀ (host : Host) (s : Shell) (source : LineSource) (lines : List String) (f : Failure)
        (r t : Shell),
      InputLeft OnlyTaken host s source → Asks host s source lines r (.error f) t →
        s.executeLines host source = .running (t.complain f.message) ∧
          Closes r f (t.complain f.message) := by
  refine ⟨fun bytes => ⟨ByteReader.closedFront_prefix bytes, ?_,
      fun front => ByteReader.prefix_closedFront⟩,
    fun prompt capacity deliveries h m lines failure =>
      LineSource.plain_gives_of_broken prompt capacity h m lines failure,
    fun host s source lines f hinput hgives => ?_,
    fun host s source lines f r t hinput hasks =>
      ⟨executeLines_of_asks_error hinput hasks, closes_of_asks hasks f⟩⟩
  · exact or_iff_not_imp_left.2 ByteReader.getLast?_closedFront
  · have hleft := hinput.onlyTaken
    obtain ⟨r, t, hasks⟩ | ⟨front, line, rest, r, t, code, m, hlines, hasks, hline⟩ :=
      asks_of_gives hinput hgives rfl
    · exact Or.inl ⟨r, t, hasks, executeLines_of_asks_error hleft hasks, closes_of_asks hasks f⟩
    · exact Or.inr ⟨front, line, rest, r, t, code, m, hlines, hasks, hline,
        executeLines_of_asks_left hleft hasks hline⟩

/-- Standard input breaks off behind a command, within a request to leave. While the command is
run a background child ends, and another one goes on. -/
theorem read_failure_runs_complete_lines_exit : ∃ (host : Host) (s r t : Shell),
    s.machine.input.ahead = [Text.encode "p\nex", Text.encode "it"] ∧
      LineSource.plain.Gives s.config.prompt s.machine ["p"]
        (some (.because .io LineSource.brokenInput)) ∧
      Asks host s .plain ["p"] r (.error (.because .io LineSource.brokenInput)) t ∧
      r.last = some (.exited 3) ∧ r.jobs.pids = [7, 8] ∧
      r.machine.kernel.log.waiting = [⟨7, 0⟩] ∧
      s.executeLines host .plain =
        .running (t.complain "I/O error occurred: source broke") ∧
      (t.complain "I/O error occurred: source broke").last = some (.exited 3) ∧
      (t.complain "I/O error occurred: source broke").jobs.jobs =
        [{ pid := 8, input := "y &" }] := by
  let host : Host :=
    { run _ around :=
        .ended ⟨around.files, around.ahead, [], [], [], []⟩ (Termination.exitStatus 3) }
  let m : Machine := {
    kernel := { children := [{ pid := 7 }, { pid := 8 }], signals := .forShell {} }
    files := { entries := [([], .directory), (["p"], .program "p")] }
    places := ["/"]
    outside := { arrivals := [[], [], [], [.childEnds 7 0]] } }
  let s : Shell := {
    jobs := (JobTable.empty.create 7 "x &").create 8 "y &"
    machine := { m with input :=
      { capacity := 4, ahead := [Text.encode "p\nex", Text.encode "it"], broken := true } } }
  have hhost : host.Leaves Eq := fun _ _ => .ended rfl
  have hinput : InputLeft Eq host s .plain := ⟨hhost, fun _ hs => absurd hs List.not_mem_nil⟩
  obtain ⟨-, hplain, -, hasked⟩ := read_failure_runs_complete_lines
  have hgives := (hplain s.config.prompt 4 [Text.encode "p\nex", Text.encode "it"] (by decide)
    m ["p"] (some (.because .io LineSource.brokenInput))).2 (by decide)
  have hread {u : Shell} {answer : Except Failure (Option String)}
      (h : LineSource.plainAnswer u.greet.machine.input.readLine.1 = answer) :
      LineSource.plain.readLine u.greet.config.prompt u.greet.machine = (answer, .plain,
        { u.greet.machine.print u.greet.config.prompt with
          input := u.greet.machine.input.readLine.2 }) := by
    rw [LineSource.readLine_plain, h]
  obtain ⟨r, hline, hbroken, hlast, hpids, hlog, hjobs⟩ : ∃ r,
      Shell.executeLine host (Shell.pause { s.greet with
        machine := { s.greet.machine.print s.greet.config.prompt with
          input := s.greet.machine.input.readLine.2 } }) "p" = .running r ∧
      LineSource.plainAnswer r.greet.machine.input.readLine.1 =
        .error (.because .io LineSource.brokenInput) ∧
      r.last = some (.exited 3) ∧ r.jobs.pids = [7, 8] ∧
      r.machine.kernel.log.waiting = [⟨7, 0⟩] ∧
      r.greet.jobs.jobs = [{ pid := 8, input := "y &" }] :=
    ⟨_, rfl, by decide +kernel, by decide +kernel, by decide +kernel, by decide +kernel,
      by decide +kernel⟩
  have hasks : Asks host s .plain ["p"] r (.error (.because .io LineSource.brokenInput)) _ :=
    ⟨.plain, .plain, _, .line (hread (by decide +kernel)) hline (.nil r .plain), hread hbroken, rfl⟩
  obtain ⟨hrun, hcloses⟩ := hasked host s .plain ["p"] _ r _ hinput.onlyTaken hasks
  exact ⟨host, s, r, _, rfl, hgives, hasks, hlast, hpids, hlog, hrun, hcloses.last.trans hlast,
    hjobs⟩

end Shell

end JobShell
