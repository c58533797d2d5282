import JobShell.CommandLine.Basic
import JobShell.Proofs.Job.Contents
import JobShell.Proofs.Shell.Going
import JobShell.Proofs.Text.Numerals
import Mathlib.Data.List.Count
import Mathlib.Data.List.Nodup

/-!
# Leaving

Wherever the loop has got to, the job table knows every child that still runs, and the shell has
sent no signal. So what is sent on leaving is one request to terminate for each tracked pid, and
one for each running child among them (`Shell.leaving_terminates_jobs`). The exit status is the
low byte of the number that `exit` was given (`Builtin.ExitNumber`).
-/

namespace JobShell

namespace JobTable

variable {t : JobTable}

theorem Sorted.settleAll (h : t.Sorted) (facts : List Fact) : (t.settleAll facts).Sorted := by
  induction facts generalizing t with
  | nil => exact h
  | cons fact facts ih =>
      refine ih ?_
      rw [settle]
      split
      · exact h.erase fact.pid
      · exact h

theorem Sorted.nodup (h : t.Sorted) : t.pids.Nodup :=
  List.Pairwise.imp (fun hless => Int.ne_of_lt hless) h

/-- The requests on leaving. -/
def dismissals (t : JobTable) : List (Pid × Nat) :=
  t.pids.map fun pid => (pid, Signal.terminate)

/-- Whatever the system answers to one request, the others are made as well. -/
theorem sent_terminateAll (t : JobTable) (k : Kernel) (denials : Denials) :
    (t.terminateAll k denials).2.sent = k.sent ++ t.dismissals := by
  rw [terminateAll, dismissals]
  induction t.pids generalizing k with
  | nil => exact (List.append_nil _).symm
  | cons pid pids ih =>
      rw [List.foldl_cons, ih, terminate_eq, k.sent_kill, List.map_cons, List.append_assoc]
      rfl

theorem Sorted.count_dismissals (h : t.Sorted) {pid : Pid} (hpid : pid ∈ t.pids) :
    t.dismissals.count (pid, Signal.terminate) = 1 := by
  rw [dismissals, List.count_map_of_injective _ _ (fun _ _ heq => (Prod.mk.inj heq).1)]
  exact List.count_eq_one_of_mem h.nodup hpid

end JobTable

namespace Tracking

variable {s : Tracking} {history : List Event}

/-- The table of every state that a run reaches is in order. -/
theorem Run.sorted {supply : PidSupply} {signals : SignalSetup}
    (run : Run supply (start signals) history s) : s.jobs.Sorted := by
  induction run with
  | nil => exact JobTable.sorted_empty
  | snoc run step ih =>
      cases step with
      | notify sink hidle =>
          rw [jobs_notified]
          exact ih.settleAll _
      | register pid line hstage => exact ih.create pid line
      | launchBackground | launchForeground | wait | move | mask => exact ih

/-- While the main loop is with no launch, every running child is that of a tracked job. -/
theorem Balanced.tracked_of_running (h : s.Balanced history) (hidle : s.stage = .idle)
    {c : Child} (hc : c ∈ s.kernel.children) (hrunning : c.isRunning = true) :
    c.pid ∈ s.jobs.pids := by
  obtain ⟨fate, -, hagrees⟩ := h.accounted c.pid
  have hmem : c.pid ∈ s.view.running :=
    List.mem_map.2 ⟨c, List.mem_filter.2 ⟨hc, hrunning⟩, rfl⟩
  obtain ⟨background, rfl⟩ := hagrees.eq_running hmem
  have hminds : s.view.Minds c.pid background := hagrees.2.2
  have hstage : s.view.stage.launching c.pid = none := by
    change s.stage.launching c.pid = none
    rw [hidle, Stage.launching_idle]
  cases background with
  | true =>
      obtain ⟨hjob, -⟩ | ⟨-, hlaunching⟩ := hminds
      · exact hjob
      · exact absurd (hstage.symm.trans hlaunching) nofun
  | false => exact absurd (hstage.symm.trans hminds.2) nofun

end Tracking

namespace Builtin

/-- The number with which `exit` leaves: none is 0, a decimal number of 32 bits is its value, and
anything else is 2. Only the first argument counts. -/
inductive ExitNumber : List String → Int → Prop where
  | none : ExitNumber [] 0
  | number {argument : String} {rest : List String} {n : Int} (h : Text.Denotes argument n)
      (hlow : -2 ^ 31 ≤ n) (hhigh : n < 2 ^ 31) : ExitNumber (argument :: rest) n
  | other {argument : String} {rest : List String}
      (h : ¬ ∃ n, Text.Denotes argument n ∧ -2 ^ 31 ≤ n ∧ n < 2 ^ 31) :
      ExitNumber (argument :: rest) 2

theorem exitNumber_iff {arguments : List String} {n : Int} :
    ExitNumber arguments n ↔ n = (exitCode arguments).1.getD 0 := by
  cases arguments with
  | nil =>
      constructor
      · rintro ⟨⟩
        rfl
      · rintro rfl
        exact .none
  | cons argument rest =>
      rw [exitCode]
      cases hread : Text.readWord? argument with
      | some m =>
          obtain ⟨hdenotes, hlow, hhigh⟩ := Text.readWord?_eq_some_iff.1 hread
          constructor
          · intro h
            cases h with
            | number hdenotes' hlow' hhigh' =>
                have hread' := Text.readWord?_eq_some_iff.2 ⟨hdenotes', hlow', hhigh'⟩
                exact Option.some.inj (hread'.symm.trans hread)
            | other hnone => exact absurd ⟨m, hdenotes, hlow, hhigh⟩ hnone
          · rintro rfl
            exact .number hdenotes hlow hhigh
      | none =>
          have hnone : ¬ ∃ n, Text.Denotes argument n ∧ -2 ^ 31 ≤ n ∧ n < 2 ^ 31 := by
            rintro ⟨n, h⟩
            exact nomatch hread.symm.trans (Text.readWord?_eq_some_iff.2 h)
          constructor
          · intro h
            cases h with
            | number hdenotes hlow hhigh => exact absurd ⟨n, hdenotes, hlow, hhigh⟩ hnone
            | other => rfl
          · rintro rfl
            exact .other hnone

end Builtin

namespace Shell

/-- The exit status is the low byte of a number of 32 bits. -/
theorem exitStatus_eq_lowByte (n : Int) :
    exitStatus n = ((BitVec.ofInt 32 n).setWidth 8).toNat := by
  rw [exitStatus, BitVec.toNat_setWidth, BitVec.toNat_ofInt]
  omega

/-- A shell that has just installed its handlers. What is still to come from outside ends
children by ends only, and at most interrupts a wait. -/
structure Fresh (s : Shell) : Prop where
  kernel : ∃ signals : SignalSetup, s.machine.kernel = { signals := signals.forShell }
  jobs : s.jobs = {}
  sleepers : s.machine.sleepers = []
  arrivals : ∀ events ∈ s.machine.outside.arrivals, ∀ a ∈ events, Arrival.Ends a
  waits : ∀ e ∈ s.machine.outside.waitErrors, e = .interrupted

/-- If the line launches a child, the system does not give it a pid that is still tracked. -/
def ForksUntracked (host : Host) (s : Shell) (line : String) : Prop :=
  ∀ (c : Command) (foregroundOnly : Bool) (answer : Except Failure Machine.Launched)
    (image : ChildImage) (pid : Pid),
    s.fate host line = .dispatched c foregroundOnly answer →
      ChildImage.ofCommand c (c.background && !foregroundOnly) = .ok image →
        s.pause.machine.beforeFork.fork.1 = .ok pid → pid ∉ s.jobs.pids

variable {host : Host} {s t : Shell} {signals : SignalSetup} {history : List Event}

theorem traced_executeLine (hhost : host.Ends) (h : s.Traced signals history) {line : String}
    (hforks : s.ForksUntracked host line) (hline : s.executeLine host line = .running t) :
    ∃ history', t.Traced signals history' := by
  have hdispatch := dispatch_executeLine host s line
  rw [hline] at hdispatch
  rw [ForksUntracked] at hforks
  generalize s.fate host line = fate at hdispatch hforks
  generalize hanswer : Progress.running t = answer at hdispatch
  cases hdispatch with
  | skipped =>
      cases hanswer
      exact ⟨history, h⟩
  | refused e =>
      cases hanswer
      exact ⟨history, h.same rfl rfl rfl⟩
  | builtin b arguments =>
      rw [runBuiltin] at hanswer
      dsimp only at hanswer
      split at hanswer
      · cases hanswer
        exact ⟨history, h.same rfl rfl rfl⟩
      · cases hanswer
        exact ⟨history, h.same rfl rfl rfl⟩
      · cases hanswer
      · cases hanswer
  | @launched c foregroundOnly hmode =>
      cases hanswer
      obtain ⟨events, hpaused, -⟩ := traced_pause h
      cases himage : ChildImage.ofCommand c (c.background && !foregroundOnly) with
      | error f =>
          have hspawn : s.pause.machine.spawn host c
              (c.background && !s.pause.machine.kernel.mode.isForegroundOnly) =
                (.error f, s.pause.machine) := by
            rw [hmode, Machine.spawn, himage]
          rw [launch, hspawn]
          exact ⟨_, hpaused.same rfl rfl rfl⟩
      | ok image =>
          obtain ⟨later, hlaunched, -⟩ := traced_launch hhost hpaused line c
            fun pid hpid => hforks c foregroundOnly _ image pid rfl himage hpid
          exact ⟨_, hlaunched⟩

/-- Wherever the loop gets to, some run of tracking leads there. -/
theorem Goes.traced (hhost : host.Ends) (h : s.Traced signals history)
    (goes : Goes host (fun t line => t.ForksUntracked host line) s t) :
    ∃ history', t.Traced signals history' := by
  induction goes with
  | refl => exact ⟨history, h⟩
  | pause _ ih =>
      obtain ⟨history', h'⟩ := ih
      obtain ⟨events, hpaused, -⟩ := traced_pause h'
      exact ⟨_, hpaused⟩
  | notify _ ih =>
      obtain ⟨history', h'⟩ := ih
      exact ⟨_, (traced_notify h').1⟩
  | announce _ ih =>
      obtain ⟨history', h'⟩ := ih
      exact ⟨_, traced_announce h'⟩
  | @read t _ source prompt ih =>
      obtain ⟨history', h'⟩ := ih
      obtain ⟨input, output, hread⟩ := readLine_machine source prompt t.machine
      rw [hread]
      exact ⟨history', h'.same rfl rfl rfl⟩
  | complain _ text ih =>
      obtain ⟨history', h'⟩ := ih
      exact ⟨history', h'.same rfl rfl rfl⟩
  | line _ hallows hline ih =>
      obtain ⟨history', h'⟩ := ih
      exact traced_executeLine hhost h' hallows hline

/-- The shell on a system that denies these signals. -/
def denying (s : Shell) (denials : Denials) : Shell :=
  s.mapMachine fun m => { m with outside := { m.outside with denials } }

theorem exit_eq (s : Shell) (code : Option Int) :
    ∃ m, s.exit code = .left (exitStatus (code.getD 0)) m ∧
      m.kernel = (s.jobs.terminateAll s.machine.kernel s.machine.outside.denials).2 := by
  have hprint : ∃ s', (if s.config.showMessages = true then s.print "exit\n" else s) = s' ∧
      s'.jobs = s.jobs ∧ s'.machine.kernel = s.machine.kernel ∧
        s'.machine.outside = s.machine.outside := by
    split <;> exact ⟨_, rfl, rfl, rfl, rfl⟩
  obtain ⟨s', hs', hjobs, hkernel, houtside⟩ := hprint
  rw [exit, hs', ← hjobs, ← hkernel, ← houtside]
  exact ⟨_, rfl, rfl⟩

theorem runBuiltin_exit (s : Shell) (arguments : List String) :
    ∃ m, s.runBuiltin .exit arguments =
        .left (exitStatus ((Builtin.exitCode arguments).1.getD 0)) m ∧
      m.kernel = (s.jobs.terminateAll s.machine.kernel s.machine.outside.denials).2 := by
  rw [runBuiltin, Builtin.run]
  generalize Builtin.exitCode arguments = answer
  obtain ⟨code, complaint⟩ := answer
  cases complaint with
  | none => exact (s.print Sink.healthy.text).exit_eq code
  | some text => exact ((s.print Sink.healthy.text).complain text).exit_eq code

theorem executeLine_of_builtin {line : String} {b : Builtin} {arguments : List String}
    (hfate : s.fate host line = .builtin b arguments) :
    s.executeLine host line = s.runBuiltin b arguments := by
  have hdispatch := dispatch_executeLine host s line
  rw [hfate] at hdispatch
  generalize s.executeLine host line = answer at hdispatch ⊢
  cases hdispatch
  rfl

/-- What the shell has sent to its children in the end are its requests on leaving, and every
child that was running got exactly one of them. -/
structure Dismisses (s : Shell) (m : Machine) : Prop where
  sent : m.kernel.sent = s.jobs.dismissals
  once : ∀ c ∈ s.machine.kernel.children, c.isRunning = true →
    m.kernel.sent.count (c.pid, Signal.terminate) = 1

/-- **Leaving asks every job to terminate.** A shell is started and its loop brings it anywhere,
while the system gives to no new child a pid that is still tracked. Then every running child is
that of a tracked job, no pid is tracked twice, and nothing has been sent. When the shell now
leaves, by `exit` or at the end of its input, what it sends is one request to terminate for each
tracked pid, so each running child gets exactly one. Which children the system denies a signal to,
and with which errors it does, makes no difference to this.

The exit status is the low byte of the number that `exit` was given, and 0 at the end of input.
Whatever a source still holds, nothing of it is run. -/
theorem leaving_terminates_jobs (hhost : host.Ends) (hfresh : s.Fresh)
    (goes : Goes host (fun t line => t.ForksUntracked host line) s t) :
    (∀ c ∈ t.machine.kernel.children, c.isRunning = true → c.pid ∈ t.jobs.pids) ∧
    t.jobs.pids.Nodup ∧
    t.machine.kernel.sent = [] ∧
    (∀ (line : String) (arguments : List String), t.fate host line = .builtin .exit arguments →
      ∃ (n : Int) (m : Machine), (∀ n', Builtin.ExitNumber arguments n' ↔ n' = n) ∧
        t.executeLine host line = .left (n % 256).toNat m ∧
        (n % 256).toNat = ((BitVec.ofInt 32 n).setWidth 8).toNat ∧
        t.Dismisses m ∧
        ∀ (r : Shell) (source next : LineSource) (machine : Machine) (turns : Nat),
          source.readLine r.greet.config.prompt r.greet.machine =
              (.ok (some line), next, machine) →
            Shell.pause { r.greet with machine } = t →
              executeLinesFrom host (turns + 1) r source = .left (n % 256).toNat m) ∧
    (∃ m, CommandLine.finish s (.ok (.running t)) = .left 0 m ∧ t.Dismisses m) ∧
    ∀ (denials : Denials) (code : Option Int),
      ∃ m, (t.denying denials).exit code = .left (exitStatus (code.getD 0)) m ∧
        t.Dismisses m := by
  obtain ⟨signals, hkernel⟩ := hfresh.kernel
  have hstart := traced_start hkernel hfresh.jobs hfresh.sleepers hfresh.arrivals hfresh.waits
  obtain ⟨history, htraced⟩ := goes.traced hhost hstart
  have htracked (c : Child) (hc : c ∈ t.machine.kernel.children) (hrunning : c.isRunning = true) :
      c.pid ∈ t.jobs.pids :=
    htraced.run.balanced.tracked_of_running rfl hc hrunning
  have hsorted : t.jobs.Sorted := htraced.run.sorted
  have hsent : t.machine.kernel.sent = [] := by
    have hsteady : s.machine.Steady False t.machine := goes.steady False.elim False.elim
    rw [hsteady.sent, hkernel]
  have hdismisses {m : Machine} {denials : Denials}
      (hm : m.kernel = (t.jobs.terminateAll t.machine.kernel denials).2) : t.Dismisses m := by
    have hall : m.kernel.sent = t.jobs.dismissals := by
      rw [hm, JobTable.sent_terminateAll, hsent, List.nil_append]
    refine ⟨hall, fun c hc hrunning => ?_⟩
    rw [hall]
    exact hsorted.count_dismissals (htracked c hc hrunning)
  refine ⟨htracked, hsorted.nodup, hsent, fun line arguments hfate => ?_, ?_,
    fun denials code => ?_⟩
  · obtain ⟨m, hleft, hm⟩ := t.runBuiltin_exit arguments
    have hline := executeLine_of_builtin hfate
    refine ⟨_, m, fun n' => Builtin.exitNumber_iff, hline.trans hleft, exitStatus_eq_lowByte _,
      hdismisses hm, fun r source next machine turns hread hr => ?_⟩
    rw [executeLinesFrom]
    simp only [hread, hr, hline, hleft]
    rfl
  · obtain ⟨m, hleft, hm⟩ := t.exit_eq none
    exact ⟨m, hleft, hdismisses hm⟩
  · obtain ⟨m, hleft, hm⟩ := (t.denying denials).exit_eq code
    exact ⟨m, hleft, hdismisses hm⟩

/-- A shell with two background children that sleep, to the first of which the system lets nobody
send a signal, leaves with 255 on `exit -257 x`, and with 0 at the end of input. Either way each
child is sent one signal, and only the second one has ended then. -/
theorem leaving_terminates_jobs_denied : ∃ (host : Host) (s t : Shell) (m m' : Machine),
    s.Goes host (fun t line => t.ForksUntracked host line) t ∧
      s.machine.outside.denials = [(1, .notPermitted)] ∧ t.machine.kernel.runningPids = [1, 2] ∧
      t.executeLine host "exit -257 x" = .left 255 m ∧ m.kernel.sent = [(1, 15), (2, 15)] ∧
      m.kernel.runningPids = [1] ∧
      CommandLine.finish s (.ok (.running t)) = .left 0 m' ∧
      m'.kernel.sent = [(1, 15), (2, 15)] := by
  let host : Host :=
    { run _ around := .asleep ⟨around.files, around.ahead, [], [], [], []⟩ 1000 fun around =>
        .ended ⟨around.files, around.ahead, [], [], [], []⟩ (Termination.exitStatus 3) }
  let s : Shell := { machine := {
    kernel := { signals := .forShell {} }
    files := { entries := [([], .directory), (["p"], .program "p"), (["dev"], .directory),
      (["dev", "null"], .device false)] }
    places := ["/"]
    outside := { denials := [(1, .notPermitted)] } } }
  have hhost : host.Ends := fun _ _ => .asleep fun _ => .ended (by decide)
  have hfresh : s.Fresh := ⟨⟨{}, rfl⟩, rfl, rfl, nofun, nofun⟩
  obtain ⟨t, u, hfirst, hsecond, hfork, hpids, hrunning, hjobs, hexit, hspared⟩ :
      ∃ t u, s.executeLine host "p &" = .running t ∧ t.executeLine host "p &" = .running u ∧
        t.pause.machine.beforeFork.fork.1 = .ok 2 ∧ t.jobs.pids = [1] ∧
        u.machine.kernel.runningPids = [1, 2] ∧ u.jobs.dismissals = [(1, 15), (2, 15)] ∧
        u.fate host "exit -257 x" = .builtin .exit ["-257", "x"] ∧
        (u.jobs.terminateAll u.machine.kernel u.machine.outside.denials).2.runningPids = [1] :=
    ⟨_, _, rfl, rfl, by decide +kernel, by decide +kernel, by decide +kernel, by decide +kernel,
      rfl, by decide +kernel⟩
  have hforks : s.ForksUntracked host "p &" :=
    fun _ _ _ _ _ _ _ _ => List.not_mem_nil
  have hforks' : t.ForksUntracked host "p &" := by
    intro _ _ _ _ pid _ _ hpid
    cases hfork.symm.trans hpid
    rw [hpids]
    decide
  have goes : s.Goes host (fun t line => t.ForksUntracked host line) u :=
    (Goes.line .refl hforks hfirst).line hforks' hsecond
  obtain ⟨-, -, -, hleave, ⟨m', hfinish, hdismisses'⟩, -⟩ :=
    leaving_terminates_jobs hhost hfresh goes
  obtain ⟨n, m, hnumber, hleft, -, hdismisses, -⟩ := hleave _ _ hexit
  have hnumeral : Text.IsNumeral ['2', '5', '7'] 257 := ⟨by decide, List.all_eq_true.1 rfl, rfl⟩
  have hdenotes : Text.Denotes "-257" (-257) := .minus rfl hnumeral
  obtain rfl := (hnumber (-257)).1 (.number hdenotes (by omega) (by omega))
  obtain ⟨m₁, hleft₁, hm⟩ := u.runBuiltin_exit ["-257", "x"]
  rw [← executeLine_of_builtin hexit, hleft] at hleft₁
  obtain ⟨-, rfl⟩ := Progress.left.inj hleft₁
  exact ⟨host, s, u, m, m', goes, rfl, hrunning, hleft, hdismisses.sent.trans hjobs,
    hm ▸ hspared, hfinish, hdismisses'.sent.trans hjobs⟩

end Shell

end JobShell
