import JobShell.Proofs.Input.Lines
import JobShell.Proofs.Machine.Intake
import JobShell.Proofs.Shell.Failing

/-!
# The loop over a source

The loop runs the lines that a source gives when it is asked for them, one after the other
(`Shell.Runs`), and stops where the source ends or fails or a line leaves (`Shell.Stops`). This is
all that it does (`Shell.executeLines_iff`), if nobody adds to the standard input: each line of it
then leaves less behind, so that the loop has turns enough.

Where nobody takes from the input either, the lines that are run are those that the source gives
by itself (`Shell.follows_of_gives`).
-/

namespace JobShell

namespace ByteReader

theorem cutLine_lengths {bytes line rest : Bytes} (h : cutLine bytes = some (line, rest)) :
    line ≠ [] ∧ line.length + rest.length = bytes.length := by
  induction bytes generalizing line with
  | nil => cases h
  | cons b bytes ih =>
      rw [cutLine] at h
      split at h
      · cases h
        exact ⟨List.cons_ne_nil _ _, Nat.add_comm ..⟩
      · obtain ⟨⟨tail, left⟩, htail, heq⟩ := Option.map_eq_some_iff.1 h
        cases heq
        obtain ⟨-, hlength⟩ := ih htail
        refine ⟨List.cons_ne_nil _ _, ?_⟩
        rw [List.length_cons, List.length_cons, ← hlength, Nat.add_right_comm]

theorem remaining_emptied_fetch (r : ByteReader) :
    r.buffered.length + r.emptied.fetch.remaining = r.remaining := by
  have hfetched : r.emptied.fetch.remaining = r.portion.length + r.emptied.fetch.upcoming := rfl
  rw [hfetched, upcoming_fetch, remaining]

/-- What is read as a line is not empty, and no byte of it remains. -/
def Spends (before : Bytes) (r : ByteReader) (read : Line × ByteReader) : Prop :=
  ∀ bytes, read.1 = .line bytes →
    bytes ≠ [] ∧ bytes.length + read.2.remaining = before.length + r.remaining

theorem spends_of_cut {portions : Nat} {before line rest : Bytes} {r : ByteReader}
    (hcut : cutLine r.buffered = some (line, rest)) :
    Spends before r (readFrom portions before r) := by
  obtain ⟨hne, hlengths⟩ := cutLine_lengths hcut
  rw [readFrom_of_cut hcut]
  rintro bytes ⟨⟩
  refine ⟨by simp [hne], ?_⟩
  change (before ++ line).length + (rest.length + r.upcoming) = _
  rw [List.length_append, remaining]
  omega

theorem spends_of_end {portions : Nat} {before : Bytes} {r : ByteReader}
    (hcut : cutLine r.buffered = none) (hportion : r.portion = []) :
    Spends before r (readFrom portions before r) := by
  rw [readFrom_of_end hcut hportion]
  intro bytes hline
  split at hline
  · cases hline
  · split at hline
    · cases hline
    · next hbroken hne =>
        cases hline
        have hrest := remaining_emptied_fetch r
        rw [if_neg hbroken, if_neg hne, List.length_append]
        dsimp only
        exact ⟨mt List.isEmpty_iff.2 hne, by omega⟩

theorem spends_readFrom (portions : Nat) (before : Bytes) {r : ByteReader}
    (hportions : r.upcoming ≤ portions) : Spends before r (readFrom portions before r) := by
  induction portions generalizing before r with
  | zero =>
      cases hcut : cutLine r.buffered with
      | some cut => exact spends_of_cut hcut
      | none =>
          have hsum := upcoming_fetch r
          exact spends_of_end hcut (List.length_eq_zero_iff.1 (by omega))
  | succ portions ih =>
      cases hcut : cutLine r.buffered with
      | some cut => exact spends_of_cut hcut
      | none =>
          by_cases hportion : r.portion = []
          · exact spends_of_end hcut hportion
          · have hsum := upcoming_fetch r
            have hpos := List.length_pos_iff.2 hportion
            have hrest := remaining_emptied_fetch r
            rw [readFrom_of_portion hcut hportion]
            intro bytes hline
            obtain ⟨hne, hlength⟩ := ih (before ++ r.buffered) (r := r.emptied.fetch)
              (by omega) bytes hline
            rw [List.length_append] at hlength
            exact ⟨hne, by omega⟩

/-- A line takes at least one byte from what can be handed on. -/
theorem remaining_readLine {r r' : ByteReader} {bytes : Bytes}
    (h : r.readLine = (.line bytes, r')) : r'.remaining < r.remaining := by
  have hspends := spends_readFrom r.upcoming [] (Nat.le_refl _)
  rw [← readLine, h] at hspends
  obtain ⟨hne, hlength⟩ := hspends bytes rfl
  have hpos := List.length_pos_iff.2 hne
  simp only [List.length_nil] at hlength
  omega

end ByteReader

namespace LineSource

/-- The input that a source reads, if it reads any. -/
def input? (m : Machine) : LineSource → Option ByteReader
  | listed _ _ => none
  | plain | editor => some m.input

theorem input?_congr {m m' : Machine} (h : m'.input = m.input) (source : LineSource) :
    source.input? m' = source.input? m := by
  cases source with
  | listed => rfl
  | plain | editor => exact congrArg some h

/-- Of all that is on the machine, what a source answers rests on the input that it reads. -/
theorem readLine_congr {source next : LineSource} {prompt : String} {m m' read : Machine}
    {answer : Except Failure (Option String)} (h : source.input? m' = source.input? m)
    (hread : source.readLine prompt m = (answer, next, read)) (prompt' : String) :
    ∃ read', source.readLine prompt' m' = (answer, next, read') ∧
      next.input? read' = next.input? read := by
  have hprinted (m : Machine) (prompt : String) :
      (if m.atTerminal = true then m.print prompt else m).input = m.input := by
    split <;> rfl
  match source with
  | listed [] none | listed [] (some _) | listed (_ :: _) _ =>
      cases hread
      exact ⟨m', rfl, rfl⟩
  | plain =>
      have hinput : m'.input = m.input := Option.some.inj h
      rw [readLine_plain] at hread ⊢
      rw [hinput]
      cases hread
      exact ⟨_, rfl, rfl⟩
  | editor =>
      have hinput : m'.input = m.input := Option.some.inj h
      rw [readLine] at hread ⊢
      simp only [hprinted, hinput] at hread ⊢
      generalize m.input.readLine = front at hread ⊢
      obtain ⟨bytes | _ | _, input⟩ := front
      · dsimp only at hread ⊢
        cases hline : editorLine? bytes <;> rw [hline] at hread <;> cases hread <;>
          exact ⟨_, rfl, rfl⟩
      · cases hread
        exact ⟨_, rfl, rfl⟩
      · cases hread
        exact ⟨_, rfl, rfl⟩

/-- With each line that a source gives, fewer are left that it can give. -/
theorem bound_readLine {source next : LineSource} {prompt line : String} {m m' : Machine}
    (h : source.readLine prompt m = (.ok (some line), next, m')) :
    next.bound m' < source.bound m := by
  match source with
  | listed [] none | listed [] (some _) => cases h
  | listed (_ :: rest) _ =>
      cases h
      exact Nat.lt_succ_self rest.length
  | plain =>
      rw [readLine_plain] at h
      cases hread : m.input.readLine with
      | mk read input =>
          rw [hread] at h
          cases read with
          | line bytes =>
              cases h
              exact ByteReader.remaining_readLine hread
          | ended | broke => cases h
  | editor =>
      have hinput : (if m.atTerminal = true then m.print prompt else m).input = m.input := by
        split <;> rfl
      rw [readLine] at h
      simp only [hinput] at h
      split at h
      · next bytes input hread =>
          split at h
          · cases h
            exact ByteReader.remaining_readLine hread
          · cases h
      · cases h
      · cases h

end LineSource

namespace Shell

section Leaves

variable {R : List Bytes → List Bytes → Prop} [IsPreorder (List Bytes) R] {host : Host}
  {s t : Shell} {line : String}

theorem notify_leaves (s : Shell) : s.machine.Leaves R s.notify.machine :=
  .of_input rfl fun _ hs => hs

theorem announce_leaves (s : Shell) : s.machine.Leaves R s.announce.machine := by
  rw [announce_eq]
  exact .of_input rfl fun _ hs => hs

theorem greet_leaves (s : Shell) : s.machine.Leaves R s.greet.machine := by
  have hnotified : s.machine.Leaves R s.pause.notify.machine :=
    s.machine.pause_leaves.trans (notify_leaves s.pause)
  have hannounced := (hnotified.trans (Machine.pause_leaves _)).trans
    (announce_leaves s.pause.notify.pause)
  exact hannounced.trans (Machine.pause_leaves _)

theorem runBuiltin_leaves {b : Builtin} {arguments : List String}
    (h : s.runBuiltin b arguments = .running t) : s.machine.Leaves R t.machine := by
  rw [runBuiltin] at h
  dsimp only at h
  split at h
  · cases h
    exact .of_input rfl fun _ hs => hs
  · cases h
    exact .of_input rfl fun _ hs => hs
  · cases h
  · cases h

theorem launch_leaves (hhost : host.Leaves R) (h : s.machine.SleepersLeave R) (line : String)
    (c : Command) : s.machine.Leaves R (s.launch host line c).machine := by
  have hspawn := Machine.spawn_leaves hhost h c
    (c.background && !s.machine.kernel.mode.isForegroundOnly)
  rw [launch]
  generalize s.machine.spawn host c
    (c.background && !s.machine.kernel.mode.isForegroundOnly) = answered at hspawn ⊢
  obtain ⟨answer, m⟩ := answered
  cases answer with
  | error f => exact hspawn.trans (.of_input rfl fun _ hs => hs)
  | ok launched =>
      cases launched with
      | background pid => exact (hspawn.trans m.pause_leaves).trans (.of_input rfl fun _ hs => hs)
      | foreground termination =>
          -- Only a signal is told of, which does not touch the input either.
          rcases termination with _ | code | signal
          · exact hspawn
          · exact hspawn
          · exact hspawn.trans (.of_input rfl fun _ hs => hs)

theorem executeLine_leaves (hhost : host.Leaves R) (h : s.machine.SleepersLeave R)
    (hline : s.executeLine host line = .running t) : s.machine.Leaves R t.machine := by
  have hdispatch := dispatch_executeLine host s line
  rw [hline] at hdispatch
  generalize s.fate host line = fate at hdispatch
  generalize hanswer : Progress.running t = answer at hdispatch
  cases hdispatch with
  | skipped => cases hanswer; exact .refl _
  | refused e => cases hanswer; exact .of_input rfl fun _ hs => hs
  | builtin b arguments => exact runBuiltin_leaves hanswer.symm
  | launched c hmode =>
      cases hanswer
      have hpause : s.machine.Leaves R s.pause.machine := s.machine.pause_leaves
      exact hpause.trans (launch_leaves (s := s.pause) hhost (h.of_leaves hpause) line c)

end Leaves

/-- The loop runs these lines, which the source gives one by one when it is asked for them, and
goes on with what is left of the source. -/
inductive Runs (host : Host) :
    Shell → LineSource → List String → Shell → LineSource → Prop where
  | nil (s : Shell) (source : LineSource) : Runs host s source [] s source
  | line {s t u : Shell} {source next last : LineSource} {line : String} {lines : List String}
      {machine : Machine}
      (hread : source.readLine s.greet.config.prompt s.greet.machine =
        (.ok (some line), next, machine))
      (hline : Shell.executeLine host { s.greet with machine }.pause line = .running t)
      (hrest : Runs host t next lines u last) : Runs host s source (line :: lines) u last

/-- What the loop comes to when no other line is run, or one that leaves. -/
inductive Stops (host : Host) (s : Shell) (source : LineSource) : Progress → Prop where
  | ended {next : LineSource} {machine : Machine}
      (hread : source.readLine s.greet.config.prompt s.greet.machine =
        (.ok none, next, machine)) : Stops host s source (.running { s.greet with machine })
  | failed {next : LineSource} {machine : Machine} {f : Failure}
      (hread : source.readLine s.greet.config.prompt s.greet.machine =
        (.error f, next, machine)) :
      Stops host s source (.running (Shell.complain { s.greet with machine } f.message))
  | left {next : LineSource} {machine m : Machine} {line : String} {code : Nat}
      (hread : source.readLine s.greet.config.prompt s.greet.machine =
        (.ok (some line), next, machine))
      (hline : Shell.executeLine host { s.greet with machine }.pause line = .left code m) :
      Stops host s source (.left code m)

section Loop

variable {host : Host} {s t u : Shell} {source next last : LineSource} {line : String}
  {lines later : List String} {machine : Machine} {p q : Progress}

theorem Runs.executeLinesFrom (h : Runs host s source lines t last) (turns : Nat) :
    Shell.executeLinesFrom host (turns + lines.length) s source =
      Shell.executeLinesFrom host turns t last := by
  induction h with
  | nil => rfl
  | line hread hline _ ih =>
      rw [List.length_cons, ← Nat.add_assoc, executeLinesFrom_succ hread hline, ih]

theorem Stops.executeLinesFrom (h : Stops host s source p) (turns : Nat) :
    Shell.executeLinesFrom host (turns + 1) s source = p := by
  rw [Shell.executeLinesFrom]
  cases h with
  | ended hread | failed hread => simp only [hread]
  | left hread hline =>
      simp only [hread, hline]
      rfl

/-- Of the input, if the source reads it, the programs leave what stands in this relation to what
they find. -/
def InputLeft (R : List Bytes → List Bytes → Prop) (host : Host) (s : Shell) :
    LineSource → Prop
  | .listed _ _ => True
  | .plain | .editor => host.Leaves R ∧ s.machine.SleepersLeave R

theorem InputLeft.mono {R R' : List Bytes → List Bytes → Prop}
    (hR : ∀ {before left}, R before left → R' before left) (h : InputLeft R host s source) :
    InputLeft R' host s source := by
  cases source with
  | listed => exact trivial
  | plain | editor => exact ⟨h.1.mono hR, h.2.mono hR⟩

/-- What is left alone is not added to. -/
theorem InputLeft.onlyTaken (h : InputLeft Eq host s source) :
    InputLeft OnlyTaken host s source := by
  refine h.mono ?_
  rintro before _ rfl
  exact List.suffix_refl _

/-- A source stays one of its kind. -/
theorem inputLeft_of_readLine {R : List Bytes → List Bytes → Prop} {prompt : String}
    {m : Machine} (h : source.readLine prompt m = (.ok (some line), next, machine)) :
    InputLeft R host s source ↔ InputLeft R host s next := by
  match source with
  | .listed [] none | .listed [] (some _) => cases h
  | .listed (_ :: _) _ => cases h; exact Iff.rfl
  | .plain =>
      rw [LineSource.readLine] at h
      split at h <;> cases h
      exact Iff.rfl
  | .editor =>
      rw [LineSource.readLine] at h
      split at h
      · split at h <;> cases h
        exact Iff.rfl
      · cases h
      · cases h

section Turn

variable {R : List Bytes → List Bytes → Prop} [IsPreorder (List Bytes) R]

/-- From a reading on to the next one the input is left by what runs in the meantime. -/
theorem leaves_of_turn (hhost : host.Leaves R) (h : s.machine.SleepersLeave R)
    (hread : source.readLine s.greet.config.prompt s.greet.machine =
      (.ok (some line), next, machine))
    (hline : Shell.executeLine host { s.greet with machine }.pause line = .running t) :
    machine.Leaves R t.machine ∧ t.machine.SleepersLeave R := by
  have hgreeted := h.of_leaves (greet_leaves s)
  obtain ⟨input, output, hmachine⟩ :=
    readLine_machine source s.greet.config.prompt s.greet.machine
  rw [hread] at hmachine
  have hsleepers : machine.SleepersLeave R := by
    rw [show machine = _ from hmachine]
    exact hgreeted
  have hpaused : machine.Leaves R machine.pause := machine.pause_leaves
  have hrun := hpaused.trans
    (executeLine_leaves (s := Shell.pause { s.greet with machine }) hhost
      (hsleepers.of_leaves hpaused) hline)
  exact ⟨hrun, hsleepers.of_leaves hrun⟩

theorem InputLeft.turn (h : InputLeft R host s source)
    (hread : source.readLine s.greet.config.prompt s.greet.machine =
      (.ok (some line), next, machine))
    (hline : Shell.executeLine host { s.greet with machine }.pause line = .running t) :
    InputLeft R host t next := by
  rw [← inputLeft_of_readLine hread]
  cases source with
  | listed => exact trivial
  | plain | editor => exact ⟨h.1, (leaves_of_turn h.1 h.2 hread hline).2⟩

end Turn

/-- With each line that is run, fewer are left that can be given. -/
theorem bound_turn (h : InputLeft OnlyTaken host s source)
    (hread : source.readLine s.greet.config.prompt s.greet.machine =
      (.ok (some line), next, machine))
    (hline : Shell.executeLine host { s.greet with machine }.pause line = .running t) :
    next.bound t.machine < source.bound s.machine := by
  have hgreeted : s.greet.machine.input.remaining ≤ s.machine.input.remaining :=
    (greet_leaves s).remaining_le
  have hnext : next.bound t.machine ≤ next.bound machine := by
    have hleft := (inputLeft_of_readLine hread).1 h
    cases next with
    | listed => exact Nat.le_refl _
    | plain | editor => exact (leaves_of_turn hleft.1 hleft.2 hread hline).1.remaining_le
  have hsource : source.bound s.greet.machine ≤ source.bound s.machine := by
    cases source with
    | listed => exact Nat.le_refl _
    | plain | editor => exact hgreeted
  exact Nat.lt_of_le_of_lt hnext
    (Nat.lt_of_lt_of_le (LineSource.bound_readLine hread) hsource)

theorem Runs.length_le (h : Runs host s source lines t last)
    (hinput : InputLeft OnlyTaken host s source) :
    lines.length ≤ source.bound s.machine := by
  induction h with
  | nil => exact Nat.zero_le _
  | line hread hline _ ih =>
      exact Nat.lt_of_le_of_lt (ih (hinput.turn hread hline)) (bound_turn hinput hread hline)

/-- With turns enough the loop runs lines until it stops. -/
theorem exists_runs (hinput : InputLeft OnlyTaken host s source) {turns : Nat}
    (hturns : source.bound s.machine < turns) :
    ∃ lines t last, Runs host s source lines t last ∧
      Stops host t last (Shell.executeLinesFrom host turns s source) := by
  induction turns generalizing s source with
  | zero => exact absurd hturns (Nat.not_lt_zero _)
  | succ turns ih =>
      match hread : source.readLine s.greet.config.prompt s.greet.machine with
      | (.error f, next, machine) =>
          have hstops : Stops host s source _ := .failed hread
          rw [hstops.executeLinesFrom turns]
          exact ⟨[], s, source, .nil s source, hstops⟩
      | (.ok none, next, machine) =>
          have hstops : Stops host s source _ := .ended hread
          rw [hstops.executeLinesFrom turns]
          exact ⟨[], s, source, .nil s source, hstops⟩
      | (.ok (some line), next, machine) =>
          match hline : Shell.executeLine host { s.greet with machine }.pause line with
          | .left code m =>
              have hstops := Stops.left hread hline
              rw [hstops.executeLinesFrom turns]
              exact ⟨[], s, source, .nil s source, hstops⟩
          | .running u =>
              have hless := bound_turn hinput hread hline
              obtain ⟨lines, t, last, hruns, hstops⟩ :=
                ih (hinput.turn hread hline) (by omega)
              rw [executeLinesFrom_succ hread hline]
              exact ⟨line :: lines, t, last, .line hread hline hruns, hstops⟩

/-- The loop runs the lines that the source gives it until it stops, and does nothing else. -/
theorem executeLines_eq_iff (hinput : InputLeft OnlyTaken host s source) :
    s.executeLines host source = p ↔
      ∃ lines t last, Runs host s source lines t last ∧ Stops host t last p := by
  rw [executeLines]
  constructor
  · rintro rfl
    exact exists_runs hinput (Nat.lt_succ_self _)
  · rintro ⟨lines, t, last, hruns, hstops⟩
    have hlength := hruns.length_le hinput
    obtain ⟨spare, hspare⟩ : ∃ spare, source.bound s.machine + 1 = spare + 1 + lines.length :=
      ⟨source.bound s.machine - lines.length, by omega⟩
    rw [hspare, hruns.executeLinesFrom, hstops.executeLinesFrom]

end Loop

section Gives

variable {host : Host} {s r t : Shell} {source last : LineSource} {lines : List String}
  {answer : Except Failure (Option String)}

/-- When these lines have been run and have left the state `r`, the source is asked again; `t` is
the state with its answer. -/
def Asks (host : Host) (s : Shell) (source : LineSource) (lines : List String) (r : Shell)
    (answer : Except Failure (Option String)) (t : Shell) : Prop :=
  ∃ last next machine, Runs host s source lines r last ∧
    last.readLine r.greet.config.prompt r.greet.machine = (answer, next, machine) ∧
    t = { r.greet with machine }

theorem input?_greet (s : Shell) (source : LineSource) :
    source.input? s.greet.machine = source.input? s.machine := by
  have hgreet : s.machine.Leaves Eq s.greet.machine := greet_leaves s
  exact LineSource.input?_congr hgreet.input_eq source

/-- Where the input is left alone, a line that is run does not touch it. -/
theorem input?_turn {next : LineSource} {line : String} {machine : Machine}
    (hinput : InputLeft Eq host s source)
    (hread : source.readLine s.greet.config.prompt s.greet.machine =
      (.ok (some line), next, machine))
    (hline : Shell.executeLine host { s.greet with machine }.pause line = .running t) :
    next.input? t.machine = next.input? machine := by
  have hleft := (inputLeft_of_readLine hread).1 hinput
  cases next with
  | listed => rfl
  | plain | editor =>
      exact congrArg some (leaves_of_turn hleft.1 hleft.2 hread hline).1.input_eq

theorem Asks.cons {next : LineSource} {line : String} {machine : Machine} {u : Shell}
    (hread : source.readLine s.greet.config.prompt s.greet.machine =
      (.ok (some line), next, machine))
    (hline : Shell.executeLine host { s.greet with machine }.pause line = .running u)
    (h : Asks host u next lines r answer t) : Asks host s source (line :: lines) r answer t := by
  obtain ⟨last, rest, read, hruns, hanswer, rfl⟩ := h
  exact ⟨last, rest, read, .line hread hline hruns, hanswer, rfl⟩

/-- The lines of a source that reads no input, or whose input is left alone, are run as the source
gives them by itself, up to one that leaves. -/
theorem asks_of_gives {prompt : String} {m : Machine} {failure : Option Failure}
    (hinput : InputLeft Eq host s source) (hgives : source.Gives prompt m lines failure)
    (hm : source.input? s.machine = source.input? m) :
    (∃ r t, Asks host s source lines r (failure.elim (.ok none) .error) t) ∨
      ∃ front line rest r t code m', lines = front ++ line :: rest ∧
        Asks host s source front r (.ok (some line)) t ∧
        t.pause.executeLine host line = .left code m' := by
  induction hgives generalizing s with
  | @ended source _ _ _ h | @failed source _ _ _ _ h =>
      obtain ⟨read, hread, -⟩ :=
        LineSource.readLine_congr ((input?_greet s source).trans hm) h s.greet.config.prompt
      exact Or.inl ⟨s, _, source, _, read, .nil s source, hread, rfl⟩
  | @line source _ _ _ line lines failure h hrest ih =>
      obtain ⟨read, hread, hnext⟩ :=
        LineSource.readLine_congr ((input?_greet s source).trans hm) h s.greet.config.prompt
      cases hline : Shell.executeLine host { s.greet with machine := read }.pause line with
      | left code m' =>
          exact Or.inr ⟨[], line, lines, s, _, code, m', rfl,
            ⟨source, _, read, .nil s source, hread, rfl⟩, hline⟩
      | running u =>
          obtain ⟨r, t, hasks⟩ | ⟨front, last, rest, r, t, code, m', rfl, hasks, hleft⟩ :=
            ih (hinput.turn hread hline) ((input?_turn hinput hread hline).trans hnext)
          · exact Or.inl ⟨r, t, hasks.cons hread hline⟩
          · exact Or.inr ⟨line :: front, last, rest, r, t, code, m', rfl,
              hasks.cons hread hline, hleft⟩

end Gives

end Shell

end JobShell
