import JobShell.Proofs.Failure.Wording
import JobShell.Proofs.Launch.Requests

/-!
# Blank lines

Whether a line is to be skipped and whether it holds a command are asked in two ways: by trimming
the line and by reading its words. Both call the same lines blank
(`Command.parse_eq_emptyCommand_iff`, `Text.trim_eq_empty_iff`), so the parser is never handed an
empty command.

`Shell.Acts` lists what the shell does while it runs lines: what it launches is called by a word,
and what it complains of is never an empty command. A line is run by such acts
(`Shell.Acts.executeLine`), and so are all lines of a source (`Shell.Acts.executeLinesFrom`).
-/

namespace JobShell

open Text (IsWord)

namespace Command

variable {line : String} {c : Command}

theorem parse_eq_emptyCommand_iff : parse line = .error .emptyCommand ↔ Text.words line = [] := by
  rw [parse]
  cases Text.words line with
  | nil => simp [ofWords]
  | cons program ts => simp [ofWords_eq_error_iff]

/-- What a child asks for is named by a word: a target, the null device or the program. -/
theorem WellFormed.isWord_name (h : c.WellFormed) {background : Bool} {request : Request}
    (hrequest : request ∈ (c.image background).requests) : IsWord request.name := by
  have htarget {target : Option String} (hwords : ∀ path, target = some path → IsWord path)
      {path : String}
      (hpath : target.or (if background then some ChildImage.nullDevice else none) = some path) :
      IsWord path := by
    cases target with
    | some given =>
        cases hpath
        exact hwords _ rfl
    | none =>
        rw [Option.none_or] at hpath
        split at hpath <;> cases hpath
        decide
  simp only [ChildImage.requests, image, List.mem_append, List.mem_map, Option.mem_toList,
    List.mem_singleton] at hrequest
  obtain (⟨path, hpath, rfl⟩ | ⟨path, hpath, rfl⟩) | rfl := hrequest
  · exact htarget h.input hpath
  · exact htarget h.output hpath
  · exact h.program

/-- What a child complains of is told under that word. -/
theorem WellFormed.complaint_ne (h : c.WellFormed) {background : Bool} {request : Request}
    (hrequest : request ∈ (c.image background).requests) (e : Errno) :
    request.complaint e ≠ "smallsh: " ++ FailureKind.emptyCommand.message ++ "\n" := by
  have hframe {text other : String}
      (heq : "smallsh: " ++ text ++ "\n" = "smallsh: " ++ other ++ "\n") : text = other := by
    simpa [← String.toList_inj] using heq
  have hother : TellsOther (request.name ++ (": " ++ e.description)) :=
    (h.isWord_name hrequest).tellsOther (head?_toList_append rfl _)
  have hcomplaint : request.complaint e =
      "smallsh: " ++ (request.name ++ (": " ++ e.description)) ++ "\n" := by
    simp only [Request.complaint, String.append_assoc]
  rw [hcomplaint]
  exact mt hframe hother

end Command

namespace Shell

/-- All that the shell does while it runs lines, act by act. What it launches is called by a word,
and what it complains of is never an empty command. -/
inductive Acts (host : Host) (s : Shell) : Shell → Prop where
  | refl : Acts host s s
  | pause {t : Shell} (h : Acts host s t) : Acts host s t.pause
  | notify {t : Shell} (h : Acts host s t) : Acts host s t.notify
  | announce {t : Shell} (h : Acts host s t) : Acts host s t.announce
  | read {t : Shell} (h : Acts host s t) (source : LineSource) (prompt : String) :
      Acts host s { t with machine := (source.readLine prompt t.machine).2.2 }
  | print {t : Shell} (h : Acts host s t) (text : String) : Acts host s (t.print text)
  | enter {t : Shell} (h : Acts host s t) (directory : Path) :
      Acts host s (t.mapMachine fun m => { m with directory })
  | spawn {t : Shell} (h : Acts host s t) {c : Command} (hprogram : IsWord c.program)
      (background : Bool) :
      Acts host s { t with machine := (t.machine.spawn host c background).2 }
  | register {t : Shell} (h : Acts host s t) (pid : Pid) (line : String) :
      Acts host s { t with jobs := t.jobs.create pid line }
  | conclude {t : Shell} (h : Acts host s t) (ended : Termination) :
      Acts host s { t with last := some ended }
  | complain {t : Shell} (h : Acts host s t) {text : String} (hother : TellsOther text) :
      Acts host s (t.complain text)

/-- The shell has come to where its acts have brought it, or it has left from there. -/
inductive ComesOfActs (host : Host) (s : Shell) : Progress → Prop where
  | running {t : Shell} (h : Acts host s t) : ComesOfActs host s (.running t)
  | left {t : Shell} {number : Option Int} {code : Nat} {m : Machine} (h : Acts host s t)
      (hexit : t.exit number = .left code m) : ComesOfActs host s (.left code m)

variable {host : Host} {s t : Shell}

theorem Acts.greet (h : Acts host s t) : Acts host s t.greet :=
  h.pause.notify.pause.announce.pause

theorem Acts.exit (h : Acts host s t) (number : Option Int) :
    ComesOfActs host s (t.exit number) := by
  obtain ⟨m, hexit⟩ : ∃ m, t.exit number = .left (exitStatus (number.getD 0)) m := ⟨_, rfl⟩
  rw [hexit]
  exact .left h hexit

theorem ComesOfActs.andThen {p : Progress} (h : ComesOfActs host s p) {next : Shell → Progress}
    (hnext : ∀ t, Acts host s t → ComesOfActs host s (next t)) :
    ComesOfActs host s (p.andThen next) := by
  cases h with
  | running h => exact hnext _ h
  | left h hexit => exact .left h hexit

theorem Acts.runBuiltin (h : Acts host s t) (b : Builtin) (arguments : List String) :
    ComesOfActs host s (t.runBuiltin b arguments) := by
  have hother (text : String) : (b.run arguments t.context .healthy).1.complaint? = some text →
      TellsOther text := Builtin.tellsOther_of_run
  rw [context] at hother
  rw [Shell.runBuiltin]
  dsimp only
  generalize b.run arguments _ .healthy = answered at hother ⊢
  obtain ⟨answer, sink⟩ := answered
  have hprint := h.print sink.text
  cases answer with
  | done directory => exact .running (hprint.enter directory)
  | failed f => exact .running (hprint.complain (hother f.message rfl))
  | leave code complaint =>
      cases complaint with
      | none => exact hprint.exit code
      | some text => exact (hprint.complain (hother text rfl)).exit code

theorem Acts.launch (h : Acts host s t) (line : String) {c : Command}
    (hprogram : IsWord c.program) : Acts host s (t.launch host line c) := by
  have hspawn := h.spawn hprogram (c.background && !t.machine.kernel.mode.isForegroundOnly)
  have hfailed {f : Failure} : (t.machine.spawn host c
      (c.background && !t.machine.kernel.mode.isForegroundOnly)).1 = .error f → f.External :=
    Machine.external_of_spawn hprogram
  rw [Shell.launch]
  generalize t.machine.spawn host c
    (c.background && !t.machine.kernel.mode.isForegroundOnly) = answered at hspawn hfailed ⊢
  obtain ⟨answer, m⟩ := answered
  cases answer with
  | error f => exact (hspawn.complain (hfailed rfl).tellsOther).conclude (.exited 1)
  | ok launched =>
      cases launched with
      | background pid => exact (hspawn.pause.register pid line).print _
      | foreground ended =>
          rcases ended with _ | code | signal
          · exact hspawn
          · exact hspawn.conclude (.exited code)
          · exact (hspawn.conclude (.signaled signal)).print _

/-- What is not skipped holds a word. -/
theorem words_ne_nil_of_not_isSkippable {line : String} (h : isSkippable line = false) :
    Text.words line ≠ [] := by
  rw [isSkippable, Bool.or_eq_false_iff] at h
  intro hwords
  have htrim : Text.trim line = "" := Text.trim_eq_empty_iff.2 (Text.words_eq_nil_iff.1 hwords)
  rw [htrim] at h
  exact absurd h.1 (by decide)

/-- A line is skipped, or one of its redirections lacks a target, or it has a command, which is
executed. The third complaint of the parser does not arise. -/
theorem executeLine_cases (host : Host) (s : Shell) (line : String) :
    s.executeLine host line = .running s ∨
      (∃ side, s.executeLine host line = .running
        (s.complain (Command.ParseError.missingTarget side).failure.message)) ∨
      ∃ c, Command.parse line = .ok c ∧ s.executeLine host line = s.executeCommand host line c := by
  rw [executeLine]
  split
  · exact Or.inl rfl
  · next hline =>
      rw [Bool.not_eq_true] at hline
      cases hparse : Command.parse line with
      | ok c => exact Or.inr (Or.inr ⟨c, rfl, rfl⟩)
      | error e =>
          cases e with
          | missingTarget side => exact Or.inr (Or.inl ⟨side, rfl⟩)
          | emptyCommand =>
              exact absurd (Command.parse_eq_emptyCommand_iff.1 hparse)
                (words_ne_nil_of_not_isSkippable hline)

theorem Acts.executeLine (h : Acts host s t) (line : String) :
    ComesOfActs host s (t.executeLine host line) := by
  obtain hline | ⟨side, hline⟩ | ⟨c, hparse, hline⟩ := executeLine_cases host t line
  · rw [hline]
    exact .running h
  · rw [hline]
    refine .running (h.complain ?_)
    cases side <;> decide
  · rw [hline, executeCommand]
    split
    · exact h.runBuiltin _ _
    · exact .running (h.pause.launch line (t.wellFormed_expand hparse).program)

theorem Acts.executeLinesFrom (h : Acts host s t) (turns : Nat) {source : LineSource}
    (hsource : ∀ f, source.failure? = some f → TellsOther f.message) :
    ComesOfActs host s (Shell.executeLinesFrom host turns t source) := by
  induction turns generalizing t source with
  | zero => exact .running h
  | succ turns ih =>
      -- A reading does not change which failure the source was given, so `hsource` is there for the
      -- source that is left.
      have hread := h.greet.read source t.greet.config.prompt
      rw [Shell.executeLinesFrom]
      generalize hanswer : source.readLine t.greet.config.prompt t.greet.machine = answer
        at hread ⊢
      obtain ⟨answer, next, machine⟩ := answer
      obtain ⟨hfollows, hfails⟩ := LineSource.failure?_readLine hanswer
      cases answer with
      | error f =>
          refine .running (hread.complain ?_)
          obtain hgiven | hexternal := hfails f rfl
          · exact hsource f hgiven
          · exact hexternal.tellsOther
      | ok read =>
          cases read with
          | none => exact .running hread
          | some line =>
              refine (hread.pause.executeLine line).andThen fun u hu => ?_
              exact ih hu (hfollows.symm ▸ hsource)

/-- **The filter of lines and the parser agree on what is blank.** A line is an empty command to the
parser if and only if trimming leaves nothing of it, that is, if each of its characters is one of
the 25 with the property `White_Space`; one look-alike is enough to make it another line. So a line
that is not skipped holds a word and is no empty command.

All that the shell does while it runs a text, a script or its input is made of acts, none of which
complains of an empty command or launches what is not called by a word. The same is true of any
other source, unless it was given a failure that reads like this complaint.

When the pid has been put into the command of a line, the program that is looked up and launched
has a name that is not empty and holds no blank, and no child complains of an empty command
either. -/
theorem no_empty_command :
    (∀ line,
      (Command.parse line = .error .emptyCommand ↔ Text.trim line = "") ∧
      (Text.trim line = "" ↔ ∀ c ∈ line.toList, c.toNat ∈ Text.whiteSpace) ∧
      (∀ c ∈ line.toList, c.toNat ∈ Text.lookAlikes → Text.trim line ≠ "") ∧
      (isSkippable line = false →
        Text.words line ≠ [] ∧ Command.parse line ≠ .error .emptyCommand)) ∧
    (∀ (host : Host) (s : Shell),
      (∀ text, ComesOfActs host s (s.executeText host text)) ∧
      (∀ name p, s.executeFile host name = .ok p → ComesOfActs host s p) ∧
      ComesOfActs host s (s.executeInput host) ∧
      ∀ source : LineSource, (∀ f, source.failure? = some f → TellsOther f.message) →
        ComesOfActs host s (s.executeLines host source)) ∧
    ∀ (s : Shell) (line : String) (c : Command),
      isSkippable line = false → Command.parse line = .ok c →
        (c.expand s.pidText).program ≠ "" ∧
        (∀ ch ∈ (c.expand s.pidText).program.toList, ch.toNat ∉ Text.whiteSpace) ∧
        (∀ host, s.executeLine host line =
          match Builtin.named? (c.expand s.pidText).program with
          | some b => s.runBuiltin b (c.expand s.pidText).arguments
          | none => .running (s.pause.launch host line (c.expand s.pidText))) ∧
        ∀ background, ∀ request ∈ ((c.expand s.pidText).image background).requests, ∀ e,
          request.complaint e ≠ "smallsh: " ++ FailureKind.emptyCommand.message ++ "\n" := by
  have hsources (host : Host) (s : Shell) (source : LineSource)
      (hsource : ∀ f, source.failure? = some f → TellsOther f.message) :
      ComesOfActs host s (s.executeLines host source) := Acts.refl.executeLinesFrom _ hsource
  refine ⟨fun line => ⟨?_, ?_, ?_, ?_⟩, fun host s => ⟨?_, ?_, ?_, hsources host s⟩,
    fun s line c hline hparse => ?_⟩
  · rw [Command.parse_eq_emptyCommand_iff, Text.words_eq_nil_iff, Text.trim_eq_empty_iff]
  · simp only [Text.trim_eq_empty_iff, Text.isBlank_iff]
  · intro c hc hlookAlike htrim
    have hblank := Text.trim_eq_empty_iff.1 htrim c hc
    exact Text.notMem_whiteSpace hlookAlike (Text.isBlank_iff.1 hblank)
  · intro hline
    have hwords := words_ne_nil_of_not_isSkippable hline
    exact ⟨hwords, mt Command.parse_eq_emptyCommand_iff.1 hwords⟩
  · intro text
    exact hsources host s (.ofText text) nofun
  · intro name p hfile
    rw [executeFile] at hfile
    split at hfile <;> cases hfile
    exact hsources host s (.ofText _) nofun
  · rw [executeInput]
    split
    · exact hsources host s .editor nofun
    · exact hsources host s .plain nofun
  · have hwords := s.wellFormed_expand hparse
    refine ⟨hwords.program.ne_empty, fun ch hch => hwords.program.notMem_whiteSpace hch,
      fun host => ?_, fun background request hrequest e => hwords.complaint_ne hrequest e⟩
    rw [executeLine, hline, hparse]
    rfl

/-- A line of look-alikes between blanks, and a blank line before a reading that fails. -/
theorem no_empty_command_look_alikes : ∃ (host : Host) (s : Shell),
    isSkippable "\u2003\x1c$$ <\u3000\ufeff" = false ∧
      Text.trim "\u2003\x1c$$ <\u3000\ufeff" ≠ "" ∧
      Command.parse "\u2003\x1c$$ <\u3000\ufeff" =
        .ok { program := "\x1c$$", input := some "\ufeff" } ∧
      s.executeLine host "\u2003\x1c$$ <\u3000\ufeff" =
        .running (s.pause.launch host "\u2003\x1c$$ <\u3000\ufeff"
          { program := "\x1c42", input := some "\ufeff" }) ∧
      (∀ c ∈ "\x1c42".toList, c.toNat ∉ Text.whiteSpace) ∧
      ComesOfActs host s (s.executeLines host
        (.listed ["\u2003\x1c$$ <\u3000\ufeff", "\u3000"]
          (some (.because .io LineSource.brokenInput)))) := by
  let host : Host :=
    { run _ around :=
        .ended ⟨around.files, around.ahead, [], [], [], []⟩ (Termination.exitStatus 0) }
  let s : Shell := { machine := { shellPid := 42 } }
  have hline : isSkippable "\u2003\x1c$$ <\u3000\ufeff" = false := by decide
  have hparse : Command.parse "\u2003\x1c$$ <\u3000\ufeff" =
      .ok { program := "\x1c$$", input := some "\ufeff" } := by decide
  have hexpand : Command.expand s.pidText { program := "\x1c$$", input := some "\ufeff" } =
      { program := "\x1c42", input := some "\ufeff" } := by decide
  have hnamed : Builtin.named? "\x1c42" = none := by decide
  obtain ⟨hlines, hacts, hhanded⟩ := no_empty_command
  obtain ⟨-, -, -, hsources⟩ := hacts host s
  obtain ⟨-, -, htrim, -⟩ := hlines "\u2003\x1c$$ <\u3000\ufeff"
  obtain ⟨-, hblank, hrun, -⟩ := hhanded s _ _ hline hparse
  rw [hexpand] at hblank hrun
  simp only [hnamed] at hrun
  refine ⟨host, s, hline, htrim '\ufeff' (by decide) (by decide), hparse, hrun host, hblank,
    hsources _ ?_⟩
  rintro f ⟨⟩
  decide

end Shell

end JobShell
