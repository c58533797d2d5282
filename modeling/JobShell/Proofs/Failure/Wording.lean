import JobShell.Proofs.Shell.Failing

/-!
# What failures tell of

Only a line without a word is an empty command. Whatever else goes wrong is told in other words
(`TellsOther`): the failures of `cd`, of launches and of readings are each a kind over a cause from
outside (`Failure.External`), and the texts of these kinds begin differently
(`Failure.External.tellsOther`). A program is an exception, as its failure begins with its name; but
a name that is a word is followed by a colon before there is a space.
-/

namespace JobShell

open Text (IsWord)

section Wording

/-- A text that does not tell of an empty command. -/
def TellsOther (text : String) : Prop :=
  text ≠ FailureKind.emptyCommand.message

instance : DecidablePred TellsOther := fun text =>
  inferInstanceAs (Decidable (text ≠ FailureKind.emptyCommand.message))

/-- Behind a word, a colon is met before a space. -/
theorem Text.IsWord.find_mark {word : String} (h : IsWord word) (rest : List Char) :
    (word.toList ++ ':' :: rest).find? (fun c => c == ':' || c == ' ') = some ':' := by
  rw [List.find?_append, Option.or_eq_some_iff]
  cases hfind : word.toList.find? (fun c => c == ':' || c == ' ') with
  | none => exact Or.inr ⟨rfl, rfl⟩
  | some c =>
      have hmark := List.find?_some hfind
      rw [Bool.or_eq_true, beq_iff_eq, beq_iff_eq] at hmark
      obtain rfl | rfl := hmark
      · exact Or.inl rfl
      · -- A space is blank, and so it is not in the word.
        exact absurd (h.unbroken ' ' (List.mem_of_find?_eq_some hfind)) (by decide)

theorem Text.IsWord.tellsOther {word rest : String} (h : IsWord word)
    (hcolon : rest.toList.head? = some ':') : TellsOther (word ++ rest) := by
  intro heq
  obtain ⟨later, hrest⟩ := List.head?_eq_some_iff.1 hcolon
  have hmark := h.find_mark later
  rw [← hrest, ← String.toList_append, heq] at hmark
  exact absurd hmark (by decide)

theorem tellsOther_of_head {c : Char} {text : String} (hhead : text.toList.head? = some c)
    (hother : c ≠ 's') : TellsOther text := by
  rintro rfl
  exact hother (Option.some.inj hhead).symm

theorem head?_toList_append {c : Char} {text : String} (hhead : text.toList.head? = some c)
    (rest : String) : (text ++ rest).toList.head? = some c := by
  rw [String.toList_append, List.head?_append, hhead]
  rfl

/-- Failures over a cause from outside, as `cd`, launches and readings have them. -/
inductive Failure.External : Failure → Prop where
  | launch {program : String} (hprogram : IsWord program) (cause : Cause) :
      External (.because (.launch program) cause)
  | directoryChange (path : String) (cause : Cause) :
      External (.because (.directoryChange path) cause)
  | io (cause : Cause) : External (.because .io cause)
  | systemCall (cause : Cause) : External (.because .systemCall cause)
  | lineEditor (cause : Cause) : External (.because .lineEditor cause)

theorem Failure.External.tellsOther {f : Failure} (h : f.External) : TellsOther f.message := by
  have hfirst {c : Char} {kind : String} (hkind : kind.toList.head? = some c)
      (hother : c ≠ 's') (cause : String) : TellsOther (kind ++ ": " ++ cause) :=
    tellsOther_of_head (head?_toList_append (head?_toList_append hkind _) cause) hother
  cases h with
  | @launch program hprogram cause =>
      change TellsOther (program ++ ": unable to launch" ++ ": " ++ cause.message)
      rw [String.append_assoc, String.append_assoc]
      exact hprogram.tellsOther (head?_toList_append rfl _)
  | directoryChange path cause =>
      exact hfirst (head?_toList_append rfl path) (by decide) cause.message
  | io cause | systemCall cause | lineEditor cause => exact hfirst rfl (by decide) cause.message

end Wording

namespace Builtin

variable {context : Context} {arguments : List String}

/-- What the shell complains of on an answer, if it does. -/
def Answer.complaint? : Answer → Option String
  | done _ => none
  | failed f => some f.message
  | leave _ complaint => complaint

theorem external_of_changeDirectory {f : Failure}
    (h : changeDirectory context arguments = .error f) : f.External := by
  cases arguments with
  | nil =>
      rw [changeDirectory] at h
      split at h <;> cases h
      exact .directoryChange _ _
  | cons argument rest =>
      rw [changeDirectory] at h
      split at h
      · cases h
        exact .io _
      · split at h <;> cases h
        exact .directoryChange _ _

theorem tellsOther_of_exitCode {text : String} (h : (exitCode arguments).2 = some text) :
    TellsOther text := by
  cases arguments with
  | nil => cases h
  | cons argument rest =>
      rw [exitCode] at h
      split at h <;> cases h
      have hhead : "exit: ".toList.head? = some 'e' := rfl
      exact tellsOther_of_head (head?_toList_append (head?_toList_append hhead _) _) (by decide)

theorem tellsOther_of_run {b : Builtin} {text : String}
    (h : (b.run arguments context .healthy).1.complaint? = some text) : TellsOther text := by
  cases b with
  | cd =>
      rw [run] at h
      split at h
      · cases h
      · next f hfailed =>
          cases h
          exact (external_of_changeDirectory hfailed).tellsOther
  | exit => exact tellsOther_of_exitCode h
  | status => cases h

end Builtin

/-- The failure that was given to a source to follow its lines, if one was. -/
def LineSource.failure? : LineSource → Option Failure
  | listed _ failure => failure
  | plain | editor => none

theorem LineSource.failure?_readLine {source next : LineSource} {prompt : String} {m m' : Machine}
    {answer : Except Failure (Option String)}
    (h : source.readLine prompt m = (answer, next, m')) :
    next.failure? = source.failure? ∧
      ∀ f, answer = .error f → source.failure? = some f ∨ f.External := by
  have hread (read : Option String) (f : Failure)
      (hf : (.ok read : Except Failure (Option String)) = .error f) :
      source.failure? = some f ∨ f.External := by
    cases hf
  cases source with
  | listed lines failure =>
      cases lines with
      | cons line lines =>
          cases h
          exact ⟨rfl, hread _⟩
      | nil =>
          cases failure with
          | none =>
              cases h
              exact ⟨rfl, hread _⟩
          | some f =>
              cases h
              exact ⟨rfl, fun g hg => Or.inl (congrArg some (Except.error.inj hg))⟩
  | plain =>
      rw [readLine] at h
      split at h <;> cases h
      · exact ⟨rfl, hread _⟩
      · exact ⟨rfl, hread _⟩
      · exact ⟨rfl, fun f hf => Or.inr (Except.error.inj hf ▸ .io _)⟩
  | editor =>
      have hexternal (cause : Cause) (f : Failure)
          (hf : (.error (.because .lineEditor cause) : Except Failure (Option String)) = .error f) :
          editor.failure? = some f ∨ f.External :=
        Or.inr (Except.error.inj hf ▸ .lineEditor cause)
      rw [readLine] at h
      split at h
      · split at h <;> cases h
        · exact ⟨rfl, hread _⟩
        · exact ⟨rfl, hexternal _⟩
      · cases h
        exact ⟨rfl, hread _⟩
      · cases h
        exact ⟨rfl, hexternal _⟩

namespace Machine

variable {host : Host} {m : Machine} {c : Command} {background : Bool} {f : Failure}

theorem external_of_waitWith {pid : Pid} {errors : List Errno}
    (h : (m.waitWith pid errors).1 = .error f) : f.External := by
  induction errors with
  | nil =>
      rw [waitWith] at h
      split at h <;> cases h
  | cons e errors ih =>
      rw [waitWith.eq_def] at h
      split at h
      · next heq => cases heq
      · next heq =>
          cases heq
          exact ih h
      · cases h
      · cases h
        exact .systemCall _

theorem external_of_waitForeground {pid : Pid} (h : (m.waitForeground pid).1 = .error f) :
    f.External := by
  rw [waitForeground] at h
  dsimp only at h
  split at h
  · cases h
  · exact external_of_waitWith h

/-- A launch that fails tells of the program that it was to start, or of a wait. -/
theorem external_of_spawn (hprogram : IsWord c.program)
    (h : (m.spawn host c background).1 = .error f) : f.External := by
  rw [spawn] at h
  split at h
  · next g hrefused =>
      cases h
      obtain ⟨-, himage⟩ | ⟨-, position, hnul⟩ := ChildImage.ofCommand_cases c background
      · cases hrefused.symm.trans himage
      · cases hrefused.symm.trans hnul
        exact .launch hprogram _
  · dsimp only at h
    split at h
    · cases h
      exact .launch hprogram _
    · split at h
      · cases h
      · split at h
        · next hwait =>
            cases h
            exact external_of_waitForeground (congrArg Prod.fst hwait)
        · cases h

end Machine

end JobShell
