import JobShell.Proofs.Command.Grammar
import JobShell.Proofs.Text.Words
import Mathlib.Data.List.TFAE
import Mathlib.Tactic.TFAE

/-!
# Commands as lines

A command written as a line has a reading of its own (`Command.reading`): its arguments, then
its redirections and its background marker, each in a slot of its own. So the line is parsed to
the command again as long as its words are words; and a command that comes from a line is made
of the words of the line, so its words are. Both together are `parse_render_tfae`.
-/

namespace JobShell

namespace Command

open Text

/-- All words of the command are words, and no argument is an operator. The program and the
targets may be operators. -/
structure WellFormed (c : Command) : Prop where
  program : IsWord c.program
  arguments : ∀ word ∈ c.arguments, IsWord word ∧ word ∉ operators
  input : ∀ path, c.input = some path → IsWord path
  output : ∀ path, c.output = some path → IsWord path

/-- The clauses in which the command is written. -/
def clauses (c : Command) : List Clause :=
  c.input.toList.map (.redirect .input) ++ c.output.toList.map (.redirect .output) ++
    if c.background then [.background] else []

/-- The reading of the command as it is written. -/
def reading (c : Command) : Reading where
  arguments := c.arguments
  clauses := c.clauses
  leftover := []

variable {c : Command}

theorem renderWords_append (ws rest : List String) :
    renderWords (ws ++ rest) = renderWords ws ++ renderWords rest := by
  induction ws with
  | nil => exact (String.empty_append).symm
  | cons word ws ih =>
      rw [List.cons_append, renderWords, renderWords, ih]
      simp only [String.append_assoc]

/-- A command is written word by word. -/
theorem render_eq (c : Command) :
    c.render = c.program ++ renderWords (c.reading.arguments ++ c.reading.tail) := by
  have htarget (side : Redirection) (target : Option String) : renderTarget side target =
      renderWords ((target.toList.map (Clause.redirect side)).flatMap Clause.words) := by
    cases target with
    | none => rfl
    | some path => simp [renderTarget, renderWords, Clause.words, String.append_assoc]
  have hbackground : (if c.background then " " ++ backgroundToken else "") = renderWords
      ((if c.background then [Clause.background] else []).flatMap Clause.words) := by
    cases c.background <;> rfl
  rw [render, htarget, htarget, hbackground, reading, Reading.tail, clauses,
    List.flatMap_append, List.flatMap_append, List.append_nil]
  simp only [renderWords_append, String.append_assoc]

theorem readFrom_clauses (c : Command) : Clause.ReadFrom 0 c.clauses [] := by
  obtain ⟨program, arguments, input, output, background⟩ := c
  cases input <;> cases output <;> cases background <;>
    simp [clauses, Clause.readFrom_cons, Clause.readFrom_nil, Clause.Fits]

theorem head_tail_reading (c : Command) {word : String}
    (h : c.reading.tail.head? = some word) : word ∈ operators := by
  obtain ⟨program, arguments, input, output, background⟩ := c
  have hword : word = "<" ∨ word = ">" ∨ word = "&" := by
    cases input <;> cases output <;> cases background <;>
      simp_all [reading, Reading.tail, clauses, Clause.words, Redirection.token]
  simpa [operators] using hword

/-- The reading of a command asks for this command. -/
theorem command_reading (c : Command) : c.reading.command c.program = c := by
  obtain ⟨program, arguments, input, output, background⟩ := c
  cases input <;> cases output <;> cases background <;>
    simp [reading, Reading.command, Reading.lastTarget?, clauses, List.filterMap_cons,
      Clause.target?]

theorem reads_reading (h : ∀ word ∈ c.arguments, word ∉ operators) :
    c.reading.Reads (c.reading.arguments ++ c.reading.tail) where
  words := rfl
  arguments := h
  starts _ hword := c.head_tail_reading hword
  clauses := c.readFrom_clauses

/-- The words of a clause are its operator and its target. -/
theorem isWord_of_mem_tail (h : c.WellFormed) {word : String} (hword : word ∈ c.reading.tail) :
    IsWord word := by
  have hoperator : ∀ word ∈ operators, IsWord word := by decide
  have htarget {side : Redirection} {target : Option String}
      (hpath : ∀ path, target = some path → IsWord path)
      (hword : word ∈ (target.toList.map (Clause.redirect side)).flatMap Clause.words) :
      IsWord word := by
    cases target with
    | none => simp at hword
    | some path =>
        obtain rfl | rfl : word = side.token ∨ word = path := by
          simpa [Clause.words] using hword
        · exact hoperator _ (Clause.token_mem_operators side)
        · exact hpath word rfl
  rw [reading, Reading.tail, clauses, List.append_nil, List.flatMap_append, List.flatMap_append,
    List.mem_append, List.mem_append] at hword
  obtain (hinput | houtput) | hbackground := hword
  · exact htarget h.input hinput
  · exact htarget h.output houtput
  · apply hoperator
    split at hbackground
    · simpa [Clause.words, operators] using Or.inr (Or.inr hbackground)
    · simp at hbackground

/-- A well-formed command is parsed from the line in which it is written. -/
theorem WellFormed.parse_render (h : c.WellFormed) : parse c.render = .ok c := by
  have hwords : Text.words c.render =
      c.program :: (c.reading.arguments ++ c.reading.tail) := by
    rw [render_eq]
    apply Text.words_renderWords h.program
    intro word hword
    cases List.mem_append.1 hword with
    | inl hargument => exact (h.arguments word hargument).1
    | inr htail => exact isWord_of_mem_tail h htail
  have hreads := reads_reading fun word hword => (h.arguments word hword).2
  rw [parse, hwords, ofWords_of_reads hreads, command_reading]

/-- The target of a reading is a word of the reading. -/
theorem mem_tail_of_lastTarget? {r : Reading} {side : Redirection} {path : String}
    (h : r.lastTarget? side = some path) : path ∈ r.tail := by
  obtain ⟨clause, hclause, htarget⟩ := List.mem_filterMap.1 (List.mem_of_getLast? h)
  apply List.mem_append_left
  refine List.mem_flatMap.2 ⟨clause, hclause, ?_⟩
  cases clause with
  | redirect other target =>
      obtain ⟨-, rfl⟩ : other = side ∧ target = path := by simpa [Clause.target?] using htarget
      simp [Clause.words]
  | background | ignored => simp [Clause.target?] at htarget

/-- A command that is parsed from a line is well formed. -/
theorem WellFormed.of_parse {line : String} (h : parse line = .ok c) : c.WellFormed := by
  rw [parse] at h
  cases hline : Text.words line with
  | nil =>
      rw [hline] at h
      cases h
  | cons program ts =>
      rw [hline] at h
      obtain ⟨r, hr, rfl⟩ := ofWords_eq_ok_iff.1 h
      have hword {word : String} (hmem : word ∈ ts) : IsWord word :=
        isWord_of_mem_words (hline ▸ List.mem_cons_of_mem program hmem)
      have htarget {side : Redirection} {path : String} (hpath : r.lastTarget? side = some path) :
          IsWord path := by
        apply hword
        rw [hr.words]
        exact List.mem_append_right _ (mem_tail_of_lastTarget? hpath)
      constructor
      · exact isWord_of_mem_words (hline ▸ List.mem_cons_self)
      · intro word hargument
        constructor
        · apply hword
          rw [hr.words]
          exact List.mem_append_left _ hargument
        · exact hr.arguments word hargument
      · exact fun path hpath => htarget hpath
      · exact fun path hpath => htarget hpath

/-- **Writing and parsing are inverse on the well-formed commands, and on no others.** A command
comes from some line if and only if it comes from the line in which it is written, and this is so
if and only if it is well formed. So what comes from a line comes from its own line again. -/
theorem parse_render_tfae (c : Command) :
    List.TFAE [∃ line, parse line = .ok c, parse c.render = .ok c, c.WellFormed] := by
  tfae_have 1 → 3 := by
    rintro ⟨line, hline⟩
    exact .of_parse hline
  tfae_have 3 → 2 := WellFormed.parse_render
  tfae_have 2 → 1 := fun h => ⟨c.render, h⟩
  tfae_finish

end Command

end JobShell
