import JobShell.Proofs.Command.Expansion
import JobShell.Proofs.Command.RoundTrip

/-!
# Expanded commands

A text in which no two `$` stand side by side is settled: no expansion changes it. With a pid
that holds no `$` every expansion leaves such a text (`Expansion.holdsPair_expandChars`), as the
last `$` of an odd run meets no other one. So one expansion of a command is the last one. The
expanded command is well formed like the command itself (`Command.WellFormed.expand`), and for
that reason it can be written as a line and read again (`Command.expand_settles`).
-/

namespace JobShell

open Text

namespace Expansion

variable {pid cs : List Char}

/-- A `$` at the start was there before. -/
theorem head?_of_expandChars (h : (expandChars pid cs).head? = some '$') :
    cs.head? = some '$' := by
  fun_cases expandChars pid cs with
  | case1 => exact h
  | case2 rest => rfl
  | case3 c rest hc => simpa [expandChars] using h

theorem holdsPair_append (h : '$' ∉ pid) (cs : List Char) :
    holdsPair (pid ++ cs) = holdsPair cs := by
  induction pid with
  | nil => rfl
  | cons c pid ih =>
      rw [List.mem_cons, not_or] at h
      rw [List.cons_append, holdsPair_cons fun hc => absurd hc.symm h.1, ih h.2]

/-- What comes of an expansion is settled. -/
theorem holdsPair_expandChars (h : '$' ∉ pid) (cs : List Char) :
    holdsPair (expandChars pid cs) = false := by
  fun_induction expandChars pid cs with
  | case1 => rfl
  | case2 cs ih => rw [holdsPair_append h, ih]
  | case3 c cs hc ih =>
      rw [holdsPair_cons, ih]
      intro hdollar hnext
      obtain ⟨rest, rfl⟩ := List.head?_eq_some_iff.1 (head?_of_expandChars hnext)
      exact hc rest hdollar rfl

variable {pid other word : String}

theorem holdsPair_expandWord (h : '$' ∉ pid.toList) (word : String) :
    holdsPair (expandWord pid word).toList = false := by
  rw [toList_expandWord]
  exact holdsPair_expandChars h _

theorem expandWord_of_settled (h : holdsPair word.toList = false) :
    expandWord other word = word := by
  rw [expandWord, expandWord?, h]
  rfl

/-- A second expansion changes nothing, whatever pid it puts in. -/
theorem expandWord_expandWord (h : '$' ∉ pid.toList) (other word : String) :
    expandWord other (expandWord pid word) = expandWord pid word :=
  expandWord_of_settled (holdsPair_expandWord h word)

/-- A word stays a word. -/
theorem isWord_expandWord (hpid : IsWord pid) (hword : IsWord word) :
    IsWord (expandWord pid word) := by
  have hread : expandWord pid word ∈ words (expandWord pid word) := by
    rw [words_expandWord hpid, hword.words_eq]
    exact List.mem_cons_self
  exact isWord_of_mem_words hread

end Expansion

namespace Command

open Expansion

variable {c : Command} {pid other : String}

/-- The texts of a command. -/
def texts (c : Command) : List String :=
  c.program :: c.arguments ++ c.input.toList ++ c.output.toList

theorem texts_map (f : String → String) (c : Command) : (c.map f).texts = c.texts.map f := by
  simp [texts, map, Option.toList_map]

/-- Expanding does not spoil a command. -/
theorem WellFormed.expand (h : c.WellFormed) (hpid : IsWord pid) (hplain : pid ∉ operators) :
    (c.expand pid).WellFormed where
  program := isWord_expandWord hpid h.program
  arguments word hword := by
    obtain ⟨argument, hmem, rfl⟩ := List.mem_map.1 hword
    obtain ⟨hargument, hnot⟩ := h.arguments argument hmem
    exact ⟨isWord_expandWord hpid hargument,
      mt ((keepsOperators_expandWord hpid hplain).reflects argument) hnot⟩
  input path hpath := by
    obtain ⟨before, hbefore, rfl⟩ := Option.map_eq_some_iff.1 hpath
    exact isWord_expandWord hpid (h.input before hbefore)
  output path hpath := by
    obtain ⟨before, hbefore, rfl⟩ := Option.map_eq_some_iff.1 hpath
    exact isWord_expandWord hpid (h.output before hbefore)

theorem expand_expand (h : '$' ∉ pid.toList) (other : String) (c : Command) :
    (c.expand pid).expand other = c.expand pid := by
  simp only [expand, expandWord_expandWord h, List.map_map, Option.map_map, Function.comp_def]

theorem not_infix_of_mem_texts (h : '$' ∉ pid.toList) {text : String}
    (htext : text ∈ (c.expand pid).texts) : ¬ ['$', '$'] <:+: text.toList := by
  rw [expand_eq_map, texts_map] at htext
  obtain ⟨word, -, rfl⟩ := List.mem_map.1 htext
  rw [← holdsPair_iff, holdsPair_expandWord h]
  exact Bool.false_ne_true

/-- **One expansion is the last one, and what it leaves can be written as a line.** Let a pid be
a word, no operator and without `$`, as the pid of every shell is, and let a command come from a
line. When the pid has been put into the command, no text of it holds `$$`, and neither this pid
nor any other can be put in once more. The program is not empty, no argument is an operator, and
from the line in which the command is written the same command is parsed. -/
theorem expand_settles :
    (∀ pid, IsWord pid → pid ∉ operators → '$' ∉ pid.toList →
      ∀ line c, parse line = .ok c →
        (∀ text ∈ (c.expand pid).texts, ¬ ['$', '$'] <:+: text.toList) ∧
        (∀ other, (c.expand pid).expand other = c.expand pid) ∧
        (c.expand pid).program ≠ "" ∧
        (∀ argument ∈ (c.expand pid).arguments, argument ∉ operators) ∧
        parse (c.expand pid).render = .ok (c.expand pid)) ∧
      ∀ s : Shell, IsWord s.pidText ∧ s.pidText ∉ operators ∧ '$' ∉ s.pidText.toList := by
  constructor
  · intro pid hpid hplain hdollar line c hparse
    have hexpanded := (WellFormed.of_parse hparse).expand hpid hplain
    refine ⟨fun text htext => not_infix_of_mem_texts hdollar htext,
      fun other => expand_expand hdollar other c, hexpanded.program.ne_empty, ?_,
      hexpanded.parse_render⟩
    intro argument hargument
    exact (hexpanded.arguments argument hargument).2
  · intro s
    exact ⟨isWord_toString _, toString_notMem_operators _,
      notMem_toString (by decide) (by decide) _⟩

/-- Odd runs on either side of a pid, and a program that is an operator. -/
theorem expand_settles_odd_runs :
    IsWord "42" ∧ "42" ∉ operators ∧ '$' ∉ "42".toList ∧
      parse "< $$$ $a$$$b < $$$$$ > $ &" = .ok
        { program := "<", arguments := ["$$$", "$a$$$b"], input := some "$$$$$",
          output := some "$", background := true } ∧
      parse "< 42$ $a42$b < 4242$ > $ &" = .ok
        { program := "<", arguments := ["42$", "$a42$b"], input := some "4242$",
          output := some "$", background := true } := by
  have hpid : IsWord "42" := by decide
  have hplain : "42" ∉ operators := by decide
  have hdollar : '$' ∉ "42".toList := by decide
  have hparse : parse "< $$$ $a$$$b < $$$$$ > $ &" = .ok
      { program := "<", arguments := ["$$$", "$a$$$b"], input := some "$$$$$",
        output := some "$", background := true } := by decide
  obtain ⟨-, -, -, -, hagain⟩ := expand_settles.1 "42" hpid hplain hdollar _ _ hparse
  exact ⟨hpid, hplain, hdollar, hparse, hagain⟩

end Command

end JobShell
