import JobShell.Command.Expansion
import JobShell.Proofs.Command.Grammar
import JobShell.Proofs.Text.OneLine
import JobShell.Proofs.Text.Words
import JobShell.Shell.Basic

/-!
# Expansion and reading

Putting the pid in the place of every `$$` of a line and reading the line comes to the same as
reading it and then expanding its words (`Command.parse_expandWord`). There are two reasons. As
`$` is no blank, no pair lies across the edge of a word, and a pid that is a word keeps words
apart from one another and from nothing (`Expansion.wordsOf_expandChars`). And a pid that is no
operator makes no word an operator (`Expansion.keepsOperators_expandWord`), so the parser takes
the same way (`Command.ofWords_map`).
-/

namespace JobShell

open Text

namespace Expansion

variable {pid : List Char}

theorem expandChars_cons {c : Char} {cs : List Char} (h : c = '$' → cs.head? ≠ some '$') :
    expandChars pid (c :: cs) = c :: expandChars pid cs := by
  rw [expandChars]
  rintro rest rfl rfl
  exact h rfl rfl

theorem holdsPair_cons {c : Char} {cs : List Char} (h : c = '$' → cs.head? ≠ some '$') :
    holdsPair (c :: cs) = holdsPair cs := by
  rw [holdsPair.eq_3]
  rintro rest rfl rfl
  exact h rfl rfl

section Replaces

/-- A text and what becomes of it when every pair of `$` gives way to the pid, from left to right:
the first pair does, and what stands behind it is treated alike. What is put in is not looked at
again. -/
inductive Replaces (pid : List Char) : List Char → List Char → Prop where
  | rest {cs : List Char} (hnone : ¬ ['$', '$'] <:+: cs) : Replaces pid cs cs
  /-- Up to its first `$` there is no other pair, so this one is the first. -/
  | pair (front : List Char) {later replaced : List Char}
      (hfirst : ¬ ['$', '$'] <:+: front ++ ['$']) (hlater : Replaces pid later replaced) :
      Replaces pid (front ++ ['$', '$'] ++ later) (front ++ pid ++ replaced)

/-- Two `$` side by side. -/
theorem holdsPair_iff {cs : List Char} : holdsPair cs = true ↔ ['$', '$'] <:+: cs := by
  fun_induction holdsPair cs with
  | case1 => simp
  | case2 cs => exact iff_of_true rfl ⟨[], cs, rfl⟩
  | case3 c cs hother ih =>
      rw [ih, List.infix_cons_iff, or_iff_right]
      rintro ⟨later, heq⟩
      obtain ⟨hc, hcs⟩ := List.cons.inj heq
      exact hother later hc.symm hcs.symm

theorem holdsPair_eq_false_iff {cs : List Char} :
    holdsPair cs = false ↔ ¬ ['$', '$'] <:+: cs := by
  rw [← holdsPair_iff, Bool.not_eq_true]

/-- A `$` that no pair begins with is followed by another character. -/
theorem head?_ne_of_infix {c : Char} {cs : List Char} (h : ¬ ['$', '$'] <:+: c :: cs) :
    c = '$' → cs.head? ≠ some '$' := by
  rintro rfl hhead
  obtain ⟨later, rfl⟩ := List.head?_eq_some_iff.1 hhead
  exact h ⟨[], later, rfl⟩

/-- What stands before the first pair stays. -/
theorem expandChars_append_pair {front : List Char} (h : ¬ ['$', '$'] <:+: front ++ ['$'])
    (later : List Char) :
    expandChars pid (front ++ ['$', '$'] ++ later) = front ++ pid ++ expandChars pid later := by
  induction front with
  | nil => rfl
  | cons c front ih =>
      have hnext : c = '$' → (front ++ ['$', '$'] ++ later).head? ≠ some '$' := by
        have hhead : (front ++ ['$', '$'] ++ later).head? = (front ++ ['$']).head? := by
          cases front <;> rfl
        rw [hhead]
        exact head?_ne_of_infix h
      rw [List.cons_append, List.cons_append, expandChars_cons hnext,
        ih fun hinfix => h (List.infix_cons hinfix)]
      rfl

theorem Replaces.cons {c : Char} {cs replaced : List Char} (hnext : c = '$' → cs.head? ≠ some '$')
    (h : Replaces pid cs replaced) : Replaces pid (c :: cs) (c :: replaced) := by
  cases h with
  | rest hnone =>
      rw [← holdsPair_eq_false_iff, ← holdsPair_cons hnext, holdsPair_eq_false_iff] at hnone
      exact .rest hnone
  | pair front hfirst hlater =>
      refine .pair (c :: front) (fun hinfix => ?_) hlater
      rw [List.cons_append, List.infix_cons_iff] at hinfix
      refine hinfix.elim (fun hstarts => ?_) hfirst
      obtain ⟨after, heq⟩ := hstarts
      obtain ⟨rfl, hfront⟩ := List.cons.inj heq
      refine hnext rfl ?_
      cases front with
      | nil => rfl
      | cons d front =>
          obtain ⟨rfl, -⟩ := List.cons.inj hfront
          rfl

/-- Reading a text in pairs is replacing its pairs from left to right. -/
theorem replaces_iff {cs replaced : List Char} :
    Replaces pid cs replaced ↔ replaced = expandChars pid cs := by
  constructor
  · intro h
    induction h with
    | rest hnone =>
        exact (expandChars_of_not_holdsPair pid (holdsPair_eq_false_iff.2 hnone)).symm
    | pair front hfirst hlater ih => rw [expandChars_append_pair hfirst, ih]
  · rintro rfl
    fun_induction expandChars pid cs with
    | case1 => exact .rest (by simp)
    | case2 later ih => exact .pair [] (by decide) ih
    | case3 c later hother ih =>
        refine ih.cons ?_
        rintro rfl hhead
        obtain ⟨after, rfl⟩ := List.head?_eq_some_iff.1 hhead
        exact hother after rfl rfl

end Replaces

theorem expandChars_eq_nil_iff (hne : pid ≠ []) {cs : List Char} :
    expandChars pid cs = [] ↔ cs = [] := by
  constructor
  · intro h
    fun_cases expandChars pid cs with
    | case1 => rfl
    | case2 rest => simp [expandChars, hne] at h
    | case3 c rest hc => simp [expandChars] at h
  · rintro rfl
    rfl

/-- Where one character comes out, nothing was put in but a pid of one character. -/
theorem eq_singleton_of_expandChars (hne : pid ≠ []) {cs : List Char} {c : Char}
    (h : expandChars pid cs = [c]) : cs = [c] ∨ pid = [c] := by
  fun_cases expandChars pid cs with
  | case1 => simp [expandChars] at h
  | case2 rest =>
      simp only [expandChars, List.append_eq_singleton_iff] at h
      obtain ⟨hnil, -⟩ | ⟨hpid, -⟩ := h
      · exact absurd hnil hne
      · exact Or.inr hpid
  | case3 d rest hd =>
      simp only [expandChars, List.cons.injEq] at h
      rw [h.1, (expandChars_eq_nil_iff hne).1 h.2]
      exact Or.inl rfl

/-- The run at the start of a text starts as the text does. -/
theorem head_breakWords {cs : List Char} {c : Char} (h : (breakWords cs).1.head? = some c) :
    cs.head? = some c := by
  cases cs with
  | nil => exact h
  | cons d cs =>
      cases hd : isBlank d with
      | true => simp [breakWords_cons_blank hd] at h
      | false => simpa [breakWords_cons hd] using h

theorem wordsOf_of_breakWords {cs cs' : List Char} (hne : pid ≠ [])
    (h : breakWords cs' =
      (expandChars pid (breakWords cs).1, (breakWords cs).2.map (expandChars pid))) :
    wordsOf cs' = (wordsOf cs).map (expandChars pid) := by
  have hempty : (expandChars pid (breakWords cs).1).isEmpty = (breakWords cs).1.isEmpty := by
    rw [Bool.eq_iff_iff, List.isEmpty_iff, List.isEmpty_iff, expandChars_eq_nil_iff hne]
  simp only [wordsOf, h, hempty]
  split <;> rfl

theorem breakWords_expandChars (hne : pid ≠ []) (hpid : ∀ c ∈ pid, isBlank c = false)
    (cs : List Char) :
    breakWords (expandChars pid cs) =
      (expandChars pid (breakWords cs).1, (breakWords cs).2.map (expandChars pid)) := by
  have hdollar : isBlank '$' = false := by decide
  fun_induction expandChars pid cs with
  | case1 => rfl
  | case2 cs ih =>
      rw [breakWords_append hpid, ih, breakWords_cons hdollar, breakWords_cons hdollar]
      rfl
  | case3 c cs hc ih =>
      cases hblank : isBlank c with
      | true =>
          rw [breakWords_cons_blank hblank, breakWords_cons_blank hblank,
            wordsOf_of_breakWords hne ih]
          rfl
      | false =>
          have hhead : c = '$' → (breakWords cs).1.head? ≠ some '$' := by
            intro hsame hnext
            cases cs with
            | nil => simp [breakWords] at hnext
            | cons d cs =>
                obtain rfl : d = '$' := by simpa using head_breakWords hnext
                exact hc cs hsame rfl
          rw [breakWords_cons hblank, breakWords_cons hblank, ih, expandChars_cons hhead]

/-- The words of an expanded text are the words of the text, expanded one by one. -/
theorem wordsOf_expandChars (hne : pid ≠ []) (hpid : ∀ c ∈ pid, isBlank c = false)
    (cs : List Char) :
    wordsOf (expandChars pid cs) = (wordsOf cs).map (expandChars pid) :=
  wordsOf_of_breakWords hne (breakWords_expandChars hne hpid cs)

theorem words_expandWord {pid : String} (hpid : IsWord pid) (line : String) :
    Text.words (expandWord pid line) = (Text.words line).map (expandWord pid) := by
  rw [Text.words, toList_expandWord, wordsOf_expandChars hpid.toList_ne_nil hpid.unbroken,
    Text.words, List.map_map, List.map_map]
  apply List.map_congr_left
  intro w _
  rw [Function.comp_apply, Function.comp_apply, ← String.toList_inj, toList_expandWord,
    String.toList_ofList, String.toList_ofList]

end Expansion

/-- A change of words that leaves the operators as they are and makes no word one. -/
structure KeepsOperators (f : String → String) : Prop where
  fixes : ∀ word ∈ operators, f word = word
  reflects : ∀ word, f word ∈ operators → word ∈ operators

namespace KeepsOperators

variable {f : String → String} (hf : KeepsOperators f)
include hf

theorem mem_iff (word : String) : f word ∈ operators ↔ word ∈ operators := by
  constructor
  · exact hf.reflects word
  · intro hword
    rwa [hf.fixes word hword]

theorem eq_iff {word operator : String} (hoperator : operator ∈ operators) :
    f word = operator ↔ word = operator := by
  constructor
  · rintro rfl
    exact (hf.fixes word (hf.reflects word hoperator)).symm
  · rintro rfl
    exact hf.fixes word hoperator

end KeepsOperators

theorem Expansion.keepsOperators_expandWord {pid : String} (hpid : IsWord pid)
    (hplain : pid ∉ operators) : KeepsOperators (expandWord pid) where
  fixes word hword := by
    simp only [operators, List.mem_cons, List.not_mem_nil, or_false] at hword
    obtain rfl | rfl | rfl := hword <;> rfl
  reflects word hword := by
    have hsingle : ∃ c, (expandWord pid word).toList = [c] := by
      simp only [operators, List.mem_cons, List.not_mem_nil, or_false] at hword
      obtain h | h | h := hword <;> rw [h] <;> exact ⟨_, rfl⟩
    obtain ⟨c, hc⟩ := hsingle
    rw [toList_expandWord] at hc
    cases eq_singleton_of_expandChars hpid.toList_ne_nil hc with
    | inl hword' =>
        have hsame : expandWord pid word = word := by
          rw [← String.toList_inj, toList_expandWord, hc, hword']
        rwa [← hsame]
    | inr hpid' =>
        have hsame : expandWord pid word = pid := by
          rw [← String.toList_inj, toList_expandWord, hc, hpid']
        exact absurd (hsame ▸ hword) hplain

namespace Command

/-- The command with every word of it changed. -/
def map (f : String → String) (c : Command) : Command where
  program := f c.program
  arguments := c.arguments.map f
  input := c.input.map f
  output := c.output.map f
  background := c.background

theorem expand_eq_map (pid : String) : expand pid = map (Expansion.expandWord pid) := rfl

end Command

/-- The clause with its text changed. -/
def Clause.map (f : String → String) : Clause → Clause
  | redirect side path => redirect side (f path)
  | background => background
  | ignored word => ignored (f word)

/-- The cut of changed words in the same places. -/
def Reading.map (f : String → String) (r : Reading) : Reading where
  arguments := r.arguments.map f
  clauses := r.clauses.map (Clause.map f)
  leftover := r.leftover.map f

theorem Clause.target?_map (f : String → String) (side : Redirection) (clause : Clause) :
    (clause.map f).target? side = (clause.target? side).map f := by
  cases clause with
  | redirect other path =>
      simp only [map, target?]
      split <;> rfl
  | background | ignored => rfl

/-- A changed reading asks for the changed command. -/
theorem Reading.command_map (f : String → String) (program : String) (r : Reading) :
    (r.map f).command (f program) = (r.command program).map f := by
  have htarget (side : Redirection) : (r.map f).lastTarget? side = (r.lastTarget? side).map f := by
    rw [lastTarget?, lastTarget?, ← List.getLast?_map, List.map_filterMap, map,
      List.filterMap_map]
    congr 2
    funext clause
    exact clause.target?_map f side
  have hbackground : Clause.background ∈ (r.map f).clauses ↔ .background ∈ r.clauses := by
    simp only [map, List.mem_map]
    constructor
    · rintro ⟨clause, hclause, hsame⟩
      cases clause with
      | background => exact hclause
      | redirect | ignored => cases hsame
    · intro hclause
      exact ⟨_, hclause, rfl⟩
  simp only [command, Command.map, htarget, hbackground]
  rfl

section Map

variable {f : String → String} (hf : KeepsOperators f)
include hf

theorem Clause.words_map (clause : Clause) : (clause.map f).words = clause.words.map f := by
  cases clause with
  | redirect side path =>
      simp [map, words, hf.fixes side.token (token_mem_operators side)]
  | background => simp [map, words, hf.fixes "&" (by decide)]
  | ignored word => rfl

theorem Clause.flatMap_words_map (clauses : List Clause) :
    (clauses.map (Clause.map f)).flatMap Clause.words = (clauses.flatMap Clause.words).map f := by
  rw [List.flatMap_map, List.map_flatMap]
  congr 1
  funext clause
  exact Clause.words_map hf clause

theorem Clause.Fits.map {slot : Nat} {clause : Clause} (h : clause.Fits slot) :
    (clause.map f).Fits slot := by
  cases clause with
  | redirect | background => exact h
  | ignored word =>
      cases h with
      | inl hfirst => exact Or.inl ⟨hfirst.1, mt (hf.reflects word) hfirst.2⟩
      | inr hlast => exact Or.inr ⟨hlast.1, mt (hf.eq_iff (by decide)).1 hlast.2⟩

theorem Clause.ReadFrom.map {slot : Nat} {clauses : List Clause} {leftover : List String}
    (h : ReadFrom slot clauses leftover) :
    ReadFrom slot (clauses.map (Clause.map f)) (leftover.map f) where
  fits i clause hclause := by
    rw [List.getElem?_map, Option.map_eq_some_iff] at hclause
    obtain ⟨other, hother, rfl⟩ := hclause
    exact Fits.map hf (h.fits i other hother)
  slots := by
    rw [List.length_map]
    exact h.slots
  leftover hne := by
    rw [List.length_map]
    exact h.leftover fun hnil => hne (by rw [hnil, List.map_nil])

theorem KeepsOperators.map_notMem {ws : List String} (h : ∀ word ∈ ws, word ∉ operators) :
    ∀ word ∈ ws.map f, word ∉ operators := by
  intro word hword
  obtain ⟨other, hother, rfl⟩ := List.mem_map.1 hword
  exact mt (hf.reflects other) (h other hother)

theorem KeepsOperators.head_map_mem {ws : List String}
    (h : ∀ word, ws.head? = some word → word ∈ operators) :
    ∀ word, (ws.map f).head? = some word → word ∈ operators := by
  intro word hword
  rw [List.head?_map, Option.map_eq_some_iff] at hword
  obtain ⟨other, hother, rfl⟩ := hword
  exact (hf.mem_iff other).2 (h other hother)

/-- Changed words are read as the words were. -/
theorem Reading.Reads.map {r : Reading} {ts : List String} (h : r.Reads ts) :
    (r.map f).Reads (ts.map f) := by
  have htail : (r.map f).tail = r.tail.map f := by
    simp only [tail, Reading.map, Clause.flatMap_words_map hf, List.map_append]
  constructor
  · rw [htail, h.words, List.map_append]
    rfl
  · exact hf.map_notMem h.arguments
  · rw [htail]
    exact hf.head_map_mem h.starts
  · exact h.clauses.map hf

theorem LacksTarget.map {ts : List String} {side : Redirection} (h : LacksTarget ts side) :
    LacksTarget (ts.map f) side := by
  obtain ⟨arguments, clauses, rfl, harguments, hstarts, hlength, hread⟩ := h
  have htail : (clauses.map (Clause.map f)).flatMap Clause.words ++ [side.token] =
      (clauses.flatMap Clause.words ++ [side.token]).map f := by
    rw [List.map_append, Clause.flatMap_words_map hf, List.map_singleton,
      hf.fixes side.token (Clause.token_mem_operators side)]
  refine ⟨arguments.map f, clauses.map (Clause.map f), ?_, hf.map_notMem harguments, ?_, ?_,
    hread.map hf⟩
  · rw [htail, List.map_append]
  · rw [htail]
    exact hf.head_map_mem hstarts
  · rwa [List.length_map]

/-- So the parser goes the same way. -/
theorem Command.ofWords_map (ws : List String) :
    ofWords (ws.map f) = (ofWords ws).map (Command.map f) := by
  cases ws with
  | nil => rfl
  | cons program ts =>
      rw [List.map_cons]
      cases exists_reads_or_lacksTarget ts with
      | inl hreads =>
          obtain ⟨r, hr⟩ := hreads
          rw [ofWords_of_reads hr, ofWords_of_reads (hr.map hf), Reading.command_map]
          rfl
      | inr hlacks =>
          obtain ⟨side, hside⟩ := hlacks
          rw [ofWords_of_lacksTarget hside, ofWords_of_lacksTarget (hside.map hf)]
          rfl

end Map

section Decimal

theorem Text.isBlank_eq_false_of_isDigit {c : Char} (h : c.isDigit = true) : isBlank c = false := by
  have hrange : 48 ≤ c.toNat ∧ c.toNat ≤ 57 := by
    simp only [Char.isDigit, Bool.and_eq_true, decide_eq_true_eq] at h
    exact ⟨h.1, h.2⟩
  simp only [isBlank, blankRanges, List.any_cons, List.any_nil, Bool.or_false,
    Bool.or_eq_false_iff, Bool.and_eq_false_iff, decide_eq_false_iff_not]
  omega

theorem Text.isWord_toString (n : Int) : IsWord (toString n) where
  ne_empty := by
    cases n with
    | ofNat m => exact Nat.repr_ne_empty
    | negSucc m =>
        intro hempty
        have hlength := congrArg String.length hempty
        change ("-" ++ toString (m + 1)).length = 0 at hlength
        have hsign : "-".length = 1 := rfl
        rw [String.length_append, hsign] at hlength
        omega
  unbroken c hc := by
    obtain hdigit | rfl := isDigit_or_sign_of_mem hc
    · exact isBlank_eq_false_of_isDigit hdigit
    · decide

theorem Text.toString_notMem_operators (n : Int) : toString n ∉ operators := by
  intro hmem
  have hfirst : ∀ word ∈ operators,
      word.toList.any (fun c => !c.isDigit && c != '-') = true := by decide
  obtain ⟨c, hc, hother⟩ := List.any_eq_true.1 (hfirst _ hmem)
  rw [Bool.and_eq_true, Bool.not_eq_true', bne_iff_ne] at hother
  obtain ⟨hdigit, hsign⟩ := hother
  obtain hdigit' | hsign' := isDigit_or_sign_of_mem hc
  · exact absurd (hdigit.symm.trans hdigit') Bool.false_ne_true
  · exact hsign hsign'

end Decimal

namespace Command

/-- **Expansion commutes with parsing.** Let a pid be a word and no operator, as the pid of every
shell is. When every pair of `$` of a line has given way to it, from left to right, the line that
comes of this is read as the line itself with its words expanded, and gives the same error where
there is one. The expansion of a line is what comes of it in this way, and so it is of a word. The
words of the expanded line are those of the line, expanded one by one, and a word is an operator
after the expansion if and only if it is one before. -/
theorem parse_expandWord :
    (∀ pid, IsWord pid → pid ∉ operators → ∀ line,
      (∀ replaced : String, Expansion.Replaces pid.toList line.toList replaced.toList ↔
        replaced = Expansion.expandWord pid line) ∧
      (∀ replaced : String, Expansion.Replaces pid.toList line.toList replaced.toList →
        parse replaced = (parse line).map (expand pid)) ∧
      parse (Expansion.expandWord pid line) = (parse line).map (expand pid) ∧
        Text.words (Expansion.expandWord pid line) =
          (Text.words line).map (Expansion.expandWord pid) ∧
        ∀ word, Expansion.expandWord pid word ∈ operators ↔ word ∈ operators) ∧
      ∀ s : Shell, IsWord s.pidText ∧ s.pidText ∉ operators := by
  constructor
  · intro pid hpid hplain line
    have hreplaced (replaced : String) :
        Expansion.Replaces pid.toList line.toList replaced.toList ↔
          replaced = Expansion.expandWord pid line := by
      rw [Expansion.replaces_iff, ← Expansion.toList_expandWord, String.toList_inj]
    have hwords := Expansion.words_expandWord hpid line
    have hkeeps := Expansion.keepsOperators_expandWord hpid hplain
    have hparse :
        parse (Expansion.expandWord pid line) = (parse line).map (expand pid) := by
      rw [parse, hwords, ofWords_map hkeeps, expand_eq_map]
      rfl
    refine ⟨hreplaced, fun replaced h => ?_, hparse, hwords, hkeeps.mem_iff⟩
    rw [(hreplaced replaced).1 h, hparse]
  · intro s
    exact ⟨isWord_toString _, toString_notMem_operators _⟩

/-- A line in which operators stand beside words that end and begin in `$`. -/
theorem parse_expandWord_odd_run :
    IsWord "4242" ∧ "4242" ∉ operators ∧
      Expansion.Replaces "4242".toList "$$$ a$ $b <$$ < $$$$ & >".toList
        "4242$ a$ $b <4242 < 42424242 & >".toList ∧
      parse "4242$ a$ $b <4242 < 42424242 & >" =
        (parse "$$$ a$ $b <$$ < $$$$ & >").map (expand "4242") ∧
      parse "$$$ a$ $b <$$ < $$$$ & >" = .ok
        { program := "$$$", arguments := ["a$", "$b", "<$$"], input := some "$$$$",
          background := true } := by
  have hpid : IsWord "4242" := by decide
  have hplain : "4242" ∉ operators := by decide
  obtain ⟨hreplaces, hparse, -⟩ :=
    parse_expandWord.1 "4242" hpid hplain "$$$ a$ $b <$$ < $$$$ & >"
  have hreplaced := (hreplaces "4242$ a$ $b <4242 < 42424242 & >").2 (by decide)
  exact ⟨hpid, hplain, hreplaced, hparse _ hreplaced, by decide⟩

end Command

end JobShell
