import JobShell.Command.Basic
import JobShell.Text.Blank
import Mathlib.Data.List.TakeWhile

/-!
# Words of a text

A text is read as the words that a blank, or the end of the text, closes
(`Text.wordsOf_append_blank`, `Text.wordsOf_of_isWord`). So words that are written one after
the other, each after a space, are read as they were written (`Text.words_renderWords`), and
whatever is read is a word (`Text.isWord_of_mem_words`).

Nothing is read of a text in which all characters are blank, and of no other one
(`Text.words_eq_nil_iff`). These are the texts of which trimming leaves nothing
(`Text.trim_eq_empty_iff`).
-/

namespace JobShell

namespace Text

/-- A run of characters without blanks that is not empty. -/
structure IsWord (s : String) : Prop where
  ne_empty : s ≠ ""
  unbroken : ∀ c ∈ s.toList, isBlank c = false

instance : DecidablePred IsWord := fun s =>
  decidable_of_iff (s ≠ "" ∧ s.toList.all (fun c => !isBlank c) = true)
    ⟨fun h => ⟨h.1, by simpa using h.2⟩, fun h => ⟨h.ne_empty, by simpa using h.unbroken⟩⟩

theorem breakWords_cons_blank {c : Char} (h : isBlank c = true) (cs : List Char) :
    breakWords (c :: cs) = ([], wordsOf cs) := by
  simp [breakWords, wordsOf, h]

theorem breakWords_cons {c : Char} (h : isBlank c = false) (cs : List Char) :
    breakWords (c :: cs) = (c :: (breakWords cs).1, (breakWords cs).2) := by
  simp [breakWords, h]

/-- Characters that are not blank join the run at the start of what follows. -/
theorem breakWords_append {w : List Char} (h : ∀ c ∈ w, isBlank c = false) (cs : List Char) :
    breakWords (w ++ cs) = (w ++ (breakWords cs).1, (breakWords cs).2) := by
  induction w with
  | nil => rfl
  | cons c w ih =>
      have hrest := ih fun d hd => h d (List.mem_cons_of_mem _ hd)
      rw [List.cons_append, breakWords_cons (h c List.mem_cons_self), hrest]
      rfl

/-- A blank closes a word. -/
theorem wordsOf_append_blank {w : List Char} (hne : w ≠ []) (h : ∀ c ∈ w, isBlank c = false)
    {b : Char} (hb : isBlank b = true) (cs : List Char) :
    wordsOf (w ++ b :: cs) = w :: wordsOf cs := by
  rw [wordsOf, breakWords_append h, breakWords_cons_blank hb]
  simp [hne]

/-- So does the end of the text. -/
theorem wordsOf_of_isWord {w : List Char} (hne : w ≠ []) (h : ∀ c ∈ w, isBlank c = false) :
    wordsOf w = [w] := by
  have hbreak := breakWords_append h []
  rw [List.append_nil] at hbreak
  rw [wordsOf, hbreak]
  simp [hne, breakWords]

theorem eq_or_mem_of_mem_wordsOf {cs w : List Char} (h : w ∈ wordsOf cs) :
    w = (breakWords cs).1 ∨ w ∈ (breakWords cs).2 := by
  have hwords : wordsOf cs = if (breakWords cs).1.isEmpty then (breakWords cs).2
      else (breakWords cs).1 :: (breakWords cs).2 := rfl
  rw [hwords] at h
  split at h
  · exact Or.inr h
  · exact List.mem_cons.1 h

/-- Neither the run at the start nor the words after it hold a blank. -/
theorem unbroken_breakWords (cs : List Char) :
    (∀ c ∈ (breakWords cs).1, isBlank c = false) ∧
      ∀ w ∈ (breakWords cs).2, ∀ c ∈ w, isBlank c = false := by
  induction cs with
  | nil => simp [breakWords]
  | cons c cs ih =>
      obtain ⟨hrun, hrest⟩ := ih
      cases hc : isBlank c with
      | false =>
          rw [breakWords_cons hc]
          constructor
          · intro d hd
            cases List.mem_cons.1 hd with
            | inl hhead => rw [hhead, hc]
            | inr htail => exact hrun d htail
          · exact hrest
      | true =>
          rw [breakWords_cons_blank hc]
          constructor
          · simp
          · intro w hw
            cases eq_or_mem_of_mem_wordsOf hw with
            | inl hfirst => rw [hfirst]; exact hrun
            | inr hlater => exact hrest w hlater

theorem unbroken_of_mem_wordsOf {cs w : List Char} (h : w ∈ wordsOf cs) :
    ∀ c ∈ w, isBlank c = false := by
  obtain ⟨hrun, hrest⟩ := unbroken_breakWords cs
  cases eq_or_mem_of_mem_wordsOf h with
  | inl hfirst => rw [hfirst]; exact hrun
  | inr hlater => exact hrest w hlater

theorem isWord_of_mem_words {line word : String} (h : word ∈ words line) : IsWord word := by
  obtain ⟨w, hw, rfl⟩ := List.mem_map.1 h
  constructor
  · intro hempty
    apply wordsOf_ne_nil _ w hw
    simpa using hempty
  · intro c hc
    rw [String.toList_ofList] at hc
    exact unbroken_of_mem_wordsOf hw c hc

theorem IsWord.toList_ne_nil {s : String} (h : IsWord s) : s.toList ≠ [] := by
  intro hnil
  apply h.ne_empty
  simpa using hnil

theorem IsWord.words_eq {s : String} (h : IsWord s) : words s = [s] := by
  rw [words, wordsOf_of_isWord h.toList_ne_nil h.unbroken, List.map_singleton,
    String.ofList_toList]

section Blank

/-- The 25 code points with the property `White_Space`. -/
def whiteSpace : List Nat :=
  [0x09, 0x0A, 0x0B, 0x0C, 0x0D, 0x20, 0x85, 0xA0, 0x1680, 0x2000, 0x2001, 0x2002, 0x2003,
   0x2004, 0x2005, 0x2006, 0x2007, 0x2008, 0x2009, 0x200A, 0x2028, 0x2029, 0x202F, 0x205F,
   0x3000]

/-- Code points that are taken for blanks elsewhere and lack the property: the four information
separators, the space without width and the byte order mark. -/
def lookAlikes : List Nat := [0x1C, 0x1D, 0x1E, 0x1F, 0x200B, 0xFEFF]

theorem whiteSpace_eq :
    whiteSpace = blankRanges.flatMap fun r => List.range' r.1 (r.2 + 1 - r.1) := by
  decide

theorem isBlank_iff {c : Char} : isBlank c = true ↔ c.toNat ∈ whiteSpace := by
  rw [whiteSpace_eq, isBlank, List.any_eq_true, List.mem_flatMap]
  refine exists_congr fun r => and_congr_right fun _ => ?_
  rw [List.mem_range'_1, Bool.and_eq_true, decide_eq_true_eq, decide_eq_true_eq]
  omega

theorem notMem_whiteSpace {n : Nat} (h : n ∈ lookAlikes) : n ∉ whiteSpace := by
  revert n
  decide

theorem IsWord.notMem_whiteSpace {s : String} (h : IsWord s) {c : Char} (hc : c ∈ s.toList) :
    c.toNat ∉ whiteSpace := by
  rw [← isBlank_iff, h.unbroken c hc]
  exact Bool.false_ne_true

/-- A text in which every character is blank holds no word, and any other text holds one. -/
theorem wordsOf_eq_nil_iff {cs : List Char} : wordsOf cs = [] ↔ ∀ c ∈ cs, isBlank c = true := by
  induction cs with
  | nil => simp
  | cons c cs ih =>
      rw [List.forall_mem_cons]
      cases hc : isBlank c with
      | true => rw [wordsOf_cons_blank hc, ih, and_iff_right rfl]
      | false => simp [wordsOf, breakWords_cons hc]

theorem words_eq_nil_iff {line : String} :
    words line = [] ↔ ∀ c ∈ line.toList, isBlank c = true := by
  rw [words, List.map_eq_nil_iff, wordsOf_eq_nil_iff]

/-- What is not blank stops the trimming from both ends. -/
theorem trimChars_eq_nil_iff {cs : List Char} :
    trimChars cs = [] ↔ ∀ c ∈ cs, isBlank c = true := by
  rw [trimChars, List.reverse_eq_nil_iff, List.dropWhile_eq_nil_iff]
  simp only [List.mem_reverse]
  constructor
  · intro h c hc
    rw [← List.takeWhile_append_dropWhile (p := isBlank) (l := cs), List.mem_append] at hc
    cases hc with
    | inl hfront => exact List.mem_takeWhile_imp hfront
    | inr hrest => exact h c hrest
  · intro h c hc
    exact h c ((List.dropWhile_sublist isBlank).mem hc)

theorem trim_eq_empty_iff {line : String} :
    trim line = "" ↔ ∀ c ∈ line.toList, isBlank c = true := by
  rw [trim, ← String.toList_inj, String.toList_ofList, String.toList_empty, trimChars_eq_nil_iff]

end Blank

end Text

open Text

/-- A word and the words that are written after it, each after one space, are read one by
one. -/
theorem Text.words_renderWords {word : String} {rest : List String} (hword : IsWord word)
    (hrest : ∀ w ∈ rest, IsWord w) :
    words (word ++ Command.renderWords rest) = word :: rest := by
  induction rest generalizing word with
  | nil => rw [Command.renderWords, String.append_empty, hword.words_eq]
  | cons next rest ih =>
      have hnext : words (next ++ Command.renderWords rest) = next :: rest :=
        ih (hrest next List.mem_cons_self) fun w hw => hrest w (List.mem_cons_of_mem _ hw)
      have hsplit : (word ++ Command.renderWords (next :: rest)).toList =
          word.toList ++ ' ' :: (next ++ Command.renderWords rest).toList := by
        simp [Command.renderWords]
      rw [words, hsplit, wordsOf_append_blank hword.toList_ne_nil hword.unbroken (by decide),
        List.map_cons, String.ofList_toList]
      exact congrArg (word :: ·) hnext

end JobShell
