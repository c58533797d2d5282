/-!
# Blank characters and words

A character is blank when it has the Unicode property `White_Space`. A line is
read as its *words*, the maximal runs of characters that are not blank, so two
different spacings of the same words cannot be told apart. The look-alikes
U+001C to U+001F, U+200B and U+FEFF lack the property and belong to words.

`trim` removes the blanks at both ends without looking at the middle; it is a
second, independent way to ask whether a line holds anything at all.
-/

namespace JobShell

namespace Text

/-- The ten ranges of the Unicode property `White_Space`, in increasing order. -/
def blankRanges : List (Nat × Nat) :=
  [(0x09, 0x0D), (0x20, 0x20), (0x85, 0x85), (0xA0, 0xA0), (0x1680, 0x1680),
   (0x2000, 0x200A), (0x2028, 0x2029), (0x202F, 0x202F), (0x205F, 0x205F),
   (0x3000, 0x3000)]

/-- A character with the Unicode property `White_Space`. -/
def isBlank (c : Char) : Bool :=
  blankRanges.any fun r => r.1 ≤ c.toNat && c.toNat ≤ r.2

/-- Every blank that the standard library knows is a blank here. -/
theorem isBlank_of_isWhitespace {c : Char} (h : c.isWhitespace = true) :
    isBlank c = true := by
  simp only [Char.isWhitespace, Bool.or_eq_true, decide_eq_true_eq] at h
  rcases h with ((rfl | rfl) | rfl) | rfl <;> decide

/-- A word under way and the words that follow it. The first component is the
run that touches the start of the text; it is empty when the text starts with a
blank or is empty. -/
def breakWords : List Char → List Char × List (List Char)
  | [] => ([], [])
  | c :: cs =>
    let (run, rest) := breakWords cs
    if isBlank c then ([], if run.isEmpty then rest else run :: rest)
    else (c :: run, rest)

/-- The words of a text: its maximal runs of characters that are not blank. -/
def wordsOf (cs : List Char) : List (List Char) :=
  let (run, rest) := breakWords cs
  if run.isEmpty then rest else run :: rest

/-- The words of a line, from left to right. -/
def words (line : String) : List String :=
  (wordsOf line.toList).map String.ofList

/-- The text without the blanks at its two ends. -/
def trimChars (cs : List Char) : List Char :=
  ((cs.dropWhile isBlank).reverse.dropWhile isBlank).reverse

/-- The line without the blanks at its two ends. -/
def trim (line : String) : String :=
  String.ofList (trimChars line.toList)

@[simp] theorem wordsOf_nil : wordsOf [] = [] := rfl

/-- A blank at the start of a text starts no word. -/
theorem wordsOf_cons_blank {c : Char} (h : isBlank c = true) (cs : List Char) :
    wordsOf (c :: cs) = wordsOf cs := by
  simp [wordsOf, breakWords, h]

theorem breakWords_ne_nil (cs : List Char) : ∀ w ∈ (breakWords cs).2, w ≠ [] := by
  induction cs with
  | nil => simp [breakWords]
  | cons c cs ih =>
    intro w hw
    simp only [breakWords] at hw
    split at hw
    · split at hw
      · exact ih w hw
      · rcases List.mem_cons.1 hw with rfl | hw
        · simp_all
        · exact ih w hw
    · exact ih w hw

theorem wordsOf_ne_nil (cs : List Char) : ∀ w ∈ wordsOf cs, w ≠ [] := by
  intro w hw
  simp only [wordsOf] at hw
  split at hw
  · exact breakWords_ne_nil cs w hw
  · rcases List.mem_cons.1 hw with rfl | hw
    · simp_all
    · exact breakWords_ne_nil cs w hw

end Text

end JobShell
