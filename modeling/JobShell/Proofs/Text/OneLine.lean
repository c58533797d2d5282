import JobShell.Proofs.Text.LineSplit
import JobShell.Text.Quoted

/-!
# Texts without a line feed

Decimal numbers and quoted texts hold no line feed, so what is put together from them and a line
feed is one line (`Text.lines_line_append`).
-/

namespace JobShell

namespace Text

/-- A decimal number is written in digits, after a sign if it is negative. -/
theorem isDigit_or_sign_of_mem {n : Int} {c : Char} (h : c ∈ (toString n).toList) :
    c.isDigit = true ∨ c = '-' := by
  have hnat (m : Nat) (h : c ∈ (toString m).toList) : c.isDigit = true := by
    rw [Nat.toString_eq_ofList_toDigits, String.toList_ofList] at h
    exact Nat.isDigit_of_mem_toDigits (by decide) (by decide) h
  cases n with
  | ofNat m => exact Or.inl (hnat m h)
  | negSucc m =>
      have hsign : (toString (Int.negSucc m)).toList = '-' :: (toString (m + 1)).toList := by
        change ("-" ++ toString (m + 1)).toList = _
        rw [String.toList_append]
        rfl
      rw [hsign] at h
      cases List.mem_cons.1 h with
      | inl hhead => exact Or.inr hhead
      | inr hdigits => exact Or.inl (hnat (m + 1) hdigits)

theorem notMem_toString {c : Char} (hdigit : c.isDigit = false) (hsign : c ≠ '-') (n : Int) :
    c ∉ (toString n).toList := by
  intro h
  obtain hdigit' | hsign' := isDigit_or_sign_of_mem h
  · exact absurd (hdigit.symm.trans hdigit') Bool.false_ne_true
  · exact hsign hsign'

theorem lineFeed_notMem_toString (n : Int) : '\n' ∉ (toString n).toList :=
  notMem_toString (by decide) (by decide) n

theorem notMem_append {c : Char} {a b : String} (ha : c ∉ a.toList) (hb : c ∉ b.toList) :
    c ∉ (a ++ b).toList := by
  rw [String.toList_append, List.mem_append, not_or]
  exact ⟨ha, hb⟩

theorem lineFeed_notMem_toDigits (n : Nat) : '\n' ∉ Nat.toDigits 16 n := by
  have hdigit {d : Nat} (h : d < 16) : '\n' ≠ Nat.digitChar d := by
    revert d
    decide
  induction n using Nat.strongRecOn with
  | ind n ih =>
      rw [Nat.toDigits_eq_if (by decide)]
      split
      · next hless => exact mt List.mem_singleton.1 (hdigit hless)
      · rw [List.mem_append, not_or, List.mem_singleton]
        exact ⟨ih _ (by omega), hdigit (Nat.mod_lt n (by decide))⟩

theorem lineFeed_notMem_quoteChar (c : Char) : '\n' ∉ quoteChar c := by
  by_cases hfeed : c = '\n'
  · rw [hfeed]
    decide
  · unfold quoteChar
    split_ifs <;> simp [codePointEscape, lineFeed_notMem_toDigits, Ne.symm hfeed]

theorem lineFeed_notMem_quoted (s : String) : '\n' ∉ (quoted s).toList := by
  rw [quoted, String.toList_ofList]
  simp [lineFeed_notMem_quoteChar]

/-- A line that is written before a text is its first line. -/
theorem lines_line_append {line : String} (hopen : '\n' ∉ line.toList)
    (hreturn : line.toList.getLast? ≠ some '\r') (rest : String) :
    lines (line ++ "\n" ++ rest) = line :: lines rest := by
  have hsplits := SplitsInto.feed hopen hreturn (splitsInto_linesOf rest.toList)
  have htext : (line ++ "\n" ++ rest).toList = line.toList ++ '\n' :: rest.toList := by
    simp
  rw [lines, htext, ← splitsInto_iff.1 hsplits, List.map_cons, String.ofList_toList]
  rfl

end Text

end JobShell
