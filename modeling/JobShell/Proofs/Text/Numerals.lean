import JobShell.Text.Decimal
import Mathlib.Data.List.Induction
import Mathlib.Data.Nat.Digits.Defs

/-!
# Texts that denote numbers

A text denotes a number if it is an optional sign and one or more ASCII digits
(`Text.Denotes`). Every such text is read, with its value, and no other one
(`Text.readSigned?_eq_some_iff`); it is taken as a number of 32 bits if its value fits
(`Text.readWord?_eq_some_iff`).

What is written for a number denotes it (`Text.denotes_toString`), so distinct numbers are
written differently.
-/

namespace JobShell

namespace Text

/-- The value of a digit. -/
def digitValue (c : Char) : Nat :=
  c.toNat - '0'.toNat

/-- One or more ASCII digits, and their value. -/
structure IsNumeral (digits : List Char) (n : Nat) : Prop where
  ne_nil : digits ≠ []
  isDigit : ∀ c ∈ digits, c.isDigit = true
  value : n = Nat.ofDigits 10 (digits.reverse.map digitValue)

/-- An optional sign and a numeral, and their value. -/
inductive Denotes (text : String) : Int → Prop where
  | unsigned {digits : List Char} {n : Nat} (htext : text.toList = digits)
      (hdigits : IsNumeral digits n) : Denotes text n
  | plus {digits : List Char} {n : Nat} (htext : text.toList = '+' :: digits)
      (hdigits : IsNumeral digits n) : Denotes text n
  | minus {digits : List Char} {n : Nat} (htext : text.toList = '-' :: digits)
      (hdigits : IsNumeral digits n) : Denotes text (-n)

/-- Reading from left to right gives the positional value. -/
theorem digitsValue_eq (cs : List Char) :
    digitsValue cs = Nat.ofDigits 10 (cs.reverse.map digitValue) := by
  induction cs using List.reverseRecOn with
  | nil => rfl
  | append_singleton cs c ih =>
      rw [digitsValue, List.foldl_append, ← digitsValue, ih, List.reverse_concat, List.map_cons,
        Nat.ofDigits_cons]
      exact Nat.add_comm ..

theorem readNat?_eq_some_iff {cs : List Char} {n : Nat} :
    readNat? cs = some n ↔ IsNumeral cs n := by
  constructor
  · intro h
    rw [readNat?] at h
    split at h
    · cases h
    · next hempty =>
        split at h
        · next hall =>
            cases h
            exact ⟨by simpa using hempty, List.all_eq_true.1 hall, digitsValue_eq cs⟩
        · cases h
  · intro h
    rw [readNat?, if_neg (by simpa using h.ne_nil), if_pos (List.all_eq_true.2 h.isDigit),
      h.value, digitsValue_eq]

theorem IsNumeral.head_isDigit {c : Char} {cs : List Char} {n : Nat}
    (h : IsNumeral (c :: cs) n) : c.isDigit = true :=
  h.isDigit c List.mem_cons_self

theorem readSigned?_eq_some_iff {text : String} {n : Int} :
    readSigned? text.toList = some n ↔ Denotes text n := by
  constructor
  · intro h
    generalize htext : text.toList = cs at h
    rw [readSigned?.eq_def] at h
    split at h
    · obtain ⟨m, hm, rfl⟩ := Option.map_eq_some_iff.1 h
      exact .plus htext (readNat?_eq_some_iff.1 hm)
    · next digits =>
        cases hm : readNat? digits with
        | none =>
            rw [hm] at h
            cases h
        | some m =>
            rw [hm] at h
            cases h
            exact .minus htext (readNat?_eq_some_iff.1 hm)
    · obtain ⟨m, hm, rfl⟩ := Option.map_eq_some_iff.1 h
      exact .unsigned htext (readNat?_eq_some_iff.1 hm)
  · intro h
    cases h with
    | unsigned htext hdigits =>
        rw [htext, readSigned?.eq_def]
        -- a numeral starts with a digit, which is no sign
        split
        · exact absurd hdigits.head_isDigit (by decide)
        · exact absurd hdigits.head_isDigit (by decide)
        · rw [readNat?_eq_some_iff.2 hdigits]
          rfl
    | plus htext hdigits =>
        rw [htext, readSigned?, readNat?_eq_some_iff.2 hdigits]
        rfl
    | minus htext hdigits =>
        rw [htext, readSigned?, readNat?_eq_some_iff.2 hdigits]
        rfl

theorem readWord?_eq_some_iff {text : String} {n : Int} :
    readWord? text = some n ↔ Denotes text n ∧ -2 ^ 31 ≤ n ∧ n < 2 ^ 31 := by
  have hfits : fitsWord n = true ↔ -2 ^ 31 ≤ n ∧ n < 2 ^ 31 := by
    rw [fitsWord, Bool.and_eq_true, decide_eq_true_eq, decide_eq_true_eq]
    omega
  rw [readWord?, Option.filter_eq_some_iff, readSigned?_eq_some_iff, hfits]

section Written

theorem Denotes.unique {text : String} {n m : Int} (h : Denotes text n) (h' : Denotes text m) :
    n = m :=
  Option.some.inj ((readSigned?_eq_some_iff.2 h).symm.trans (readSigned?_eq_some_iff.2 h'))

theorem isNumeral_toDigits (n : Nat) : IsNumeral (Nat.toDigits 10 n) n where
  ne_nil := Nat.toDigits_ne_nil
  isDigit _ hc := Nat.isDigit_of_mem_toDigits (by decide) (by decide) hc
  value := by
    have hvalue : digitsValue (Nat.toDigits 10 n) = n := Nat.ofDigitChars_ten_toDigits
    rw [← digitsValue_eq, hvalue]

theorem toList_toString (n : Nat) : (toString n).toList = Nat.toDigits 10 n := by
  rw [Nat.toString_eq_ofList_toDigits, String.toList_ofList]

/-- A number is written so that it can be read. -/
theorem denotes_toString (n : Int) : Denotes (toString n) n := by
  cases n with
  | ofNat m => exact .unsigned (toList_toString m) (isNumeral_toDigits m)
  | negSucc m =>
      have hsign : (toString (Int.negSucc m)).toList = '-' :: Nat.toDigits 10 (m + 1) := by
        change ("-" ++ toString (m + 1)).toList = _
        rw [String.toList_append, toList_toString]
        rfl
      exact .minus hsign (isNumeral_toDigits (m + 1))

theorem toString_injective : Function.Injective (toString : Int → String) := by
  intro n m h
  exact (denotes_toString n).unique (h ▸ denotes_toString m)

end Written

end Text

end JobShell
