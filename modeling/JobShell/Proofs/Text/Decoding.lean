import JobShell.Proofs.Text.LineSplit
import JobShell.Text.Utf8
import Mathlib.Algebra.Group.Nat.Defs

/-!
# Decoding line by line

Decoding bytes as a whole and decoding their lines one by one yield the same lines
(`SplitsInto.decode`). A byte below 0x80 stands for itself wherever it comes, also in the middle
of a sequence that it cuts off (`Decoder.run_append_ascii`), and nothing else is read as a
character below 0x80 (`Decoder.mem_run_ascii`); so a malformed sequence neither swallows the end
of a line nor makes one up.
-/

namespace JobShell

namespace Text

namespace Decoder

/-- Whatever a sequence under way is completed with, it stands for a character from 0x80 on, and
none of its bytes is below 0x80. -/
structure Sequence.Long (s : Sequence) : Prop where
  low : 0x80 ≤ s.low.toNat
  bits : 0x80 ≤ (s.bits * 64 + (s.low.toNat - 0x80)) * 64 ^ s.missing

/-- The sequence under way, if there is one, is a long one. -/
def Long (state : Option Sequence) : Prop :=
  ∀ s, state = some s → s.Long

theorem long_none : Long none :=
  nofun

variable {b : UInt8} {state : Option Sequence}

theorem run_cons (state : Option Sequence) (b : UInt8) (bytes : Bytes) :
    run state (b :: bytes) = (step state b).1 ++ run (step state b).2 bytes := by
  cases state <;> rfl

/-- What a byte is read as when no sequence is under way: itself, something malformed, or the
first byte of a long sequence. -/
inductive Heads (b : UInt8) : List (Option Char) × Option Sequence → Prop where
  | ascii (h : b.toNat < 0x80) : Heads b ([some (Char.ofNat b.toNat)], none)
  | malformed (h : 0x80 ≤ b.toNat) : Heads b ([none], none)
  | opens {s : Sequence} (h : 0x80 ≤ b.toNat) (hlong : s.Long) : Heads b ([], some s)

theorem heads_first (b : UInt8) : Heads b (first b) := by
  rw [first]
  by_cases hascii : b.toNat < 0x80
  · rw [if_pos hascii]
    exact .ascii hascii
  · have hhigh := Nat.not_lt.1 hascii
    rw [if_neg hascii]
    split
    · exact .malformed hhigh
    · have opens {missing bits : Nat} {low high : UInt8} (hlow : 0x80 ≤ low.toNat)
          (hbits : 0x80 ≤ (bits * 64 + (low.toNat - 0x80)) * 64 ^ missing) :
          Heads b ([], some ⟨missing, bits, low, high⟩) := .opens hhigh ⟨hlow, hbits⟩
      -- the range of the second byte keeps the shortest sequences of three and four bytes long
      repeat' split
      all_goals first | exact .malformed hhigh | refine opens (by decide) ?_
      all_goals
        simp only [UInt8.reduceToNat]
        omega

/-- What a byte is read as behind a long sequence that is under way, if there is one: it ends
this sequence and begins anew, or it belongs to it. -/
inductive Reads (state : Option Sequence) (b : UInt8) :
    List (Option Char) × Option Sequence → Prop where
  | heads {read : List (Option Char) × Option Sequence} (h : Heads b read) :
      Reads state b (run state [] ++ read.1, read.2)
  | continues {s : Sequence} (h : 0x80 ≤ b.toNat) (hlong : s.Long) : Reads state b ([], some s)
  | completes {n : Nat} (h : 0x80 ≤ b.toNat) (hn : 0x80 ≤ n) :
      Reads state b ([some (Char.ofNat n)], none)

theorem reads_step (hstate : Long state) (b : UInt8) : Reads state b (step state b) := by
  cases state with
  | none => exact .heads (heads_first b)
  | some s =>
      rw [step]
      split
      · next hnext =>
          have hlong := hstate s rfl
          have hlow := UInt8.le_iff_toNat_le.1 hnext.1
          -- the next byte of a sequence makes it no shorter
          have hbits : 0x80 ≤ (s.bits * 64 + (b.toNat - 0x80)) * 64 ^ s.missing :=
            Nat.le_trans hlong.bits (Nat.mul_le_mul_right _ (by omega))
          have hhigh : 0x80 ≤ b.toNat := Nat.le_trans hlong.low hlow
          dsimp only
          split
          · next hmissing =>
              rw [hmissing, Nat.pow_zero, Nat.mul_one] at hbits
              exact .completes hhigh hbits
          · next n hmissing =>
              have hzero : (0x80 : UInt8).toNat - 0x80 = 0 := rfl
              refine .continues hhigh ⟨Nat.le_refl _, ?_⟩
              rw [hzero, Nat.add_zero, Nat.mul_assoc, ← Nat.pow_succ', ← hmissing]
              exact hbits
      · exact .heads (heads_first b)

theorem long_step (hstate : Long state) : Long (step state b).2 := by
  have hread := reads_step hstate b
  generalize step state b = read at hread
  cases hread with
  | heads h =>
      cases h with
      | ascii | malformed => exact long_none
      | opens _ hlong =>
          rintro _ ⟨⟩
          exact hlong
  | continues _ hlong =>
      rintro _ ⟨⟩
      exact hlong
  | completes => exact long_none

/-- A byte below 0x80 ends the sequence under way and stands for itself. -/
theorem step_ascii_eq (hstate : Long state) (h : b.toNat < 0x80) :
    step state b = (run state [] ++ [some (Char.ofNat b.toNat)], none) := by
  have hread := reads_step hstate b
  generalize step state b = read at hread
  cases hread with
  | heads hhead =>
      cases hhead with
      | ascii => rfl
      | malformed hhigh | opens hhigh => omega
  | continues hhigh | completes hhigh => omega

/-- What stands before a byte below 0x80 is read as if it ended there, and what stands behind it
as if it began there. -/
theorem run_append_ascii (hstate : Long state) (bytes rest : Bytes)
    (h : b.toNat < 0x80) :
    run state (bytes ++ b :: rest) =
      run state bytes ++ some (Char.ofNat b.toNat) :: run none rest := by
  induction bytes generalizing state with
  | nil =>
      rw [List.nil_append, run_cons, step_ascii_eq hstate h]
      exact List.append_assoc ..
  | cons first bytes ih =>
      rw [List.cons_append, run_cons, run_cons, ih (long_step hstate),
        List.append_assoc]

/-- A number that is no code point stands for NUL. -/
theorem toNat_ofNat (n : Nat) : (Char.ofNat n).toNat = if n.isValidChar then n else 0 := by
  by_cases h : n.isValidChar
  · rw [if_pos h, Char.ofNat, dif_pos h]
    rfl
  · rw [if_neg h, Char.ofNat, dif_neg h]
    rfl

/-- No code point from 0x80 on, valid or not, stands for a character between NUL and 0x80. -/
theorem toNat_ofNat_notAscii {n : Nat} (h : 0x80 ≤ n) :
    (Char.ofNat n).toNat = 0 ∨ 0x80 ≤ (Char.ofNat n).toNat := by
  rw [toNat_ofNat]
  split
  · exact Or.inr h
  · exact Or.inl rfl

/-- Only a byte that is a character below 0x80 is read as that character. -/
theorem mem_step_ascii (hstate : Long state) {c : Char}
    (hmem : some c ∈ (step state b).1) (hpos : 0 < c.toNat) (hascii : c.toNat < 0x80) :
    b.toNat = c.toNat := by
  have hopen : some c ∉ run state [] := by cases state <;> simp [run]
  have hread := reads_step hstate b
  generalize step state b = read at hread hmem
  cases hread with
  | heads hhead =>
      cases hhead with
      | ascii h =>
          rw [List.mem_append, or_iff_right hopen, List.mem_singleton, Option.some.injEq] at hmem
          rw [hmem, toNat_ofNat, if_pos (Or.inl (by omega))]
      | malformed => simp [hopen] at hmem
      | opens => simp [hopen] at hmem
  | continues => cases hmem
  | completes _ hn =>
      rw [List.mem_singleton, Option.some.injEq] at hmem
      have hlong := toNat_ofNat_notAscii hn
      rw [← hmem] at hlong
      omega

theorem mem_run_ascii (hstate : Long state) {c : Char} {bytes : Bytes}
    (hmem : some c ∈ run state bytes) (hpos : 0 < c.toNat) (hascii : c.toNat < 0x80) :
    ∃ b ∈ bytes, b.toNat = c.toNat := by
  induction bytes generalizing state with
  | nil => cases state <;> simp [run] at hmem
  | cons first bytes ih =>
      rw [run_cons, List.mem_append] at hmem
      cases hmem with
      | inl hfirst => exact ⟨first, List.mem_cons_self, mem_step_ascii hstate hfirst hpos hascii⟩
      | inr hlater =>
          obtain ⟨b, hb, hvalue⟩ := ih (long_step hstate) hlater
          exact ⟨b, List.mem_cons_of_mem _ hb, hvalue⟩

/-- A byte that yields nothing has begun or continued a sequence. -/
theorem isSome_of_step_nil (hstate : Long state) (h : (step state b).1 = []) :
    (step state b).2.isSome := by
  have hread := reads_step hstate b
  generalize step state b = read at hread h ⊢
  cases hread with
  | heads hhead =>
      cases hhead with
      | ascii | malformed => simp at h
      | opens => rfl
  | continues => rfl
  | completes => cases h

theorem run_eq_nil_iff (hstate : Long state) {bytes : Bytes} :
    run state bytes = [] ↔ state = none ∧ bytes = [] := by
  constructor
  · intro h
    induction bytes generalizing state with
    | nil => cases state <;> simp_all [run]
    | cons first bytes ih =>
        rw [run_cons, List.append_eq_nil_iff] at h
        have hopen := isSome_of_step_nil hstate h.1
        rw [(ih (long_step hstate) h.2).1] at hopen
        cases hopen
  · rintro ⟨rfl, rfl⟩
    rfl

/-- The last of what is read is a character below 0x80 only if the last byte is. -/
theorem getLast?_run_ascii (hstate : Long state) {c : Char} {bytes : Bytes}
    (hlast : (run state bytes).getLast? = some (some c)) (hpos : 0 < c.toNat)
    (hascii : c.toNat < 0x80) : ∃ b, bytes.getLast? = some b ∧ b.toNat = c.toNat := by
  induction bytes generalizing state with
  | nil => cases state <;> simp [run] at hlast
  | cons first bytes ih =>
      rw [run_cons, List.getLast?_append] at hlast
      cases hlater : (run (step state first).2 bytes).getLast? with
      | none =>
          -- nothing is read behind the first byte, so it is the last one
          obtain ⟨-, rfl⟩ :=
            (run_eq_nil_iff (long_step hstate)).1 (List.getLast?_eq_none_iff.1 hlater)
          rw [hlater, Option.none_or] at hlast
          have hmem := List.mem_of_getLast? hlast
          exact ⟨first, rfl, mem_step_ascii hstate hmem hpos hascii⟩
      | some found =>
          rw [hlater, Option.some_or] at hlast
          obtain ⟨b, hb, hvalue⟩ := ih (long_step hstate) (hlater.trans hlast)
          obtain ⟨front, rfl⟩ := List.getLast?_eq_some_iff.1 hb
          exact ⟨b, by rw [← List.cons_append, List.getLast?_concat], hvalue⟩

end Decoder

theorem toList_decodeLossy (bytes : Bytes) :
    (decodeLossy bytes).toList = (Decoder.run none bytes).map (·.getD '\uFFFD') :=
  String.toList_ofList

section Ascii

variable {b : UInt8} {c : Char} {bytes : Bytes}

theorem toList_decodeLossy_append (bytes rest : Bytes) (h : b.toNat < 0x80) :
    (decodeLossy (bytes ++ b :: rest)).toList =
      (decodeLossy bytes).toList ++ Char.ofNat b.toNat :: (decodeLossy rest).toList := by
  simp only [toList_decodeLossy, Decoder.run_append_ascii Decoder.long_none bytes rest h,
    List.map_append, List.map_cons, Option.getD_some]

theorem toList_decodeLossy_eq_nil_iff : (decodeLossy bytes).toList = [] ↔ bytes = [] := by
  rw [toList_decodeLossy, List.map_eq_nil_iff, Decoder.run_eq_nil_iff Decoder.long_none,
    and_iff_right rfl]

/-- What is read as a character below 0x80 is that character. -/
theorem eq_some_of_getD {read : Option Char} (h : read.getD '\uFFFD' = c)
    (hascii : c.toNat < 0x80) : read = some c := by
  cases read with
  | some found => exact congrArg some h
  | none =>
      obtain rfl : '\uFFFD' = c := h
      exact absurd hascii (by decide)

theorem mem_of_mem_decodeLossy (hmem : c ∈ (decodeLossy bytes).toList) (hpos : 0 < c.toNat)
    (hascii : c.toNat < 0x80) : ∃ b ∈ bytes, b.toNat = c.toNat := by
  rw [toList_decodeLossy, List.mem_map] at hmem
  obtain ⟨read, hread, hc⟩ := hmem
  obtain rfl := eq_some_of_getD hc hascii
  exact Decoder.mem_run_ascii Decoder.long_none hread hpos hascii

theorem getLast?_of_decodeLossy (hlast : (decodeLossy bytes).toList.getLast? = some c)
    (hpos : 0 < c.toNat) (hascii : c.toNat < 0x80) :
    ∃ b, bytes.getLast? = some b ∧ b.toNat = c.toNat := by
  rw [toList_decodeLossy, List.getLast?_map, Option.map_eq_some_iff] at hlast
  obtain ⟨read, hread, hc⟩ := hlast
  obtain rfl := eq_some_of_getD hc hascii
  exact Decoder.getLast?_run_ascii Decoder.long_none hread hpos hascii

end Ascii

/-- The lines of decoded bytes are the decoded lines of the bytes. -/
theorem SplitsInto.decode {bytes : Bytes} {lines : List Bytes}
    (h : SplitsInto (10 : UInt8) 13 bytes lines) :
    SplitsInto '\n' '\r' (decodeLossy bytes).toList
      (lines.map fun line => (decodeLossy line).toList) := by
  have hclosed {line : Bytes} (hopen : 10 ∉ line) : '\n' ∉ (decodeLossy line).toList := by
    intro hmem
    obtain ⟨b, hb, hvalue⟩ := mem_of_mem_decodeLossy hmem (by decide) (by decide)
    obtain rfl : b = 10 := UInt8.toNat_inj.1 hvalue
    exact hopen hb
  induction h with
  | nil => exact .nil
  | last hline hopen => exact .last (mt toList_decodeLossy_eq_nil_iff.1 hline) (hclosed hopen)
  | feed hopen hreturn hrest ih =>
      rw [toList_decodeLossy_append _ _ (by decide)]
      refine .feed (hclosed hopen) (fun hlast => ?_) ih
      obtain ⟨b, hb, hvalue⟩ := getLast?_of_decodeLossy hlast (by decide) (by decide)
      obtain rfl : b = 13 := UInt8.toNat_inj.1 hvalue
      exact hreturn hb
  | @returnFeed line rest lines hopen hrest ih =>
      have hfeed := toList_decodeLossy_append (b := 10) [] rest (by decide)
      rw [toList_decodeLossy_append _ _ (by decide)]
      rw [List.nil_append] at hfeed
      rw [hfeed]
      exact .returnFeed (hclosed hopen) ih

end Text

end JobShell
