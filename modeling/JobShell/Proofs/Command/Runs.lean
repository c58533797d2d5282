import JobShell.Proofs.Command.Expansion
import Mathlib.Algebra.Ring.Parity
import Mathlib.Data.List.Chain

/-!
# Expansion run by run

A word is cut into pieces: the maximal runs of `$` and the characters between them
(`Expansion.CutsInto`). There is one such cut of each word (`Expansion.cutsInto_iff`). The
expansion reads a word in pairs from left to right, and what comes of it is what comes of the
pieces one by one (`Expansion.CutsInto.expandChars_eq`): as no run goes on behind its piece, the
pairs of a run start anew with it.

How the length changes, which words are put together anew, and where a word can be cut in two
without a change are all read off the pieces (`Expansion.expandWord_run_by_run`).
-/

namespace JobShell

namespace Expansion

/-- A piece of a word: so many `$` in a row, or one character. -/
inductive Piece where
  | run (n : Nat)
  | other (c : Char)
deriving DecidableEq, Repr

namespace Piece

def chars : Piece → List Char
  | run n => List.replicate n '$'
  | other c => [c]

/-- The pairs of `$` in a piece. -/
def pairs : Piece → Nat
  | run n => n / 2
  | other _ => 0

/-- What comes of a piece: of a run, the pid for each pair, and the last `$` if it has no
partner. -/
def expand (pid : List Char) : Piece → List Char
  | run n => (List.replicate (n / 2) pid).flatten ++ if n % 2 = 1 then ['$'] else []
  | other c => [c]

/-- A run that is not empty, or a character that is no `$`. -/
def Proper : Piece → Prop
  | run n => 0 < n
  | other c => c ≠ '$'

def isRun : Piece → Bool
  | run _ => true
  | other _ => false

/-- One of two pieces is no run, so they are not parts of one. -/
def Apart (p q : Piece) : Prop :=
  p.isRun = false ∨ q.isRun = false

/-- What a piece gives and takes in length. -/
theorem length_expand (pid : List Char) (p : Piece) :
    (p.expand pid).length + 2 * p.pairs = p.chars.length + p.pairs * pid.length := by
  cases p with
  | other c => simp [expand, pairs, chars]
  | run n =>
      have hlast : (if n % 2 = 1 then ['$'] else []).length = n % 2 := by
        split
        · next hodd => exact hodd.symm
        · next heven => exact (Nat.mod_two_ne_one.1 heven).symm
      rw [expand, pairs, chars, List.length_append, List.length_flatten, List.map_replicate,
        List.sum_replicate_nat, hlast, List.length_replicate]
      omega

end Piece

/-- The pieces of a text, the maximal runs of `$` in one piece each. -/
def cut : List Char → List Piece
  | [] => []
  | c :: cs =>
    if c = '$' then
      match cut cs with
      | .run n :: pieces => .run (n + 1) :: pieces
      | pieces => .run 1 :: pieces
    else .other c :: cut cs

/-- The pieces, one after the other, are the text; and each run among them is maximal. -/
structure CutsInto (cs : List Char) (pieces : List Piece) : Prop where
  spells : pieces.flatMap Piece.chars = cs
  proper : ∀ p ∈ pieces, p.Proper
  apart : pieces.IsChain Piece.Apart

namespace CutsInto

variable {cs cs' : List Char} {p : Piece} {pieces later : List Piece} {pid : List Char}

theorem nil : CutsInto [] [] :=
  ⟨rfl, by simp, .nil⟩

theorem tail (h : CutsInto cs (p :: pieces)) :
    CutsInto (pieces.flatMap Piece.chars) pieces where
  spells := rfl
  proper q hq := h.proper q (List.mem_cons_of_mem p hq)
  apart := h.apart.tail

theorem eq_chars_append (h : CutsInto cs (p :: pieces)) :
    cs = p.chars ++ pieces.flatMap Piece.chars := by
  rw [← h.spells, List.flatMap_cons]

/-- A text that starts with `$` starts with a run. -/
theorem head?_eq (h : CutsInto cs pieces) :
    cs.head? = some '$' ↔ ∃ n, pieces.head? = some (.run n) := by
  cases pieces with
  | nil =>
      obtain rfl : [] = cs := h.spells
      simp
  | cons p pieces =>
      have hproper := h.proper p List.mem_cons_self
      rw [h.eq_chars_append]
      cases p with
      | other c => simpa [Piece.chars, Piece.Proper] using hproper
      | run n =>
          obtain ⟨m, rfl⟩ := Nat.exists_eq_add_one.2 hproper
          simp [Piece.chars, List.replicate_succ]

/-- What stands behind a run does not go on with it. -/
theorem head?_ne_of_run {n : Nat} (h : CutsInto cs (.run n :: pieces)) :
    (pieces.flatMap Piece.chars).head? ≠ some '$' := by
  intro hnext
  obtain ⟨m, hm⟩ := h.tail.head?_eq.1 hnext
  have hapart : (Piece.run n).Apart (.run m) := (List.isChain_cons.1 h.apart).1 _ hm
  simp [Piece.Apart, Piece.isRun] at hapart

/-- Two texts are cut as they stand, if no run goes over the seam. -/
theorem append (h : CutsInto cs pieces) (h' : CutsInto cs' later)
    (hseam : ∀ p ∈ pieces.getLast?, ∀ q ∈ later.head?, p.Apart q) :
    CutsInto (cs ++ cs') (pieces ++ later) where
  spells := by rw [List.flatMap_append, h.spells, h'.spells]
  proper q hq := (List.mem_append.1 hq).elim (h.proper q) (h'.proper q)
  apart := List.isChain_append.2 ⟨h.apart, h'.apart, hseam⟩

/-- Otherwise the two runs at the seam become one. -/
theorem join {n m : Nat} (h : CutsInto cs (pieces ++ [.run n]))
    (h' : CutsInto cs' (.run m :: later)) :
    CutsInto (cs ++ cs') (pieces ++ .run (n + m) :: later) where
  spells := by
    rw [← h.spells, ← h'.spells]
    simp [Piece.chars, ← List.replicate_append_replicate]
  proper q hq := by
    obtain hbefore | rfl | hafter : q ∈ pieces ∨ q = .run (n + m) ∨ q ∈ later := by
      simpa using hq
    · exact h.proper q (List.mem_append_left _ hbefore)
    · exact Nat.add_pos_right n (h'.proper (.run m) List.mem_cons_self)
    · exact h'.proper q (List.mem_cons_of_mem _ hafter)
  apart := by
    obtain ⟨hpieces, -, hlast⟩ := List.isChain_append.1 h.apart
    obtain ⟨hnext, hlater⟩ := List.isChain_cons.1 h'.apart
    -- a run keeps apart from its neighbours whatever its length
    refine List.isChain_append.2 ⟨hpieces, List.isChain_cons.2 ⟨hnext, hlater⟩, ?_⟩
    intro p hp q hq
    obtain rfl : .run (n + m) = q := by simpa using hq
    exact hlast p hp (.run n) rfl

theorem run {n : Nat} (h : 0 < n) : CutsInto (List.replicate n '$') [.run n] :=
  ⟨List.append_nil _, by simpa [Piece.Proper] using h, .singleton _⟩

theorem other {c : Char} (h : c ≠ '$') : CutsInto [c] [.other c] :=
  ⟨rfl, by simpa [Piece.Proper] using h, .singleton _⟩

end CutsInto

section Cut

theorem cut_cons_other {c : Char} (h : c ≠ '$') (cs : List Char) :
    cut (c :: cs) = .other c :: cut cs := by
  rw [cut, if_neg h]

theorem cut_cons_dollar (cs : List Char) :
    (∃ n pieces, cut cs = .run n :: pieces ∧ cut ('$' :: cs) = .run (n + 1) :: pieces) ∨
      ((∀ n, (cut cs).head? ≠ some (.run n)) ∧ cut ('$' :: cs) = .run 1 :: cut cs) := by
  rw [cut, if_pos rfl]
  split
  · next n pieces heq => exact Or.inl ⟨n, pieces, heq, rfl⟩
  · next pieces hnone =>
      refine Or.inr ⟨fun n hn => ?_, rfl⟩
      obtain ⟨pieces, heq⟩ := List.head?_eq_some_iff.1 hn
      exact hnone n pieces heq

theorem cutsInto_cut (cs : List Char) : CutsInto cs (cut cs) := by
  induction cs with
  | nil => exact .nil
  | cons c cs ih =>
      by_cases hc : c = '$'
      · subst hc
        have hrun : CutsInto ['$'] ([] ++ [.run 1]) := .run Nat.one_pos
        obtain ⟨n, pieces, heq, hcut⟩ | ⟨hnone, hcut⟩ := cut_cons_dollar cs
        · rw [heq] at ih
          rw [hcut, Nat.add_comm]
          exact hrun.join ih
        · rw [hcut]
          refine hrun.append ih ?_
          intro p _ q hq
          cases q with
          | run n => exact absurd hq (hnone n)
          | other d => exact Or.inr rfl
      · rw [cut_cons_other hc]
        refine (CutsInto.other hc).append ih ?_
        intro p hp q _
        obtain rfl : .other c = p := by simpa using hp
        exact Or.inl rfl

/-- A run is one piece, if what follows starts with none. -/
theorem cut_replicate_append {cs : List Char} (h : ∀ n, (cut cs).head? ≠ some (.run n)) (n : Nat) :
    cut (List.replicate (n + 1) '$' ++ cs) = .run (n + 1) :: cut cs := by
  induction n with
  | zero =>
      obtain ⟨m, pieces, heq, -⟩ | ⟨-, hcut⟩ := cut_cons_dollar cs
      · exact absurd (heq ▸ rfl) (h m)
      · exact hcut
  | succ n ih =>
      obtain ⟨m, pieces, heq, hcut⟩ | ⟨hnone, -⟩ :=
        cut_cons_dollar (List.replicate (n + 1) '$' ++ cs)
      · rw [ih, List.cons.injEq, Piece.run.injEq] at heq
        obtain ⟨rfl, rfl⟩ := heq
        exact hcut
      · exact absurd (ih ▸ rfl) (hnone (n + 1))

/-- Each text is cut in one way. -/
theorem cutsInto_iff {cs : List Char} {pieces : List Piece} :
    CutsInto cs pieces ↔ pieces = cut cs := by
  constructor
  · intro h
    induction pieces generalizing cs with
    | nil =>
        obtain rfl : [] = cs := h.spells
        rfl
    | cons p pieces ih =>
        have hproper := h.proper p List.mem_cons_self
        have htail := ih h.tail
        rw [h.eq_chars_append]
        cases p with
        | other c => rw [Piece.chars, List.singleton_append, cut_cons_other hproper, ← htail]
        | run n =>
            obtain ⟨m, rfl⟩ := Nat.exists_eq_add_one.2 hproper
            rw [Piece.chars, cut_replicate_append, ← htail]
            intro k hk
            exact h.head?_ne_of_run (h.tail.head?_eq.2 ⟨k, htail ▸ hk⟩)
  · rintro rfl
    exact cutsInto_cut cs

end Cut

section Runs

variable {pid cs rest : List Char} {pieces : List Piece}

/-- The pairs of a run are read from its start, and a last `$` without a partner stays. -/
theorem expandChars_replicate_append (h : rest.head? ≠ some '$') (n : Nat) :
    expandChars pid (List.replicate n '$' ++ rest) =
      (Piece.run n).expand pid ++ expandChars pid rest := by
  induction n using Nat.twoStepInduction with
  | zero => rfl
  | one =>
      rw [List.replicate_one, List.singleton_append, expandChars_cons fun _ => h]
      rfl
  | more n ih _ =>
      have hpid : (Piece.run (n + 2)).expand pid = pid ++ (Piece.run n).expand pid := by
        rw [Piece.expand, Piece.expand, Nat.add_div_right n Nat.two_pos, Nat.add_mod_right,
          List.replicate_succ, List.flatten_cons, List.append_assoc]
      rw [List.replicate_succ, List.replicate_succ, List.cons_append, List.cons_append,
        expandChars, ih, hpid, List.append_assoc]

/-- A text is expanded piece by piece. -/
theorem CutsInto.expandChars_eq (h : CutsInto cs pieces) :
    expandChars pid cs = pieces.flatMap (Piece.expand pid) := by
  induction pieces generalizing cs with
  | nil =>
      obtain rfl : [] = cs := h.spells
      rfl
  | cons p pieces ih =>
      rw [h.eq_chars_append, List.flatMap_cons, ← ih h.tail]
      cases p with
      | run n => exact expandChars_replicate_append h.head?_ne_of_run n
      | other c =>
          have hc : c ≠ '$' := h.proper _ List.mem_cons_self
          exact expandChars_cons fun hdollar => absurd hdollar hc

theorem expandChars_eq_flatMap (pid cs : List Char) :
    expandChars pid cs = (cut cs).flatMap (Piece.expand pid) :=
  (cutsInto_cut cs).expandChars_eq

theorem length_flatMap_expand (pid : List Char) (pieces : List Piece) :
    (pieces.flatMap (Piece.expand pid)).length + 2 * (pieces.map Piece.pairs).sum =
      (pieces.flatMap Piece.chars).length + (pieces.map Piece.pairs).sum * pid.length := by
  induction pieces with
  | nil => simp
  | cons p pieces ih =>
      have hpiece := p.length_expand pid
      rw [List.flatMap_cons, List.flatMap_cons, List.length_append, List.length_append,
        List.map_cons, List.sum_cons, Nat.add_mul, Nat.mul_add]
      omega

/-- Each pair makes room for the pid. -/
theorem length_expandChars (pid cs : List Char) :
    (expandChars pid cs).length + 2 * ((cut cs).map Piece.pairs).sum =
      cs.length + ((cut cs).map Piece.pairs).sum * pid.length := by
  have hpieces := length_flatMap_expand pid (cut cs)
  rwa [(cutsInto_cut cs).spells, ← expandChars_eq_flatMap] at hpieces

theorem holdsPair_replicate_append (h : rest.head? ≠ some '$') (n : Nat) :
    holdsPair (List.replicate n '$' ++ rest) = (decide (2 ≤ n) || holdsPair rest) := by
  match n with
  | 0 => rfl
  | 1 => exact holdsPair_cons fun _ => h
  | n + 2 => rw [decide_eq_true (Nat.le_add_left 2 n)]; rfl

/-- A pair lies in a run of at least two. -/
theorem CutsInto.holdsPair_iff (h : CutsInto cs pieces) :
    holdsPair cs = true ↔ ∃ n, .run n ∈ pieces ∧ 2 ≤ n := by
  induction pieces generalizing cs with
  | nil =>
      obtain rfl : [] = cs := h.spells
      simp [holdsPair]
  | cons p pieces ih =>
      rw [h.eq_chars_append]
      cases p with
      | run n =>
          rw [Piece.chars, holdsPair_replicate_append h.head?_ne_of_run, Bool.or_eq_true,
            decide_eq_true_iff, ih h.tail]
          simp [or_and_right, exists_or]
      | other c =>
          have hc : c ≠ '$' := h.proper _ List.mem_cons_self
          rw [Piece.chars, List.singleton_append, holdsPair_cons fun hdollar => absurd hdollar hc,
            ih h.tail]
          simp

end Runs

section Seam

/-- The last piece of a text is a run whose last `$` has no partner. -/
def EndsInOddRun (cs : List Char) : Prop :=
  ∃ n, (cut cs).getLast? = some (.run n) ∧ n % 2 = 1

variable {pid cs cs' : List Char}

/-- A run whose pairs are complete can be cut off. -/
theorem Piece.expand_run_add {n : Nat} (h : n % 2 = 0) (m : Nat) (pid : List Char) :
    (Piece.run (n + m)).expand pid = (Piece.run n).expand pid ++ (Piece.run m).expand pid := by
  have hdiv : (n + m) / 2 = n / 2 + m / 2 := by omega
  have hmod : (n + m) % 2 = m % 2 := by omega
  simp only [Piece.expand, hdiv, hmod, h, List.replicate_add, List.flatten_append,
    List.append_assoc]
  rfl

/-- Texts that meet in two runs are cut as they stand, but for one run in the place of both. -/
theorem cut_append_of_runs {n m : Nat} {pieces later : List Piece}
    (h : cut cs = pieces ++ [.run n]) (h' : cut cs' = .run m :: later) :
    cut (cs ++ cs') = pieces ++ .run (n + m) :: later :=
  (cutsInto_iff.1 ((cutsInto_iff.2 h.symm).join (cutsInto_iff.2 h'.symm))).symm

/-- Other texts are cut as they stand. -/
theorem cut_append (h : ∀ n m, (cut cs).getLast? = some (.run n) →
    (cut cs').head? ≠ some (.run m)) : cut (cs ++ cs') = cut cs ++ cut cs' := by
  refine (cutsInto_iff.1 ((cutsInto_cut cs).append (cutsInto_cut cs') ?_)).symm
  intro p hp q hq
  cases p with
  | other c => exact Or.inl rfl
  | run n =>
      cases q with
      | other c => exact Or.inr rfl
      | run m => exact absurd hq (h n m hp)

/-- A text can be cut in two anywhere but between the two `$` of a pair. -/
theorem expandChars_append (h : EndsInOddRun cs → cs'.head? ≠ some '$') :
    expandChars pid (cs ++ cs') = expandChars pid cs ++ expandChars pid cs' := by
  rw [expandChars_eq_flatMap, expandChars_eq_flatMap, expandChars_eq_flatMap]
  by_cases hmeet : ∃ n m, (cut cs).getLast? = some (.run n) ∧ (cut cs').head? = some (.run m)
  · obtain ⟨n, m, hlast, hfirst⟩ := hmeet
    obtain ⟨pieces, hcut⟩ := List.getLast?_eq_some_iff.1 hlast
    obtain ⟨later, hcut'⟩ := List.head?_eq_some_iff.1 hfirst
    have heven : n % 2 = 0 := by
      by_contra hodd
      have hstart := (cutsInto_cut cs').head?_eq.2 ⟨m, hfirst⟩
      exact h ⟨n, hlast, Nat.mod_two_ne_zero.1 hodd⟩ hstart
    rw [cut_append_of_runs hcut hcut', hcut, hcut']
    simp only [List.flatMap_append, List.flatMap_cons, List.flatMap_nil, List.append_nil,
      Piece.expand_run_add heven, List.append_assoc]
  · rw [cut_append, List.flatMap_append]
    intro n m hlast hfirst
    exact hmeet ⟨n, m, hlast, hfirst⟩

/-- A `$` at the end has a partner, or is left for what follows to be one. -/
theorem endsInOddRun_concat (cs : List Char) :
    EndsInOddRun (cs ++ ['$']) ↔ ¬ EndsInOddRun cs := by
  have hdollar : cut ['$'] = [.run 1] := rfl
  by_cases hrun : ∃ n, (cut cs).getLast? = some (.run n)
  · obtain ⟨n, hlast⟩ := hrun
    obtain ⟨pieces, hcut⟩ := List.getLast?_eq_some_iff.1 hlast
    simp only [EndsInOddRun, cut_append_of_runs hcut hdollar, hlast, List.getLast?_append,
      List.getLast?_singleton, Option.some_or, Option.some.injEq, Piece.run.injEq,
      exists_eq_left']
    omega
  · have hcut : cut (cs ++ ['$']) = cut cs ++ [.run 1] :=
      cut_append fun n _ hlast _ => hrun ⟨n, hlast⟩
    have hodd : EndsInOddRun (cs ++ ['$']) := ⟨1, by rw [hcut, List.getLast?_concat], rfl⟩
    exact iff_of_true hodd fun ⟨n, hlast, _⟩ => hrun ⟨n, hlast⟩

/-- Between the two `$` of a pair there comes one pid of both texts. -/
theorem expandChars_append_of_endsInOddRun (h : EndsInOddRun (cs ++ ['$'])) :
    expandChars pid (cs ++ ['$'] ++ '$' :: cs') =
      expandChars pid cs ++ pid ++ expandChars pid cs' := by
  have hcut := (endsInOddRun_concat cs).1 h
  rw [List.append_assoc, expandChars_append fun hodd => absurd hodd hcut, List.append_assoc]
  rfl

end Seam

/-- **A word is expanded run by run.** A word is cut in one way into maximal runs of `$` and
other characters. Of a run of `n`, `n / 2` copies of the pid come out and one `$` more if `n` is
odd; all other characters stay where they are. So the length changes by that of the pid less 2
for each pair, and a word is put together anew if and only if a run of at least 2 is in it. Two
words, one after the other, come to what they come to apart, unless the first ends in an odd run
and the second starts with `$`: then one pid comes of the two `$` that meet. All this holds of
every pid, that of no character and those with a `$` in them among them. -/
theorem expandWord_run_by_run (pid word : String) :
    (∃! pieces, CutsInto word.toList pieces) ∧
    (∀ pieces, CutsInto word.toList pieces →
      (expandWord pid word).toList = pieces.flatMap (Piece.expand pid.toList) ∧
      ((expandWord pid word).length : Int) =
        word.length + (pieces.map Piece.pairs).sum * (pid.length - 2) ∧
      ((expandWord? pid word).isSome ↔ ∃ n, .run n ∈ pieces ∧ 2 ≤ n)) ∧
    (∀ later : String, (EndsInOddRun word.toList → later.toList.head? ≠ some '$') →
      expandWord pid (word ++ later) = expandWord pid word ++ expandWord pid later) ∧
    ∀ later : String, EndsInOddRun (word ++ "$").toList →
      expandWord pid (word ++ "$" ++ ("$" ++ later)) =
        expandWord pid word ++ pid ++ expandWord pid later := by
  refine ⟨⟨cut word.toList, cutsInto_cut _, fun _ => cutsInto_iff.1⟩, fun pieces hcut => ?_,
    fun later hseam => ?_, fun later hodd => ?_⟩
  · have hlength := length_expandChars pid.toList word.toList
    rw [← cutsInto_iff.1 hcut, ← toList_expandWord, String.length_toList, String.length_toList,
      String.length_toList] at hlength
    refine ⟨by rw [toList_expandWord, hcut.expandChars_eq], ?_, ?_⟩
    · rw [Int.mul_sub]
      omega
    · rw [← hcut.holdsPair_iff, expandWord?]
      split <;> simp_all
  · simp only [← String.toList_inj, toList_expandWord, String.toList_append]
    exact expandChars_append hseam
  · simp only [← String.toList_inj, toList_expandWord, String.toList_append]
    exact expandChars_append_of_endsInOddRun (by simpa using hodd)

/-- A pid with a `$` in it, which is put in and not read again; a run that is cut off from what
follows, and one that goes on. -/
theorem expandWord_run_by_run_dollar_pid :
    CutsInto "a$$$".toList [.other 'a', .run 3] ∧
      (expandWord "7$" "a$$$").toList = ['a', '7', '$', '$'] ∧
      expandWord "7$" ("a$$$" ++ "b$$$$") = "a7$$" ++ "b7$7$" ∧
      EndsInOddRun ("a$$" ++ "$").toList ∧
      expandWord "7$" ("a$$" ++ "$" ++ ("$" ++ "$c")) = "a7$" ++ "7$" ++ "$c" := by
  have hcut : CutsInto "a$$$".toList [.other 'a', .run 3] := cutsInto_iff.2 (by decide)
  have hodd : EndsInOddRun ("a$$" ++ "$").toList := ⟨3, by decide, rfl⟩
  obtain ⟨-, hpieces, happend, -⟩ := expandWord_run_by_run "7$" "a$$$"
  obtain ⟨-, -, -, hmeet⟩ := expandWord_run_by_run "7$" "a$$"
  exact ⟨hcut, (hpieces _ hcut).1, happend "b$$$$" fun _ => by decide, hodd, hmeet "$c" hodd⟩

end Expansion

end JobShell
