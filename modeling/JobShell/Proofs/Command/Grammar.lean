import JobShell.Command.Parser
import Mathlib.Data.List.Induction
import Mathlib.Data.List.TakeWhile

/-!
# The grammar of lines

A `Reading` of the words after the program cuts them into arguments, at most three clauses and
what is left over; `Reading.Reads` says which cuts the grammar allows. The parser follows this
grammar (`parse_follows_grammar`): a line has at most one reading, and the parsed command is
the one that the reading asks for. A line without a reading ends in a redirection operator
whose target is missing (`LacksTarget`), and only such lines and lines without words are
refused.

A reading is found slot by slot, so the lemmas about clauses speak of the clauses from a slot on
(`Clause.ReadFrom`).
-/

namespace JobShell

/-- The words that end the arguments. -/
def operators : List String := ["<", ">", "&"]

theorem isOperator_iff {word : String} : isOperator word = true ↔ word ∈ operators := by
  simp only [isOperator, backgroundToken, operators, Bool.or_eq_true, beq_iff_eq,
    Option.isSome_iff_exists, Redirection.ofToken?_eq_some_iff, List.mem_cons, List.not_mem_nil,
    or_false]
  constructor
  · rintro (rfl | ⟨side, rfl⟩)
    · simp
    · cases side <;> simp [Redirection.token]
  · rintro (rfl | rfl | rfl)
    · exact Or.inr ⟨.input, rfl⟩
    · exact Or.inr ⟨.output, rfl⟩
    · exact Or.inl rfl

theorem isOperator_eq_false_iff {word : String} :
    isOperator word = false ↔ word ∉ operators := by
  rw [← isOperator_iff, Bool.not_eq_true]

/-- What stands in one clause slot. -/
inductive Clause where
  | redirect (side : Redirection) (path : String)
  | background
  | ignored (word : String)
deriving DecidableEq, Repr

namespace Clause

/-- The words that a clause is written in. -/
def words : Clause → List String
  | redirect side path => [side.token, path]
  | background => ["&"]
  | ignored word => [word]

/-- The clauses that slot 0, 1 or 2 can hold. The first two slots take a redirection with any
word as its target, the background marker, or a word that is no operator. In slot 2 every word
but the background marker is ignored. -/
def Fits (slot : Nat) : Clause → Prop
  | redirect _ _ => slot < 2
  | background => slot ≤ 2
  | ignored word => (slot < 2 ∧ word ∉ operators) ∨ (slot = 2 ∧ word ≠ "&")

/-- The clause that a slot holds when it is met with these words, and the words after it. -/
def next? (slot : Nat) : List String → Option (Clause × List String)
  | [] => none
  | word :: rest =>
    if word = "&" then some (background, rest)
    else
      match Redirection.ofToken? word, rest with
      | none, rest => some (ignored word, rest)
      | some side, rest =>
        if 2 ≤ slot then some (ignored word, rest)
        else rest.head?.map fun path => (redirect side path, rest.tail)

/-- What the clause adds to a command. -/
def part? : Clause → Option Command.Part
  | redirect side path => some (.redirect side path)
  | background => some .background
  | ignored _ => none

/-- The target of a clause that redirects this side. -/
def target? (side : Redirection) : Clause → Option String
  | redirect other path => if other = side then some path else none
  | _ => none

/-- The clauses stand in the slots from this one on, and nothing is left over before the last
slot is used. -/
structure ReadFrom (slot : Nat) (clauses : List Clause) (leftover : List String) : Prop where
  fits : ∀ (i : Nat) (clause : Clause), clauses[i]? = some clause → clause.Fits (slot + i)
  slots : slot + clauses.length ≤ 3
  leftover : leftover ≠ [] → slot + clauses.length = 3

end Clause

/-- A cut of the words after the program. -/
structure Reading where
  arguments : List String
  clauses : List Clause
  leftover : List String
deriving DecidableEq, Repr

namespace Reading

/-- The words from the first clause on. -/
def tail (r : Reading) : List String :=
  r.clauses.flatMap Clause.words ++ r.leftover

/-- The grammar: no argument is an operator, and the clauses start at the first operator and
stand in their slots. -/
structure Reads (r : Reading) (ts : List String) : Prop where
  words : ts = r.arguments ++ r.tail
  arguments : ∀ word ∈ r.arguments, word ∉ operators
  starts : ∀ word, r.tail.head? = some word → word ∈ operators
  clauses : Clause.ReadFrom 0 r.clauses r.leftover

/-- The target of the last clause that redirects this side. -/
def lastTarget? (r : Reading) (side : Redirection) : Option String :=
  (r.clauses.filterMap (Clause.target? side)).getLast?

/-- The command that a program and a reading ask for. -/
def command (program : String) (r : Reading) : Command where
  program := program
  arguments := r.arguments
  input := r.lastTarget? .input
  output := r.lastTarget? .output
  background := decide (.background ∈ r.clauses)

end Reading

/-- The last word is a redirection operator that stands where slot 0 or 1 starts. -/
def LacksTarget (ts : List String) (side : Redirection) : Prop :=
  ∃ arguments clauses,
    ts = arguments ++ (clauses.flatMap Clause.words ++ [side.token]) ∧
      (∀ word ∈ arguments, word ∉ operators) ∧
      (∀ word, (clauses.flatMap Clause.words ++ [side.token]).head? = some word →
        word ∈ operators) ∧
      clauses.length < 2 ∧ Clause.ReadFrom 0 clauses []

namespace Clause

variable {slot : Nat} {clause clause' : Clause} {clauses clauses' : List Clause}
  {leftover leftover' rest rest' : List String}

theorem readFrom_nil (hslot : slot ≤ 3) : ReadFrom slot [] leftover ↔
    (leftover ≠ [] → slot = 3) := by
  constructor
  · intro h
    exact h.leftover
  · intro h
    exact ⟨fun i clause hclause => by simp at hclause, hslot, h⟩

theorem readFrom_cons : ReadFrom slot (clause :: clauses) leftover ↔
    clause.Fits slot ∧ ReadFrom (slot + 1) clauses leftover := by
  have hlength : slot + (clause :: clauses).length = slot + 1 + clauses.length := by
    rw [List.length_cons]
    omega
  constructor
  · rintro ⟨hfits, hslots, hleft⟩
    rw [hlength] at hslots hleft
    refine ⟨hfits 0 clause rfl, fun i other hother => ?_, hslots, hleft⟩
    rw [Nat.add_right_comm]
    exact hfits (i + 1) other hother
  · rintro ⟨hfirst, hfits, hslots, hleft⟩
    rw [← hlength] at hslots hleft
    refine ⟨fun i other hother => ?_, hslots, hleft⟩
    cases i with
    | zero =>
        obtain rfl : clause = other := by simpa using hother
        exact hfirst
    | succ i =>
        rw [← Nat.add_assoc, Nat.add_right_comm]
        exact hfits i other (by simpa using hother)

theorem token_mem_operators (side : Redirection) : side.token ∈ operators := by
  cases side <;> decide

theorem token_ne_background (side : Redirection) : side.token ≠ "&" := by
  cases side <;> decide

theorem Fits.le (h : clause.Fits slot) : slot ≤ 2 := by
  cases clause with
  | redirect => exact Nat.le_of_lt h
  | background => exact h
  | ignored =>
      cases h with
      | inl hfirst => exact Nat.le_of_lt hfirst.1
      | inr hlast => exact Nat.le_of_eq hlast.1

theorem ofToken?_eq_none {word : String} (h : word ∉ operators) :
    Redirection.ofToken? word = none := by
  rw [← isOperator_eq_false_iff, isOperator, Bool.or_eq_false_iff] at h
  simpa using h.2

theorem next?_words_append (h : clause.Fits slot) :
    next? slot (clause.words ++ rest) = some (clause, rest) := by
  cases clause with
  | redirect side path =>
      have hslot : ¬ 2 ≤ slot := Nat.not_le_of_lt h
      simp [next?, words, token_ne_background, hslot]
  | background => simp [next?, words]
  | ignored word =>
      cases h with
      | inl hfirst =>
          have hword : word ≠ "&" := by
            rintro rfl
            exact hfirst.2 (by decide)
          simp [next?, words, hword, ofToken?_eq_none hfirst.2]
      | inr hlast =>
          obtain ⟨rfl, hword⟩ := hlast
          cases htoken : Redirection.ofToken? word <;> simp [next?, words, hword, htoken]

/-- In its slot a clause is known by its words. -/
theorem eq_of_words_append (h : clause.Fits slot) (h' : clause'.Fits slot)
    (heq : clause.words ++ rest = clause'.words ++ rest') : clause = clause' ∧ rest = rest' := by
  have hnext : next? slot (clause.words ++ rest) = some (clause, rest) := next?_words_append h
  rw [heq, next?_words_append h', Option.some.injEq, Prod.mk.injEq] at hnext
  exact ⟨hnext.1.symm, hnext.2.symm⟩

theorem words_ne_nil (clause : Clause) : clause.words ≠ [] := by
  cases clause <;> simp [words]

/-- From a slot on the clauses and what is left over are known by their words. -/
theorem ReadFrom.unique (h : ReadFrom slot clauses leftover)
    (h' : ReadFrom slot clauses' leftover')
    (heq : clauses.flatMap words ++ leftover = clauses'.flatMap words ++ leftover') :
    clauses = clauses' ∧ leftover = leftover' := by
  -- where one list has ended and the other has not, words are left over after slot 2
  have hended {slot : Nat} {clause : Clause} {clauses : List Clause}
      {leftover leftover' : List String} (h : ReadFrom slot [] leftover)
      (h' : ReadFrom slot (clause :: clauses) leftover')
      (heq : leftover = (clause :: clauses).flatMap words ++ leftover') : False := by
    have hne : leftover ≠ [] := by
      rw [heq, List.flatMap_cons]
      simp [clause.words_ne_nil]
    have hslot : slot = 3 := h.leftover hne
    have hle := (readFrom_cons.1 h').1.le
    omega
  induction clauses generalizing slot clauses' with
  | nil =>
      cases clauses' with
      | nil => exact ⟨rfl, heq⟩
      | cons clause' clauses' => exact (hended h h' heq).elim
  | cons clause clauses ih =>
      cases clauses' with
      | nil => exact (hended h' h heq.symm).elim
      | cons clause' clauses' =>
          obtain ⟨hfits, hrest⟩ := readFrom_cons.1 h
          obtain ⟨hfits', hrest'⟩ := readFrom_cons.1 h'
          simp only [List.flatMap_cons, List.append_assoc] at heq
          obtain ⟨rfl, hwords⟩ := eq_of_words_append hfits hfits' heq
          obtain ⟨rfl, rfl⟩ := ih hrest hrest' hwords
          exact ⟨rfl, rfl⟩

end Clause

namespace Reading

section Split

variable {arguments tail : List String}

/-- The arguments end where the first operator stands. -/
theorem takeWhile_append (harguments : ∀ word ∈ arguments, word ∉ operators)
    (hstarts : ∀ word, tail.head? = some word → word ∈ operators) :
    (arguments ++ tail).takeWhile (fun w => !isOperator w) = arguments ∧
      (arguments ++ tail).dropWhile (fun w => !isOperator w) = tail := by
  have hplain : ∀ word ∈ arguments, (!isOperator word) = true := by
    intro word hword
    rw [isOperator_eq_false_iff.2 (harguments word hword)]
    rfl
  rw [List.takeWhile_append_of_pos hplain, List.dropWhile_append_of_pos hplain]
  cases tail with
  | nil => simp
  | cons word tail =>
      have hword : isOperator word = true := isOperator_iff.2 (hstarts word rfl)
      simp [hword]

/-- Any words are arguments up to the first operator. -/
theorem exists_append (ts : List String) :
    ∃ arguments tail, ts = arguments ++ tail ∧ (∀ word ∈ arguments, word ∉ operators) ∧
      ∀ word, tail.head? = some word → word ∈ operators := by
  refine ⟨ts.takeWhile fun w => !isOperator w, ts.dropWhile fun w => !isOperator w,
    List.takeWhile_append_dropWhile.symm, ?_, ?_⟩
  · intro word hword
    have hplain := List.mem_takeWhile_imp hword
    rw [← isOperator_eq_false_iff]
    simpa using hplain
  · intro word hword
    have hstop := List.head?_dropWhile_not (fun w => !isOperator w) ts
    rw [hword] at hstop
    rw [← isOperator_iff]
    simpa using hstop

end Split

/-- Words have at most one reading. -/
theorem Reads.unique {r r' : Reading} {ts : List String} (h : r.Reads ts)
    (h' : r'.Reads ts) : r = r' := by
  obtain ⟨arguments, clauses, leftover⟩ := r
  obtain ⟨arguments', clauses', leftover'⟩ := r'
  obtain ⟨htake, hdrop⟩ := takeWhile_append h.arguments h.starts
  obtain ⟨htake', hdrop'⟩ := takeWhile_append h'.arguments h'.starts
  rw [← h.words] at htake hdrop
  rw [← h'.words] at htake' hdrop'
  obtain ⟨rfl, rfl⟩ := h.clauses.unique h'.clauses (hdrop.symm.trans hdrop')
  obtain rfl : arguments = arguments' := htake.symm.trans htake'
  rfl

end Reading

namespace Command

open Clause

section Clauses

variable {slot slots : Nat} {clause : Clause} {clauses : List Clause}
  {leftover rest : List String}

/-- A clause in one of the first two slots is read off its words. -/
theorem readClauses_words_append (h : clause.Fits slot) (hslot : slot + (slots + 1) = 2) :
    readClauses (slots + 1) (clause.words ++ rest) =
      (clause.part?.toList ++ ·) <$> readClauses slots rest := by
  cases clause with
  | redirect side path =>
      have htoken : (side.token == backgroundToken) = false :=
        beq_eq_false_iff_ne.2 (token_ne_background side)
      simp [words, readClauses, htoken, part?]
  | background => simp [words, readClauses, backgroundToken, part?]
  | ignored word =>
      have hword : word ∉ operators := by
        cases h with
        | inl hfirst => exact hfirst.2
        | inr hlast => omega
      have hbackground : (word == backgroundToken) = false := by
        rw [beq_eq_false_iff_ne]
        rintro rfl
        exact hword (by decide)
      simp [words, readClauses, hbackground, ofToken?_eq_none hword, part?]

/-- The last slot takes the background marker and nothing else. -/
theorem readClauses_last (h : clause.Fits 2) :
    readClauses 0 (clause.words ++ rest) = .ok clause.part?.toList := by
  cases clause with
  | redirect => exact absurd h (Nat.lt_irrefl 2)
  | background => rfl
  | ignored word =>
      have hword : (word == backgroundToken) = false := by
        cases h with
        | inl hfirst => omega
        | inr hlast => exact beq_eq_false_iff_ne.2 hlast.2
      simp [words, readClauses, hword, part?]

/-- Clauses that stand in their slots are read as they are. -/
theorem readClauses_of_readFrom (h : ReadFrom slot clauses leftover) (hslot : slot + slots = 2) :
    readClauses slots (clauses.flatMap words ++ leftover) = .ok (clauses.filterMap part?) := by
  induction clauses generalizing slot slots with
  | nil =>
      have hnone : leftover = [] := by
        cases leftover with
        | nil => rfl
        | cons word leftover =>
            have hslots : slot = 3 := h.leftover (List.cons_ne_nil _ _)
            omega
      rw [hnone]
      cases slots <;> rfl
  | cons clause clauses ih =>
      obtain ⟨hfits, hrest⟩ := readFrom_cons.1 h
      have hparts : (clause :: clauses).filterMap part? =
          clause.part?.toList ++ clauses.filterMap part? := by
        cases clause <;> rfl
      rw [List.flatMap_cons, List.append_assoc, hparts]
      cases slots with
      | zero =>
          obtain rfl : slot = 2 := hslot
          have hlast : clauses = [] := by
            rw [← List.length_eq_zero_iff]
            have := hrest.slots
            omega
          rw [readClauses_last hfits, hlast]
          simp
      | succ slots =>
          rw [readClauses_words_append hfits hslot, ih hrest (by omega)]
          rfl

/-- A redirection operator that ends the line where one of the first two slots starts. -/
theorem readClauses_of_missing (h : ReadFrom slot clauses []) (hslot : slot + slots = 2)
    (hlength : clauses.length < slots) (side : Redirection) :
    readClauses slots (clauses.flatMap words ++ [side.token]) =
      .error (.missingTarget side) := by
  induction clauses generalizing slot slots with
  | nil =>
      cases slots with
      | zero => simp at hlength
      | succ slots =>
          have htoken : (side.token == backgroundToken) = false :=
            beq_eq_false_iff_ne.2 (token_ne_background side)
          simp [readClauses, htoken]
  | cons clause clauses ih =>
      obtain ⟨hfits, hrest⟩ := readFrom_cons.1 h
      cases slots with
      | zero => simp at hlength
      | succ slots =>
          rw [List.length_cons] at hlength
          rw [List.flatMap_cons, List.append_assoc, readClauses_words_append hfits hslot,
            ih hrest (by omega) (by omega)]
          rfl

/-- One of the two is always so. -/
theorem exists_readFrom (hslot : slot + slots = 2) (ts : List String) :
    (∃ clauses leftover, ts = clauses.flatMap words ++ leftover ∧
        ReadFrom slot clauses leftover) ∨
      ∃ clauses side, ts = clauses.flatMap words ++ [Redirection.token side] ∧
        clauses.length < slots ∧ ReadFrom slot clauses [] := by
  induction slots generalizing slot ts with
  | zero =>
      obtain rfl : slot = 2 := hslot
      refine Or.inl ?_
      cases ts with
      | nil => exact ⟨[], [], rfl, (readFrom_nil (by decide)).2 nofun⟩
      | cons word rest =>
          have hlast : ReadFrom 3 [] rest := (readFrom_nil (Nat.le_refl 3)).2 fun _ => rfl
          by_cases hword : word = "&"
          · refine ⟨[.background], rest, ?_, readFrom_cons.2 ⟨Nat.le_refl 2, hlast⟩⟩
            rw [hword]
            rfl
          · exact ⟨[.ignored word], rest, rfl, readFrom_cons.2 ⟨Or.inr ⟨rfl, hword⟩, hlast⟩⟩
  | succ slots ih =>
      have hnext : slot + 1 + slots = 2 := by omega
      have hfirst : slot < 2 := by omega
      -- a clause that fits in front of whatever can be said of the words after it
      have hcons (clause : Clause) (hfits : clause.Fits slot) (rest : List String) :
          (∃ clauses leftover, clause.words ++ rest = clauses.flatMap words ++ leftover ∧
              ReadFrom slot clauses leftover) ∨
            ∃ clauses side,
              clause.words ++ rest = clauses.flatMap words ++ [Redirection.token side] ∧
                clauses.length < slots + 1 ∧ ReadFrom slot clauses [] := by
        obtain ⟨clauses, leftover, rfl, hread⟩ | ⟨clauses, side, rfl, hlength, hread⟩ :=
          ih hnext rest
        · refine Or.inl ⟨clause :: clauses, leftover, ?_, readFrom_cons.2 ⟨hfits, hread⟩⟩
          rw [List.flatMap_cons, List.append_assoc]
        · refine Or.inr ⟨clause :: clauses, side, ?_, Nat.succ_lt_succ hlength,
            readFrom_cons.2 ⟨hfits, hread⟩⟩
          rw [List.flatMap_cons, List.append_assoc]
      cases ts with
      | nil => exact Or.inl ⟨[], [], rfl, (readFrom_nil (by omega)).2 nofun⟩
      | cons word rest =>
          by_cases hword : word ∈ operators
          · rw [← isOperator_iff, isOperator, Bool.or_eq_true, beq_iff_eq,
              Option.isSome_iff_exists] at hword
            obtain rfl | ⟨side, hside⟩ := hword
            · exact hcons .background (Nat.le_of_lt hfirst) rest
            · obtain rfl := Redirection.ofToken?_eq_some_iff.1 hside
              cases rest with
              | nil =>
                  exact Or.inr ⟨[], side, rfl, Nat.succ_pos slots,
                    (readFrom_nil (by omega)).2 nofun⟩
              | cons path rest => exact hcons (.redirect side path) hfirst rest
          · exact hcons (.ignored word) (Or.inl ⟨hfirst, hword⟩) rest

end Clauses

theorem ofWords_append (program : String) {arguments tail : List String}
    (harguments : ∀ word ∈ arguments, word ∉ operators)
    (hstarts : ∀ word, tail.head? = some word → word ∈ operators) :
    ofWords (program :: (arguments ++ tail)) =
      (fun clauses => build program (arguments.map Part.word ++ clauses)) <$>
        readClauses redirectionSlots tail := by
  obtain ⟨htake, hdrop⟩ := Reading.takeWhile_append harguments hstarts
  rw [ofWords, htake, hdrop]
  cases readClauses redirectionSlots tail <;> rfl

/-- The parts that arguments and clauses add make the command that they ask for. -/
theorem build_reading (program : String) (r : Reading) :
    build program (r.arguments.map Part.word ++ r.clauses.filterMap part?) =
      r.command program := by
  obtain ⟨arguments, clauses, leftover⟩ := r
  induction clauses using List.reverseRecOn with
  | nil =>
      have hwords (c : Command) : (arguments.map Part.word).foldl add c =
          { c with arguments := c.arguments ++ arguments } := by
        induction arguments generalizing c with
        | nil => simp
        | cons word arguments ih => simp [ih, add]
      simp [build, hwords, Reading.command, Reading.lastTarget?]
  | append_singleton clauses clause ih =>
      have hbuild (parts : List Part) : build program (parts ++ clause.part?.toList) =
          clause.part?.elim (build program parts) fun part => (build program parts).add part := by
        cases clause.part? <;> simp [build]
      have hparts : (clauses ++ [clause]).filterMap part? =
          clauses.filterMap part? ++ clause.part?.toList := by
        cases hpart : clause.part? <;> simp [List.filterMap_append, hpart]
      simp only at ih ⊢
      rw [hparts, ← List.append_assoc, hbuild, ih]
      simp only [Reading.command, Reading.lastTarget?]
      cases clause with
      | redirect side path => cases side <;> simp [part?, add, target?]
      | background => simp [part?, add, target?]
      | ignored word => simp [part?, target?]

section OfWords

variable {program : String} {ts : List String}

/-- A reading is followed. -/
theorem ofWords_of_reads {r : Reading} (h : r.Reads ts) :
    ofWords (program :: ts) = .ok (r.command program) := by
  rw [h.words, ofWords_append program h.arguments h.starts, Reading.tail,
    readClauses_of_readFrom h.clauses rfl, ← build_reading]
  rfl

theorem ofWords_of_lacksTarget {side : Redirection} (h : LacksTarget ts side) :
    ofWords (program :: ts) = .error (.missingTarget side) := by
  obtain ⟨arguments, clauses, rfl, harguments, hstarts, hlength, hread⟩ := h
  have hmissing : readClauses redirectionSlots (clauses.flatMap words ++ [side.token]) =
      .error (.missingTarget side) := readClauses_of_missing hread rfl hlength side
  rw [ofWords_append program harguments hstarts, hmissing]
  rfl

/-- Words that have no reading lack a target. -/
theorem exists_reads_or_lacksTarget (ts : List String) :
    (∃ r : Reading, r.Reads ts) ∨ ∃ side, LacksTarget ts side := by
  obtain ⟨arguments, tail, rfl, harguments, hstarts⟩ := Reading.exists_append ts
  have hslots : 0 + redirectionSlots = 2 := rfl
  obtain ⟨clauses, leftover, rfl, hread⟩ | ⟨clauses, side, rfl, hlength, hread⟩ :=
    exists_readFrom hslots tail
  · exact Or.inl ⟨⟨arguments, clauses, leftover⟩, rfl, harguments, hstarts, hread⟩
  · exact Or.inr ⟨side, arguments, clauses, rfl, harguments, hstarts, hlength, hread⟩

/-- A parsed command comes from a reading. -/
theorem ofWords_eq_ok_iff {c : Command} :
    ofWords (program :: ts) = .ok c ↔ ∃ r : Reading, r.Reads ts ∧ c = r.command program := by
  constructor
  · intro h
    cases exists_reads_or_lacksTarget ts with
    | inl hreads =>
        obtain ⟨r, hr⟩ := hreads
        rw [ofWords_of_reads hr] at h
        exact ⟨r, hr, (Except.ok.inj h).symm⟩
    | inr hlacks =>
        obtain ⟨side, hside⟩ := hlacks
        rw [ofWords_of_lacksTarget hside] at h
        cases h
  · rintro ⟨r, hr, rfl⟩
    exact ofWords_of_reads hr

theorem ofWords_eq_error_iff {e : ParseError} :
    ofWords (program :: ts) = .error e ↔ ∃ side, LacksTarget ts side ∧ e = .missingTarget side := by
  constructor
  · intro h
    cases exists_reads_or_lacksTarget ts with
    | inl hreads =>
        obtain ⟨r, hr⟩ := hreads
        rw [ofWords_of_reads hr] at h
        cases h
    | inr hlacks =>
        obtain ⟨side, hside⟩ := hlacks
        rw [ofWords_of_lacksTarget hside] at h
        exact ⟨side, hside, (Except.error.inj h).symm⟩
  · rintro ⟨side, hside, rfl⟩
    exact ofWords_of_lacksTarget hside

theorem exists_reads_iff :
    (¬ ∃ r : Reading, r.Reads ts) ↔ ∃ side, LacksTarget ts side := by
  constructor
  · exact (exists_reads_or_lacksTarget ts).resolve_left
  · rintro ⟨side, hside⟩ ⟨r, hr⟩
    have hok : ofWords ("" :: ts) = .ok (r.command "") := ofWords_of_reads hr
    rw [ofWords_of_lacksTarget hside] at hok
    cases hok

end OfWords

/-- **The parser accepts exactly its grammar.** A line without words is an empty command. The
words after the program have at most one reading. If there is one, the command that it asks for
is parsed, and no other command ever is; there is none exactly where the last word is a
redirection operator without a target in slot 0 or 1, and then this operator is told. There are
no other errors. -/
theorem parse_follows_grammar (line : String) :
    match Text.words line with
    | [] => parse line = .error .emptyCommand
    | program :: ts =>
      (∀ r r' : Reading, r.Reads ts → r'.Reads ts → r = r') ∧
      (∀ c, parse line = .ok c ↔ ∃ r : Reading, r.Reads ts ∧ c = r.command program) ∧
      ((¬ ∃ r : Reading, r.Reads ts) ↔ ∃ side, LacksTarget ts side) ∧
      ∀ e, parse line = .error e ↔ ∃ side, LacksTarget ts side ∧ e = .missingTarget side := by
  rw [parse]
  cases Text.words line with
  | nil => rfl
  | cons program ts =>
      refine ⟨fun r r' hr hr' => hr.unique hr', fun c => ofWords_eq_ok_iff, exists_reads_iff,
        fun e => ofWords_eq_error_iff⟩

end Command

end JobShell
