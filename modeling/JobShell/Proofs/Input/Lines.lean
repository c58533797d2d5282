import JobShell.Input.LineSource
import JobShell.Proofs.Input.Reading
import JobShell.Proofs.Text.Decoding

/-!
# Lines of standard input and of a text

`LineSource.Gives` is what a source gives up to where it stops. Standard input that is read
plainly gives the lines of the text that its bytes are decoded to, whatever the portions
(`LineSource.plain_gives_lines`): the reader cuts bytes and decodes each line, a script is
decoded first and then cut.
-/

namespace JobShell

namespace ByteReader

section Chop

variable {line : Bytes}

theorem chop_returnFeed (line : Bytes) : chop (line ++ [13, 10]) = line := by
  rw [chop, List.reverse_append]
  exact List.reverse_reverse line

theorem chop_feed (h : line.getLast? ≠ some 13) : chop (line ++ [lineFeed]) = line := by
  have hreverse : (line ++ [lineFeed]).reverse = 10 :: line.reverse := by
    rw [List.reverse_append]
    rfl
  rw [List.getLast?_eq_head?_reverse] at h
  rw [chop, hreverse]
  split
  · next heq =>
      rw [(List.cons.inj heq).2] at h
      exact absurd rfl h
  · next heq => rw [← (List.cons.inj heq).2, List.reverse_reverse]
  · next hnot => exact absurd rfl (hnot _)

theorem chop_open (h : lineFeed ∉ line) : chop line = line := by
  rw [← List.mem_reverse] at h
  rw [chop]
  split
  · next heq => exact absurd (heq ▸ List.mem_cons_self) h
  · next heq => exact absurd (heq ▸ List.mem_cons_self) h
  · rfl

/-- A line up to its line feed, chopped, is the first of the lines. -/
theorem splitsInto_chop {body rest : Bytes} {lines : List Bytes} (hbody : lineFeed ∉ body)
    (hrest : Text.SplitsInto lineFeed 13 rest lines) :
    Text.SplitsInto lineFeed 13 (body ++ lineFeed :: rest)
      (chop (body ++ [lineFeed]) :: lines) := by
  by_cases hreturn : body.getLast? = some 13
  · obtain ⟨line, rfl⟩ := List.getLast?_eq_some_iff.1 hreturn
    rw [List.mem_append, not_or] at hbody
    rw [List.append_assoc, List.append_assoc, List.singleton_append, List.singleton_append,
      lineFeed, chop_returnFeed]
    exact .returnFeed hbody.1 hrest
  · rw [chop_feed hreturn]
    exact .feed hbody hreturn hrest

end Chop

section FrontLine

variable {breaks : Bool} {body rest : Bytes}

theorem frontLine_feed (h : lineFeed ∉ body) :
    frontLine breaks [] (body ++ lineFeed :: rest) = (.line (body ++ [lineFeed]), rest) := by
  rw [frontLine, cutLine_append_feed h]
  rfl

theorem frontLine_open (h : lineFeed ∉ body) :
    frontLine breaks [] body =
      (if breaks then .broke else if body.isEmpty then .ended else .line body, []) := by
  rw [frontLine, cutLine_of_closed h]
  rfl

end FrontLine

end ByteReader

namespace LineSource

open ByteReader (lineFeed)

/-- What a source gives up to where it stops: its lines, and the failure that it stops with. -/
inductive Gives (prompt : String) :
    LineSource → Machine → List String → Option Failure → Prop where
  | ended {source source' : LineSource} {m m' : Machine}
      (h : source.readLine prompt m = (.ok none, source', m')) : Gives prompt source m [] none
  | failed {source source' : LineSource} {m m' : Machine} {f : Failure}
      (h : source.readLine prompt m = (.error f, source', m')) :
      Gives prompt source m [] (some f)
  | line {source source' : LineSource} {m m' : Machine} {line : String} {lines : List String}
      {failure : Option Failure}
      (h : source.readLine prompt m = (.ok (some line), source', m'))
      (hrest : Gives prompt source' m' lines failure) :
      Gives prompt source m (line :: lines) failure

variable {prompt : String} {source : LineSource} {m : Machine}

theorem Gives.unique {lines lines' : List String} {failure failure' : Option Failure}
    (h : source.Gives prompt m lines failure) (h' : source.Gives prompt m lines' failure') :
    lines' = lines ∧ failure' = failure := by
  induction h generalizing lines' with
  | ended h => cases h' <;> simp_all
  | failed h => cases h' <;> simp_all
  | line h _ ih =>
      cases h' with
      | ended h' | failed h' => rw [h] at h'; cases h'
      | line h' hrest =>
          rw [h] at h'
          cases h'
          obtain ⟨rfl, rfl⟩ := ih hrest
          exact ⟨rfl, rfl⟩

/-- Known lines are given as they are. -/
theorem gives_listed (prompt : String) (lines : List String) (failure : Option Failure)
    (m : Machine) : (listed lines failure).Gives prompt m lines failure := by
  induction lines with
  | nil =>
      cases failure with
      | none => exact .ended rfl
      | some f => exact .failed rfl
  | cons line lines ih => exact .line rfl ih

section Plain

variable {body rest : Bytes}

/-- The answer of a plain reader that has read so far. -/
def plainAnswer : ByteReader.Line → Except Failure (Option String)
  | .line bytes => .ok (some (plainLine bytes))
  | .ended => .ok none
  | .broke => .error (Failure.because .io brokenInput)

theorem readLine_plain (prompt : String) (m : Machine) :
    plain.readLine prompt m =
      (plainAnswer m.input.readLine.1, plain,
        { m.print prompt with input := m.input.readLine.2 }) := by
  rw [readLine]
  have hinput : (m.print prompt).input = m.input := rfl
  rw [hinput]
  obtain ⟨line, input⟩ := m.input.readLine
  cases line <;> rfl

/-- A plain reader takes what stands in front of its content, whatever the portions. -/
theorem readLine_plain_eq (prompt : String) (h : m.input.Steady) :
    ∃ input, plain.readLine prompt m =
        (plainAnswer (ByteReader.frontLine m.input.breaks [] m.input.content).1, plain,
          { m.print prompt with input }) ∧
      m.input.GoesOn input (ByteReader.frontLine m.input.breaks [] m.input.content).2 := by
  obtain ⟨hline, hgoesOn⟩ := ByteReader.takesFront_readLine h
  exact ⟨m.input.readLine.2, by rw [readLine_plain, hline], hgoesOn⟩

/-- A plain reader gives the lines of its content, each decoded by itself. -/
theorem gives_plain (prompt : String) {m : Machine} (h : m.input.Steady)
    (hbreaks : m.input.breaks = false) :
    ∃ lines, Text.SplitsInto lineFeed 13 m.input.content lines ∧
      plain.Gives prompt m (lines.map Text.decodeLossy) none := by
  generalize hn : m.input.content.length = length
  induction length using Nat.strongRecOn generalizing m with
  | ind length ih =>
    obtain ⟨input, hread, hgoesOn⟩ := readLine_plain_eq prompt h
    rw [hbreaks] at hread hgoesOn
    have hlater {rest : Bytes} (hgoesOn : m.input.GoesOn input rest)
        (hless : rest.length < length) :
        ∃ lines, Text.SplitsInto lineFeed 13 rest lines ∧
          plain.Gives prompt { m.print prompt with input } (lines.map Text.decodeLossy) none := by
      obtain ⟨hsteady, hrest, hgoesOn⟩ := hgoesOn
      rw [← hrest] at hless ⊢
      exact @ih _ hless { m.print prompt with input } hsteady (hgoesOn.trans hbreaks) rfl
    by_cases hopen : lineFeed ∈ m.input.content
    · obtain ⟨body, rest, hcontent, hbody⟩ := List.eq_append_cons_of_mem hopen
      rw [hcontent, ByteReader.frontLine_feed hbody] at hread hgoesOn
      rw [hcontent] at hn ⊢
      obtain ⟨lines, hsplits, hgives⟩ := hlater hgoesOn (by simp [← hn]; omega)
      exact ⟨_, ByteReader.splitsInto_chop hbody hsplits, .line hread hgives⟩
    · rw [ByteReader.frontLine_open hopen, if_neg Bool.false_ne_true] at hread hgoesOn
      by_cases hempty : m.input.content = []
      · rw [hempty] at hread ⊢
        exact ⟨[], .nil, .ended hread⟩
      · obtain ⟨lines, hsplits, hgives⟩ :=
          hlater hgoesOn (by simp [← hn, List.length_pos_iff, hempty])
        obtain rfl := hsplits.eq_nil_iff.2 rfl
        rw [if_neg (mt List.isEmpty_iff.1 hempty), plainAnswer, plainLine,
          ByteReader.chop_open hopen] at hread
        exact ⟨[m.input.content], .last hempty hopen, .line hread hgives⟩

end Plain

/-- Decoding the lines of bytes yields the lines of the text. -/
theorem lines_of_splitsInto {bytes : Bytes} {lines : List Bytes}
    (h : Text.SplitsInto lineFeed 13 bytes lines) :
    lines.map Text.decodeLossy = Text.lines (Text.decodeLossy bytes) := by
  rw [Text.lines, ← Text.splitsInto_iff.1 h.decode, List.map_map]
  exact List.map_congr_left fun line _ => String.ofList_toList.symm

/-- For all bytes and all sizes of the buffer, and whatever portions the source gives: standard
input that is read plainly gives the lines of its bytes decoded, as does a text, and these are
what the text falls into. A reader with a buffer of no bytes can take none. -/
theorem plain_gives_lines (prompt : String) (capacity : Nat) {deliveries : List Bytes}
    (hdeliveries : [] ∉ deliveries) (m m' : Machine) :
    let text := Text.decodeLossy (if capacity = 0 then [] else deliveries.flatten)
    (∀ lines failure,
      plain.Gives prompt { m with input := { capacity, ahead := deliveries } } lines failure ↔
        lines = Text.lines text ∧ failure = none) ∧
    (∀ lines failure, (ofText text).Gives prompt m' lines failure ↔
      lines = Text.lines text ∧ failure = none) ∧
    Text.SplitsInto '\n' '\r' text.toList ((Text.lines text).map String.toList) := by
  intro text
  have hplain : plain.Gives prompt { m with input := { capacity, ahead := deliveries } }
      (Text.lines text) none := by
    obtain ⟨lines, hsplits, hgives⟩ := gives_plain prompt
      (m := { m with input := { capacity, ahead := deliveries } }) hdeliveries rfl
    rwa [lines_of_splitsInto hsplits] at hgives
  have htext : (ofText text).Gives prompt m' (Text.lines text) none := gives_listed ..
  refine ⟨fun lines failure => ⟨hplain.unique, ?_⟩, fun lines failure => ⟨htext.unique, ?_⟩, ?_⟩
  · rintro ⟨rfl, rfl⟩
    exact hplain
  · rintro ⟨rfl, rfl⟩
    exact htext
  · rw [Text.map_toList_lines]
    exact Text.splitsInto_linesOf text.toList

/-- Two sequences that are cut off, one by a carriage return that stays, one by the end of its
line, in portions of three bytes. -/
theorem plain_gives_lines_cut_off :
    plain.Gives ": "
      { ({} : Machine) with
        input :=
          { capacity := 3
            ahead := [[0x61, 0xE2, 0x82], [13, 0x62, 0xC3, 13, 10], [0x63]] } }
      ["a\uFFFD\rb\uFFFD", "c"] none ∧
    (ofText "a\uFFFD\rb\uFFFD\r\nc").Gives ": " {} ["a\uFFFD\rb\uFFFD", "c"] none := by
  have hcut : [] ∉ ([[0x61, 0xE2, 0x82], [13, 0x62, 0xC3, 13, 10], [0x63]] : List Bytes) := by
    decide
  have hlines := plain_gives_lines ": " 3 hcut {} {}
  have htext : Text.decodeLossy [0x61, 0xE2, 0x82, 13, 0x62, 0xC3, 13, 10, 0x63] =
      "a\uFFFD\rb\uFFFD\r\nc" := by decide
  exact ⟨(hlines.1 _ none).2 ⟨by decide, rfl⟩, htext ▸ (hlines.2.1 _ none).2 ⟨by decide, rfl⟩⟩

end LineSource

end JobShell
