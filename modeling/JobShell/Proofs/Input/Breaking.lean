import JobShell.Proofs.Input.Lines
import Mathlib.Data.List.DropRight

/-!
# Where a source breaks

A source that fails where it would end takes the line with it that it was giving. So of all its
bytes a plain reader gives the lines of those up to the last line feed
(`ByteReader.closedFront`), and then a failure; at an end of input it gives the rest as well.
-/

namespace JobShell

namespace ByteReader

/-- The bytes up to and including the last line feed. -/
def closedFront (bytes : Bytes) : Bytes :=
  bytes.rdropWhile (· != lineFeed)

theorem closedFront_prefix (bytes : Bytes) : closedFront bytes <+: bytes :=
  List.rdropWhile_prefix _ _

theorem closedFront_of_open {bytes : Bytes} (h : lineFeed ∉ bytes) : closedFront bytes = [] :=
  List.rdropWhile_eq_nil_iff.2 fun _ hb => bne_iff_ne.2 (ne_of_mem_of_not_mem hb h)

theorem closedFront_of_getLast? {bytes : Bytes} (h : bytes.getLast? = some lineFeed) :
    closedFront bytes = bytes := by
  obtain ⟨body, rfl⟩ := List.getLast?_eq_some_iff.1 h
  exact List.rdropWhile_concat_neg _ _ _ (by simp)

/-- The last line feed of what follows a line feed is the last one of all, if there is one. -/
theorem closedFront_append_feed (body rest : Bytes) :
    closedFront (body ++ lineFeed :: rest) = body ++ lineFeed :: closedFront rest := by
  induction rest using List.reverseRecOn with
  | nil =>
      rw [closedFront_of_getLast? (by simp)]
      rfl
  | append_singleton rest b ih =>
      rw [← List.cons_append, ← List.append_assoc, closedFront, closedFront,
        List.rdropWhile_concat, List.rdropWhile_concat]
      split
      · exact ih
      · simp only [List.append_assoc, List.cons_append]

theorem getLast?_closedFront {bytes : Bytes} (h : closedFront bytes ≠ []) :
    (closedFront bytes).getLast? = some lineFeed := by
  have hlast := List.rdropWhile_last_not _ _ h
  rw [List.getLast?_eq_some_getLast h]
  simpa [closedFront] using hlast

/-- No longer front of the bytes ends in a line feed. -/
theorem prefix_closedFront {bytes front : Bytes} (h : front <+: bytes)
    (hfront : front.getLast? = some lineFeed) : front <+: closedFront bytes := by
  obtain ⟨rest, rfl⟩ := h
  obtain ⟨body, rfl⟩ := List.getLast?_eq_some_iff.1 hfront
  rw [List.append_assoc, List.singleton_append, closedFront_append_feed]
  exact ⟨closedFront rest, by rw [List.append_assoc, List.singleton_append]⟩

end ByteReader

namespace LineSource

open ByteReader (lineFeed closedFront)

variable {prompt : String} {m : Machine}

/-- A plain reader of a source that breaks gives the lines that the source has completed. -/
theorem gives_plain_of_breaks (prompt : String) {m : Machine} (h : m.input.Steady)
    (hbreaks : m.input.breaks = true) :
    ∃ lines, Text.SplitsInto lineFeed 13 (closedFront m.input.content) lines ∧
      plain.Gives prompt m (lines.map Text.decodeLossy) (some (.because .io brokenInput)) := by
  generalize hn : m.input.content.length = length
  induction length using Nat.strongRecOn generalizing m with
  | ind length ih =>
    obtain ⟨input, hread, hgoesOn⟩ := readLine_plain_eq prompt h
    rw [hbreaks] at hread hgoesOn
    by_cases hopen : lineFeed ∈ m.input.content
    · obtain ⟨body, rest, hcontent, hbody⟩ := List.eq_append_cons_of_mem hopen
      rw [hcontent, ByteReader.frontLine_feed hbody] at hread hgoesOn
      rw [hcontent] at hn ⊢
      obtain ⟨hsteady, hrest, hgoesOn⟩ := hgoesOn
      obtain ⟨lines, hsplits, hgives⟩ :=
        @ih rest.length (by simp [← hn]; omega) { m.print prompt with input } hsteady
          (hgoesOn.trans hbreaks) (congrArg List.length hrest)
      rw [ByteReader.closedFront_append_feed]
      rw [show ({ m.print prompt with input } : Machine).input.content = rest from hrest] at hsplits
      exact ⟨_, ByteReader.splitsInto_chop hbody hsplits, .line hread hgives⟩
    · rw [ByteReader.frontLine_open hopen, if_pos rfl] at hread
      rw [ByteReader.closedFront_of_open hopen]
      exact ⟨[], .nil, .failed hread⟩

/-- What a plain reader gives of a source that breaks is decided by the bytes before the break
alone. -/
theorem plain_gives_completed_lines (prompt : String) {m : Machine} (h : m.input.Steady)
    (hbreaks : m.input.breaks = true) (lines : List String) (failure : Option Failure) :
    plain.Gives prompt m lines failure ↔
      lines = Text.lines (Text.decodeLossy (closedFront m.input.content)) ∧
        failure = some (.because .io brokenInput) := by
  obtain ⟨completed, hsplits, hgives⟩ := gives_plain_of_breaks prompt h hbreaks
  rw [lines_of_splitsInto hsplits] at hgives
  constructor
  · exact hgives.unique
  · rintro ⟨rfl, rfl⟩
    exact hgives

/-- For all sizes of the buffer and whatever portions the source gives before it breaks. Only a
reader with a buffer of no bytes does not get there, if there are bytes to take. -/
theorem plain_gives_of_broken (prompt : String) (capacity : Nat) {deliveries : List Bytes}
    (h : [] ∉ deliveries) (m : Machine) (lines : List String) (failure : Option Failure) :
    plain.Gives prompt { m with input := { capacity, ahead := deliveries, broken := true } }
        lines failure ↔
      if capacity = 0 ∧ deliveries ≠ [] then lines = [] ∧ failure = none
      else lines = Text.lines (Text.decodeLossy (closedFront deliveries.flatten)) ∧
        failure = some (.because .io brokenInput) := by
  obtain ⟨m', hm'⟩ : ∃ m', m' =
    { m with input := { capacity, ahead := deliveries, broken := true } } := ⟨_, rfl⟩
  have hsteady : m'.input.Steady := by rwa [hm']
  have hcontent : m'.input.content = if capacity = 0 then [] else deliveries.flatten := by
    rw [hm']
    exact List.nil_append _
  have hbreaks : m'.input.breaks = (capacity != 0 || deliveries.isEmpty) := by
    rw [hm']
    exact Bool.true_and _
  rw [← hm']
  split
  · next hnone =>
      obtain ⟨given, hsplits, hgives⟩ :=
        gives_plain prompt hsteady (by rw [hbreaks]; simp [hnone.1, hnone.2])
      rw [hcontent, if_pos hnone.1] at hsplits
      obtain rfl := hsplits.eq_nil_iff.2 rfl
      constructor
      · exact hgives.unique
      · rintro ⟨rfl, rfl⟩
        exact hgives
  · next hsome =>
      have hends : capacity ≠ 0 ∨ deliveries = [] := by
        rwa [not_and_or, not_not] at hsome
      have hflatten : m'.input.content = deliveries.flatten := by
        rw [hcontent]
        split
        · next hzero => rw [hends.resolve_left (not_not.2 hzero), List.flatten_nil]
        · rfl
      rw [plain_gives_completed_lines prompt hsteady (by rw [hbreaks]; simpa using hends),
        hflatten]

end LineSource

end JobShell
