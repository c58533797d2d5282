import JobShell.Text.Lines
import Mathlib.Data.List.Basic

/-!
# What the lines of a text are

`Text.SplitsInto` says, of texts over any alphabet with a line feed and a carriage return, which
lists of lines they fall into. There is at most one such list (`SplitsInto.unique`), and for a
text of characters it is `Text.linesOf` (`splitsInto_linesOf`). Bytes and characters are two
instances of it.
-/

namespace JobShell

namespace Text

section SplitsInto

variable {α : Type*}

/-- The first place of a symbol cuts a text in one way. -/
theorem eq_of_append_cons {a : α} {xs ys zs ws : List α} (hxs : a ∉ xs) (hys : a ∉ ys)
    (h : xs ++ a :: zs = ys ++ a :: ws) : xs = ys ∧ zs = ws := by
  induction xs generalizing ys with
  | nil =>
      cases ys with
      | nil => exact ⟨rfl, (List.cons.inj h).2⟩
      | cons y ys => exact absurd ((List.cons.inj h).1 ▸ List.mem_cons_self) hys
  | cons x xs ih =>
      cases ys with
      | nil => exact absurd ((List.cons.inj h).1 ▸ List.mem_cons_self) hxs
      | cons y ys =>
          obtain ⟨rfl, htail⟩ := List.cons.inj h
          obtain ⟨rfl, rfl⟩ := ih (mt (List.mem_cons_of_mem _) hxs)
            (mt (List.mem_cons_of_mem _) hys) htail
          exact ⟨rfl, rfl⟩

/-- A text falls into these lines: a line feed ends a line, and so do a carriage return and a
line feed; any other carriage return belongs to its line. What stands behind the last line feed
is a line unless it is empty. -/
inductive SplitsInto (feed ret : α) : List α → List (List α) → Prop where
  | nil : SplitsInto feed ret [] []
  | last {line : List α} (hline : line ≠ []) (hopen : feed ∉ line) :
      SplitsInto feed ret line [line]
  | feed {line rest : List α} {lines : List (List α)} (hopen : feed ∉ line)
      (hreturn : line.getLast? ≠ some ret) (hrest : SplitsInto feed ret rest lines) :
      SplitsInto feed ret (line ++ feed :: rest) (line :: lines)
  | returnFeed {line rest : List α} {lines : List (List α)} (hopen : feed ∉ line)
      (hrest : SplitsInto feed ret rest lines) :
      SplitsInto feed ret (line ++ ret :: feed :: rest) (line :: lines)

namespace SplitsInto

variable {feed ret : α} {text body rest : List α} {lines lines' : List (List α)}

theorem eq_nil_iff (h : SplitsInto feed ret text lines) : lines = [] ↔ text = [] := by
  cases h <;> simp_all

/-- A text without line feed is one line. -/
theorem eq_singleton (h : SplitsInto feed ret text lines) (htext : text ≠ [])
    (hopen : feed ∉ text) : lines = [text] := by
  cases h with
  | nil => exact absurd rfl htext
  | last => rfl
  | feed | returnFeed => exact absurd (by simp) hopen

/-- What stands before the first line feed is the first line, with a carriage return at its end
or without, and what stands behind it falls into the others. -/
theorem exists_cons (hne : feed ≠ ret) (h : SplitsInto feed ret (body ++ feed :: rest) lines)
    (hopen : feed ∉ body) :
    ∃ line later, lines = line :: later ∧ SplitsInto feed ret rest later ∧
      (body = line ∧ line.getLast? ≠ some ret ∨ body = line ++ [ret]) := by
  generalize htext : body ++ feed :: rest = text at h
  cases h with
  | nil => simp at htext
  | last _ hclosed => exact absurd (htext ▸ by simp) hclosed
  | feed hline hreturn hrest =>
      obtain ⟨rfl, rfl⟩ := eq_of_append_cons hopen hline htext
      exact ⟨body, _, rfl, hrest, Or.inl ⟨rfl, hreturn⟩⟩
  | @returnFeed line _ later hline hrest =>
      have hclosed : feed ∉ line ++ [ret] := by simp [hline, hne]
      rw [List.append_cons line ret] at htext
      obtain ⟨rfl, rfl⟩ := eq_of_append_cons hopen hclosed htext
      exact ⟨line, later, rfl, hrest, Or.inr rfl⟩

/-- The first line is fixed by what stands before the first line feed. -/
theorem first_unique {line line' : List α}
    (h : body = line ∧ line.getLast? ≠ some ret ∨ body = line ++ [ret])
    (h' : body = line' ∧ line'.getLast? ≠ some ret ∨ body = line' ++ [ret]) : line = line' := by
  obtain ⟨rfl, hlast⟩ | rfl := h <;> obtain ⟨heq, hlast'⟩ | heq := h'
  · exact heq
  · exact absurd (heq ▸ by simp) hlast
  · exact absurd (heq ▸ by simp) hlast'
  · exact List.append_cancel_right heq

/-- A text falls into lines in one way only. -/
theorem unique (hne : feed ≠ ret) (h : SplitsInto feed ret text lines)
    (h' : SplitsInto feed ret text lines') : lines = lines' := by
  induction h generalizing lines' with
  | nil => exact (h'.eq_nil_iff.2 rfl).symm
  | last hline hopen => exact (h'.eq_singleton hline hopen).symm
  | feed hopen hreturn hrest ih =>
      obtain ⟨line', later, rfl, hlater, hbody⟩ := h'.exists_cons hne hopen
      rw [ih hlater, first_unique (Or.inl ⟨rfl, hreturn⟩) hbody]
  | @returnFeed line _ _ hopen hrest ih =>
      have hclosed : feed ∉ line ++ [ret] := by simp [hopen, hne]
      rw [List.append_cons line ret] at h'
      obtain ⟨line', later, rfl, hlater, hbody⟩ := h'.exists_cons hne hclosed
      rw [ih hlater, first_unique (Or.inr rfl) hbody]

/-- One more symbol in front lengthens the first line. -/
theorem cons {c : α} {line : List α} (hfeed : c ≠ feed)
    (h : SplitsInto feed ret text (line :: lines)) (hreturn : c = ret → text.head? ≠ some feed) :
    SplitsInto feed ret (c :: text) ((c :: line) :: lines) := by
  have hclosed (hopen : feed ∉ line) : feed ∉ c :: line := by
    simp [hopen, Ne.symm hfeed]
  cases h with
  | last hline hopen => exact .last (List.cons_ne_nil c _) (hclosed hopen)
  | @returnFeed _ rest _ hopen hrest =>
      have hjoined : SplitsInto feed ret ((c :: line) ++ ret :: feed :: rest)
          ((c :: line) :: lines) := .returnFeed (hclosed hopen) hrest
      exact hjoined
  | @feed _ rest _ hopen hlast hrest =>
      suffices hjoined : SplitsInto feed ret ((c :: line) ++ feed :: rest)
          ((c :: line) :: lines) from hjoined
      refine .feed (hclosed hopen) ?_ hrest
      cases line with
      | nil =>
          intro heq
          exact hreturn (by simpa using heq) rfl
      | cons first line => rwa [List.getLast?_cons_cons]

end SplitsInto

end SplitsInto

/-- The lines of a text are what it falls into. -/
theorem splitsInto_linesOf (text : List Char) : SplitsInto '\n' '\r' text (linesOf text) := by
  fun_induction linesOf text with
  | case1 => exact .nil
  | case2 cs ih =>
      have hempty : SplitsInto '\n' '\r' ([] ++ '\n' :: cs) ([] :: linesOf cs) :=
        .feed List.not_mem_nil nofun ih
      exact hempty
  | case3 cs ih =>
      have hempty : SplitsInto '\n' '\r' ([] ++ '\r' :: '\n' :: cs) ([] :: linesOf cs) :=
        .returnFeed List.not_mem_nil ih
      exact hempty
  | case4 c cs hfeed hreturn hlines ih =>
      obtain rfl : cs = [] := (ih.eq_nil_iff).1 hlines
      exact .last (List.cons_ne_nil c []) (by simpa using fun h => hfeed h.symm)
  | case5 c cs hfeed hreturn line rest hlines ih =>
      rw [hlines] at ih
      refine ih.cons hfeed fun hc hhead => ?_
      obtain ⟨tail, rfl⟩ := List.head?_eq_some_iff.1 hhead
      exact hreturn tail hc rfl

/-- A list of lines is that of a text if and only if the text falls into it. -/
theorem splitsInto_iff {text : List Char} {lines : List (List Char)} :
    SplitsInto '\n' '\r' text lines ↔ lines = linesOf text := by
  constructor
  · exact fun h => h.unique (by decide) (splitsInto_linesOf text)
  · rintro rfl
    exact splitsInto_linesOf text

theorem map_toList_lines (text : String) :
    (lines text).map String.toList = linesOf text.toList := by
  have hid : String.toList ∘ String.ofList = id := funext fun _ => String.toList_ofList
  rw [lines, List.map_map, hid, List.map_id]

end Text

end JobShell
