import JobShell.Input.ByteReader
import JobShell.Proofs.Text.LineSplit

/-!
# What a buffered reader reads

In which portions a reader takes the bytes of its source, and where one delivery ends and the
next begins, makes no difference: a line is cut off at the first line feed of the
`ByteReader.content`, which is all that the reader can still hand on.
-/

namespace JobShell

namespace ByteReader

/-- The bytes that a reader can still hand on: what it has buffered and the deliveries to come.
One that takes portions of no bytes gets none of these. -/
def content (r : ByteReader) : Bytes :=
  r.buffered ++ if r.capacity = 0 then [] else r.ahead.flatten

/-- No end of input stands between two deliveries. -/
def Steady (r : ByteReader) : Prop :=
  [] ∉ r.ahead

/-- The reader gets to the end of its source, and the source breaks there. -/
def breaks (r : ByteReader) : Bool :=
  r.broken && (r.capacity != 0 || r.ahead.isEmpty)

/-- The reader goes on with this content. -/
structure GoesOn (r r' : ByteReader) (rest : Bytes) : Prop where
  steady : r'.Steady
  content : r'.content = rest
  breaks : r'.breaks = r.breaks

/-- The line in front of a content, when the bytes `before` of it were read already, and what
stands behind it. -/
def frontLine (breaks : Bool) (before content : Bytes) : Line × Bytes :=
  match cutLine content with
  | some (line, rest) => (.line (before ++ line), rest)
  | none =>
    (if breaks then .broke
      else if (before ++ content).isEmpty then .ended
      else .line (before ++ content), [])

section CutLine

variable {body bytes : Bytes}

theorem cutLine_of_closed (h : lineFeed ∉ bytes) : cutLine bytes = none := by
  induction bytes with
  | nil => rfl
  | cons b bytes ih =>
      rw [List.mem_cons, not_or] at h
      rw [cutLine, if_neg (Ne.symm h.1), ih h.2]
      rfl

theorem cutLine_append_feed (h : lineFeed ∉ body) (rest : Bytes) :
    cutLine (body ++ lineFeed :: rest) = some (body ++ [lineFeed], rest) := by
  induction body with
  | nil => rfl
  | cons b body ih =>
      rw [List.mem_cons, not_or] at h
      rw [List.cons_append, cutLine, if_neg (Ne.symm h.1), ih h.2]
      rfl

theorem cutLine_append {line rest : Bytes} (h : cutLine bytes = some (line, rest))
    (later : Bytes) : cutLine (bytes ++ later) = some (line, rest ++ later) := by
  induction bytes generalizing line with
  | nil => cases h
  | cons b bytes ih =>
      rw [List.cons_append, cutLine]
      rw [cutLine] at h
      split at h
      · next hb =>
          cases h
          rw [if_pos hb]
      · next hb =>
          obtain ⟨⟨tail, left⟩, htail, heq⟩ := Option.map_eq_some_iff.1 h
          cases heq
          rw [if_neg hb, ih htail]
          rfl

theorem cutLine_append_of_none (h : cutLine bytes = none) (later : Bytes) :
    cutLine (bytes ++ later) =
      (cutLine later).map fun (line, rest) => (bytes ++ line, rest) := by
  induction bytes with
  | nil => cases hcut : cutLine later <;> simp [hcut]
  | cons b bytes ih =>
      rw [cutLine] at h
      split at h
      · cases h
      · next hb =>
          rw [List.cons_append, cutLine, if_neg hb, ih (Option.map_eq_none_iff.1 h),
            Option.map_map]
          rfl

theorem frontLine_append (h : cutLine bytes = none) (breaks : Bool) (before later : Bytes) :
    frontLine breaks before (bytes ++ later) = frontLine breaks (before ++ bytes) later := by
  rw [frontLine, frontLine, cutLine_append_of_none h]
  cases cutLine later with
  | none => rw [Option.map_none, List.append_assoc]
  | some cut =>
      obtain ⟨line, rest⟩ := cut
      rw [Option.map_some]
      exact congrArg (fun bytes => (Line.line bytes, rest)) (List.append_assoc ..).symm

end CutLine

section TakeDelivery

theorem takeDelivery_flatten (n : Nat) (ahead : List Bytes) :
    (takeDelivery n ahead).1 ++ (takeDelivery n ahead).2.flatten = ahead.flatten := by
  cases ahead with
  | nil => rfl
  | cons delivery later =>
      rw [takeDelivery, List.flatten_cons]
      split
      · next hall =>
          rw [List.take_of_length_le (by simpa [List.isEmpty_iff] using hall)]
      · rw [List.flatten_cons, ← List.append_assoc, List.take_append_drop]

theorem nil_notMem_takeDelivery (n : Nat) {ahead : List Bytes} (h : [] ∉ ahead) :
    [] ∉ (takeDelivery n ahead).2 := by
  cases ahead with
  | nil => exact h
  | cons delivery later =>
      rw [List.mem_cons, not_or] at h
      rw [takeDelivery]
      split
      · exact h.2
      · next hleft =>
          rw [List.isEmpty_iff] at hleft
          rw [List.mem_cons, not_or]
          exact ⟨Ne.symm hleft, h.2⟩

/-- Only at its end, or for a reader that can take nothing, a source gives nothing. -/
theorem takeDelivery_fst_eq_nil {n : Nat} {ahead : List Bytes} (h : [] ∉ ahead)
    (hnone : (takeDelivery n ahead).1 = []) :
    (n = 0 ∨ ahead = []) ∧ (takeDelivery n ahead).2 = ahead := by
  cases ahead with
  | nil => exact ⟨Or.inr rfl, rfl⟩
  | cons delivery later =>
      rw [List.mem_cons, not_or] at h
      rw [takeDelivery, List.take_eq_nil_iff] at hnone
      obtain rfl := hnone.resolve_right (Ne.symm h.1)
      refine ⟨Or.inl rfl, ?_⟩
      rw [takeDelivery, List.drop_zero, if_neg (by simpa using Ne.symm h.1)]

end TakeDelivery

variable {r : ByteReader}

theorem upcoming_eq (r : ByteReader) : r.upcoming = r.ahead.flatten.length := by
  have hfold (n : Nat) : r.ahead.foldl (fun n delivery => n + delivery.length) n =
      n + r.ahead.flatten.length := by
    induction r.ahead generalizing n with
    | nil => rfl
    | cons delivery later ih =>
        rw [List.foldl_cons, ih, List.flatten_cons, List.length_append, Nat.add_assoc]
  rw [upcoming, hfold, Nat.zero_add]

/-- The reader when all that it has buffered is handed on. -/
def emptied (r : ByteReader) : ByteReader :=
  { r with buffered := [] }

theorem content_eq (r : ByteReader) : r.content = r.buffered ++ r.emptied.content := rfl

theorem content_emptied (r : ByteReader) :
    r.emptied.content = if r.capacity = 0 then [] else r.ahead.flatten := rfl

/-- Taking a portion does not change what the reader can hand on. -/
theorem goesOn_fetch (h : r.Steady) : r.GoesOn r.emptied.fetch r.emptied.content where
  steady := nil_notMem_takeDelivery r.capacity h
  content := by
    change (takeDelivery r.capacity r.ahead).1 ++ (if r.capacity = 0 then []
      else (takeDelivery r.capacity r.ahead).2.flatten) = _
    rw [content_emptied]
    by_cases hcapacity : r.capacity = 0
    · rw [if_pos hcapacity, if_pos hcapacity, List.append_nil, hcapacity]
      cases r.ahead <;> rfl
    · rw [if_neg hcapacity, if_neg hcapacity, takeDelivery_flatten]
  breaks := by
    change (r.broken && (r.capacity != 0 ||
      (takeDelivery r.capacity r.ahead).2.isEmpty)) = _
    rw [breaks]
    by_cases hcapacity : r.capacity = 0
    · have hnone : (takeDelivery r.capacity r.ahead).1 = [] := by
        rw [hcapacity]
        cases r.ahead <;> rfl
      rw [(takeDelivery_fst_eq_nil h hnone).2]
    · rw [bne_iff_ne.2 hcapacity, Bool.true_or, Bool.true_or]

theorem readFrom_of_cut {portions : Nat} {before line rest : Bytes}
    (h : cutLine r.buffered = some (line, rest)) :
    readFrom portions before r = (.line (before ++ line), { r with buffered := rest }) := by
  rw [readFrom, h]

theorem readFrom_of_portion {portions : Nat} {before : Bytes} (h : cutLine r.buffered = none)
    (hportion : r.portion ≠ []) :
    readFrom (portions + 1) before r =
      readFrom portions (before ++ r.buffered) r.emptied.fetch := by
  obtain ⟨b, bytes, hcons⟩ := List.exists_cons_of_ne_nil hportion
  have hsame : { r with buffered := [] }.portion = b :: bytes := hcons
  rw [readFrom, h]
  dsimp only
  rw [hsame]
  rfl

theorem readFrom_of_end {portions : Nat} {before : Bytes} (h : cutLine r.buffered = none)
    (hportion : r.portion = []) :
    readFrom portions before r =
      if r.broken && r.ahead.isEmpty then (.broke, r.emptied)
      else if (before ++ r.buffered).isEmpty then (.ended, r.emptied.fetch)
      else (.line (before ++ r.buffered), r.emptied.fetch) := by
  have hsame : { r with buffered := [] }.portion = [] := hportion
  rw [readFrom, h]
  dsimp only
  rw [hsame]
  cases portions <;> rfl

/-- A reader that gets no portion has handed on all it can when it is emptied, and goes on with
nothing. -/
theorem content_of_portion_nil (h : r.Steady) (hportion : r.portion = []) :
    r.content = r.buffered ∧ r.breaks = (r.broken && r.ahead.isEmpty) := by
  obtain ⟨hnone, -⟩ := takeDelivery_fst_eq_nil h hportion
  rw [content, breaks]
  by_cases hcapacity : r.capacity = 0
  · simp [hcapacity]
  · simp [hcapacity, hnone.resolve_left hcapacity]

/-- What was read is the line in front of what the reader can hand on, after `before`, and the
reader goes on behind that line. -/
def TakesFront (r : ByteReader) (before : Bytes) (read : Line × ByteReader) : Prop :=
  read.1 = (frontLine r.breaks before r.content).1 ∧
    r.GoesOn read.2 (frontLine r.breaks before r.content).2

theorem takesFront_of_cut {portions : Nat} {before line rest : Bytes} (h : r.Steady)
    (hcut : cutLine r.buffered = some (line, rest)) :
    r.TakesFront before (readFrom portions before r) := by
  have hcontent : cutLine r.content = some (line, rest ++ r.emptied.content) :=
    cutLine_append hcut _
  rw [TakesFront, readFrom_of_cut hcut, frontLine, hcontent]
  exact ⟨rfl, h, rfl, rfl⟩

theorem takesFront_of_end {portions : Nat} {before : Bytes} (h : r.Steady)
    (hcut : cutLine r.buffered = none) (hportion : r.portion = []) :
    r.TakesFront before (readFrom portions before r) := by
  obtain ⟨hcontent, hbreaks⟩ := content_of_portion_nil h hportion
  have hempty : r.emptied.content = [] :=
    List.append_cancel_left (hcontent.trans (List.append_nil _).symm)
  have hfetch := goesOn_fetch h
  rw [hempty] at hfetch
  rw [TakesFront, readFrom_of_end hcut hportion, content_eq, frontLine_append hcut, hempty,
    frontLine, hbreaks, List.append_nil]
  split
  · exact ⟨rfl, h, hempty, rfl⟩
  · split <;> exact ⟨rfl, hfetch⟩

theorem takesFront_of_portion {portions : Nat} {before : Bytes} (h : r.Steady)
    (hcut : cutLine r.buffered = none) (hportion : r.portion ≠ [])
    (hrest : r.emptied.fetch.TakesFront (before ++ r.buffered)
      (readFrom portions (before ++ r.buffered) r.emptied.fetch)) :
    r.TakesFront before (readFrom (portions + 1) before r) := by
  have hfetch := goesOn_fetch h
  rw [TakesFront, hfetch.content, hfetch.breaks] at hrest
  rw [TakesFront, readFrom_of_portion hcut hportion, content_eq, frontLine_append hcut]
  exact ⟨hrest.1, hrest.2.steady, hrest.2.content, hrest.2.breaks.trans hfetch.breaks⟩

theorem upcoming_fetch (r : ByteReader) :
    r.portion.length + r.emptied.fetch.upcoming = r.upcoming := by
  rw [upcoming_eq, upcoming_eq, ← takeDelivery_flatten r.capacity r.ahead, List.length_append]
  rfl

/-- With a portion for each byte to come, a reading does not stop short. -/
theorem takesFront_readFrom (portions : Nat) (before : Bytes) {r : ByteReader} (h : r.Steady)
    (hportions : r.upcoming ≤ portions) : r.TakesFront before (readFrom portions before r) := by
  induction portions generalizing before r with
  | zero =>
      cases hcut : cutLine r.buffered with
      | some cut => exact takesFront_of_cut h hcut
      | none =>
          have hsum := upcoming_fetch r
          exact takesFront_of_end h hcut (List.length_eq_zero_iff.1 (by omega))
  | succ portions ih =>
      cases hcut : cutLine r.buffered with
      | some cut => exact takesFront_of_cut h hcut
      | none =>
          by_cases hportion : r.portion = []
          · exact takesFront_of_end h hcut hportion
          · have hsum := upcoming_fetch r
            have hpos := List.length_pos_iff.2 hportion
            exact takesFront_of_portion h hcut hportion
              (ih _ (goesOn_fetch h).steady (by omega))

theorem takesFront_readLine (h : r.Steady) : r.TakesFront [] r.readLine :=
  takesFront_readFrom r.upcoming [] h (Nat.le_refl _)

end ByteReader

end JobShell
