import JobShell.Text.BreakClass

/-!
# Erasing with the backspace character

A backspace (U+0008) in a line of text takes back the user-perceived character
before it: the whole *cluster* of code points that are shown as one, such as a
letter with its accents, a syllable of Hangul jamo, a flag or a conjunct of
consonants. `Grapheme.joins` is the boundary rule, `Grapheme.clusters` the cutting of
a text under it and `eraseBackspaces` the reading of a line. A backspace at the start
of a line, or after everything has been taken back, does nothing.

What a backspace takes back is counted in bytes, and the count of a cluster is kept in
eight bits: of a cluster of 256 bytes or more only the rest modulo 256 goes.
-/

namespace JobShell

namespace Text

namespace Grapheme

/-- A syllable of Hangul that ends in a vowel. -/
def isOpenSyllable (c : Char) : Bool :=
  0xAC00 ≤ c.toNat && c.toNat ≤ 0xD7A3 && (c.toNat - 0xAC00) % 28 == 0

/-- A syllable of Hangul that ends in a consonant. -/
def isClosedSyllable (c : Char) : Bool :=
  0xAC00 ≤ c.toNat && c.toNat ≤ 0xD7A3 && (c.toNat - 0xAC00) % 28 != 0

/-- One of the letters that are written in pairs as a flag. -/
def isRegionalIndicator (c : Char) : Bool :=
  0x1F1E6 ≤ c.toNat && c.toNat ≤ 0x1F1FF

/-- Hangul: a leading consonant takes a syllable, a vowel takes a vowel or a final
consonant, and a final consonant takes another one. -/
def joinsSyllable (before c : Char) : Bool :=
  (inRanges leadingJamoRanges before &&
    (inRanges leadingJamoRanges c || inRanges vowelJamoRanges c ||
      isOpenSyllable c || isClosedSyllable c)) ||
  ((isOpenSyllable before || inRanges vowelJamoRanges before) &&
    (inRanges vowelJamoRanges c || inRanges trailingJamoRanges c)) ||
  ((isClosedSyllable before || inRanges trailingJamoRanges before) &&
    inRanges trailingJamoRanges c)

/-- The joiner of pictographs, which also extends the cluster before it. -/
def joiner : Char := '\u200D'

/-- A code point that extends every cluster. -/
def isExtending (c : Char) : Bool :=
  c == joiner || inRanges extendRanges c

/-- Pictographs joined by the joiner: the cluster ends in a pictograph, extending code
points and one joiner. -/
def awaitsPictograph : List Char → Bool
  | [] => false
  | c :: before =>
    c == joiner &&
      match before.dropWhile (inRanges extendRanges) with
      | [] => false
      | base :: _ => inRanges pictographRanges base

/-- A code point that does not come between a consonant and a sign that links it: an
extending one other than U+200C, which keeps letters apart. -/
def isConjunctMark (c : Char) : Bool :=
  isExtending c && c != '\u200C'

/-- Conjuncts: the cluster ends in a consonant and marks, at least one of which links it
to the next consonant. -/
def awaitsConsonant (cluster : List Char) : Bool :=
  let marks := cluster.takeWhile isConjunctMark
  marks.any (inRanges linkerRanges) &&
    match cluster.drop marks.length with
    | [] => false
    | base :: _ => inRanges consonantRanges base

/-- Whether a code point belongs to the cluster under way, which is given from its
last code point to its first. -/
def joins (cluster : List Char) (c : Char) : Bool :=
  match cluster with
  | [] => false
  | last :: _ =>
    if last == '\r' && c == '\n' then true
    else if inRanges controlRanges last || inRanges controlRanges c then false
    else
      joinsSyllable last c || isExtending c || inRanges spacingMarkRanges c ||
        inRanges prependRanges last ||
        (awaitsConsonant cluster && inRanges consonantRanges c) ||
        (awaitsPictograph cluster && inRanges pictographRanges c) ||
        (isRegionalIndicator c && (cluster.takeWhile isRegionalIndicator).length % 2 == 1)

/-- The clusters of a text that goes on after the cluster under way, which is given from
its last code point to its first. -/
def clustersFrom (cluster : List Char) : List Char → List (List Char)
  | [] => [cluster.reverse]
  | c :: cs =>
    if joins cluster c then clustersFrom (c :: cluster) cs
    else cluster.reverse :: clustersFrom [c] cs

def clusters : List Char → List (List Char)
  | [] => []
  | c :: cs => clustersFrom [c] cs

theorem flatten_clustersFrom (cluster cs : List Char) :
    (clustersFrom cluster cs).flatten = cluster.reverse ++ cs := by
  induction cs generalizing cluster with
  | nil => simp [clustersFrom]
  | cons c cs ih =>
    unfold clustersFrom
    split
    · simp [ih]
    · simp [ih]

/-- Nothing of a text is lost in its clusters. -/
@[simp] theorem flatten_clusters (cs : List Char) : (clusters cs).flatten = cs := by
  cases cs with
  | nil => rfl
  | cons c cs => simp [clusters, flatten_clustersFrom]

/-- The count of a cluster: its length in bytes, in eight bits. -/
def byteCount (cluster : List Char) : Nat :=
  (cluster.foldl (fun n c => n + c.utf8Size) 0) % 256

/-- Takes bytes back from a text that is given from its last character to its first. -/
def takeBack : Nat → List Char → List Char
  | _, [] => []
  | 0, cs => cs
  | n, c :: cs => takeBack (n - c.utf8Size) cs

/-- Reads on by clusters. `counts` belong to the clusters that can still be taken back, the
latest first, and `kept` is what is left so far, from its last character to its first. -/
def erase (counts : List Nat) (kept : List Char) : List (List Char) → List Char
  | [] => kept.reverse
  | ['\x08'] :: rest => erase counts.tail (takeBack (counts.headD 0) kept) rest
  | cluster :: rest => erase (byteCount cluster :: counts) (cluster.reverse ++ kept) rest

end Grapheme

/-- The line that is left when each backspace has taken back the cluster before it. -/
def eraseBackspaces (line : String) : String :=
  String.ofList (Grapheme.erase [] [] (Grapheme.clusters line.toList))

end Text

end JobShell
