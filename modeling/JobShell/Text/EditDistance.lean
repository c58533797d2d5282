/-!
# Edit distance

The least number of characters that have to be inserted, deleted or replaced to turn one text
into another. `Text.editDistance` goes through one text character by character and keeps, for
every front part of the other one, its distance from what has been read.
-/

namespace JobShell

namespace Text

/-- The distances after one more character `c` has been read, given those before it; `left` is
the new distance from the part of the target that ends right before these characters. -/
def distancesAfter (c : Char) (left : Nat) : List Char → List Nat → List Nat
  | t :: target, before :: above :: rest =>
    let here := min (min (left + 1) (above + 1)) (if c = t then before else before + 1)
    here :: distancesAfter c here target (above :: rest)
  | _, _ => []

/-- One step: the distances of all front parts of the target, the empty one first. -/
def stepDistances (target : List Char) (distances : List Nat) (c : Char) : List Nat :=
  let first := distances.headD 0 + 1
  first :: distancesAfter c first target distances

def editDistance (source target : String) : Nat :=
  let start := List.range (target.length + 1)
  (source.toList.foldl (stepDistances target.toList) start).getLastD 0

end Text

end JobShell
