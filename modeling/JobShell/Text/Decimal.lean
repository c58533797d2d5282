/-!
# Decimal numbers of 32 bits

The text of a number is an optional sign and one or more ASCII digits, and nothing
else: no blank, no separator, no other numeral. A value that does not fit a signed
word of 32 bits is refused.
-/

namespace JobShell

namespace Text

/-- The value of a digit sequence, read from left to right. -/
def digitsValue (cs : List Char) : Nat :=
  cs.foldl (fun n c => 10 * n + (c.toNat - '0'.toNat)) 0

/-- Reads one or more ASCII digits. -/
def readNat? (cs : List Char) : Option Nat :=
  if cs.isEmpty then none
  else if cs.all Char.isDigit then some (digitsValue cs)
  else none

/-- Reads an optional sign and digits. -/
def readSigned? : List Char → Option Int
  | '+' :: cs => (readNat? cs).map Int.ofNat
  | '-' :: cs => (readNat? cs).map fun n => -(n : Int)
  | cs => (readNat? cs).map Int.ofNat

/-- The values of a signed word of 32 bits. -/
def fitsWord (n : Int) : Bool :=
  -2147483648 ≤ n && n ≤ 2147483647

def readWord? (s : String) : Option Int :=
  (readSigned? s.toList).filter fitsWord

theorem fitsWord_of_readWord? {s : String} {n : Int} (h : readWord? s = some n) :
    fitsWord n = true := by
  simp only [readWord?, Option.filter_eq_some_iff] at h
  exact h.2

end Text

end JobShell
