/-!
# Patterns of scripts

A pattern is a text some of whose characters are marked as taken for themselves. Of the other
ones an asterisk stands for any characters, a question mark for any one, and brackets for one of
those between them.
-/

namespace JobShell

namespace Userland

namespace Script

/-- A character, and whether it is taken for itself. -/
abbrev Mark := Char × Bool

def plainText (ms : List Mark) : String :=
  String.ofList (ms.map Prod.fst)

/-- Characters that are all taken for themselves, or none of them. -/
def marked (quoted : Bool) (cs : List Char) : List Mark :=
  cs.map (·, quoted)

inductive Item where
  | one (c : Char)
  | anyOne
  | anyNumber
  /-- One of these ranges of characters, or none of them. -/
  | among (ranges : List (Char × Char)) (excluded : Bool)
deriving DecidableEq, Repr

def readRanges : List Char → List (Char × Char)
  | a :: '-' :: b :: cs => (a, b) :: readRanges cs
  | a :: cs => (a, a) :: readRanges cs
  | [] => []

/-- The characters up to the closing bracket, which may stand first for itself, and what
follows. -/
def untilBracket (ms : List Mark) : Option (List Char × List Mark) :=
  match ms with
  | [] => none
  | first :: rest =>
    let inside := rest.takeWhile fun m => m != (']', false)
    if inside.length < rest.length then
      some ((first :: inside).map Prod.fst, rest.drop (inside.length + 1))
    else none

/-- The items of a text with marks; `fuel` bounds their number. -/
def readItems : Nat → List Mark → List Item
  | 0, _ => []
  | _, [] => []
  | fuel + 1, (c, quoted) :: rest =>
    if quoted then .one c :: readItems fuel rest
    else if c = '*' then .anyNumber :: readItems fuel rest
    else if c = '?' then .anyOne :: readItems fuel rest
    else if c = '[' then
      let (excluded, inner) :=
        match rest with
        | ('!', false) :: inner => (true, inner)
        | inner => (false, inner)
      match untilBracket inner with
      | some (cs, after) => .among (readRanges cs) excluded :: readItems fuel after
      | none => .one c :: readItems fuel rest
    else .one c :: readItems fuel rest

def itemsOf (ms : List Mark) : List Item :=
  readItems ms.length ms

def Item.takes (i : Item) (c : Char) : Bool :=
  match i with
  | .one d => c == d
  | .anyOne => true
  | .anyNumber => true
  | .among ranges excluded => (ranges.any fun r => r.1 ≤ c && c ≤ r.2) != excluded

def isMatch : List Item → List Char → Bool
  | [], cs => cs.isEmpty
  | .anyNumber :: is, [] => isMatch is []
  | .anyNumber :: is, c :: cs => isMatch is (c :: cs) || isMatch (.anyNumber :: is) cs
  | _ :: _, [] => false
  | i :: is, c :: cs => i.takes c && isMatch is cs
termination_by is cs => is.length + cs.length

/-- Whether a pattern holds anything that does not stand for itself. -/
def isGeneral (ms : List Mark) : Bool :=
  (itemsOf ms).any fun i =>
    match i with
    | .one _ => false
    | _ => true

/-- A text without the front part, or the back part, that matches; the shortest or the longest
one. -/
def withoutMatch (front longest : Bool) (pattern : List Item) (cs : List Char) : List Char :=
  let sizes := List.range (cs.length + 1)
  let sizes := if longest then sizes.reverse else sizes
  match sizes.find? fun n =>
    isMatch pattern (if front then cs.take n else cs.drop (cs.length - n)) with
  | some n => if front then cs.drop n else cs.take (cs.length - n)
  | none => cs

end Script

end Userland

end JobShell
