import JobShell.Command.Basic
import JobShell.Text.Blank

/-!
# Reading a line

A line is read by the position of its words: the program, then arguments up to the first
operator, then at most three clauses. The first two clause slots take a redirection with
its target or the background marker, the last slot takes the background marker alone; a
word that fits its slot in no way uses the slot up, and what follows the last slot is
dropped. The only words that a line can lack are the program and the target of a
redirection.
-/

namespace JobShell

namespace Command

/-- What a line can lack. -/
inductive ParseError where
  | emptyCommand
  | missingTarget (side : Redirection)
deriving DecidableEq, Repr

/-- The number of clause slots that take a redirection. -/
def redirectionSlots : Nat := 2

/-- Reads the clauses when `slots` slots that take a redirection are left before the last
one. -/
def readClauses : Nat → List String → Except ParseError (List Part)
  | _, [] => .ok []
  | 0, word :: _ => .ok (if word == backgroundToken then [.background] else [])
  | slots + 1, word :: rest =>
    if word == backgroundToken then (.background :: ·) <$> readClauses slots rest
    else
      match Redirection.ofToken? word, rest with
      | none, rest => readClauses slots rest
      | some side, [] => .error (.missingTarget side)
      | some side, path :: rest => (.redirect side path :: ·) <$> readClauses slots rest

def ofWords : List String → Except ParseError Command
  | [] => .error .emptyCommand
  | program :: rest => do
    let clauses ← readClauses redirectionSlots (rest.dropWhile fun w => !isOperator w)
    let arguments := (rest.takeWhile fun w => !isOperator w).map Part.word
    return build program (arguments ++ clauses)

def parse (line : String) : Except ParseError Command :=
  ofWords (Text.words line)

end Command

end JobShell
