/-!
# Lines of a text

A line ends at a line feed, and a carriage return right before that line feed
belongs to the terminator. A last line without terminator is a line of its own;
a terminator at the very end starts no further line. A carriage return anywhere
else is an ordinary character.
-/

namespace JobShell

namespace Text

/-- The lines of a text, without their terminators. -/
def linesOf : List Char → List (List Char)
  | [] => []
  | '\n' :: cs => [] :: linesOf cs
  | '\r' :: '\n' :: cs => [] :: linesOf cs
  | c :: cs =>
    match linesOf cs with
    | [] => [[c]]
    | line :: rest => (c :: line) :: rest

/-- The lines of a text, from first to last, without their terminators. -/
def lines (text : String) : List String :=
  (linesOf text.toList).map String.ofList

@[simp] theorem linesOf_nil : linesOf [] = [] := rfl

@[simp] theorem linesOf_lineFeed (cs : List Char) :
    linesOf ('\n' :: cs) = [] :: linesOf cs := rfl

/-- A carriage return and a line feed together end one empty line. -/
@[simp] theorem linesOf_return_lineFeed (cs : List Char) :
    linesOf ('\r' :: '\n' :: cs) = [] :: linesOf cs := rfl

end Text

end JobShell
