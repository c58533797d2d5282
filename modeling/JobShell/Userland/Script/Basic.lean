import JobShell.Text.Utf8

/-!
# Scripts of the plain command language

The statements of the command language in which the small scripts of a plain system are
written, and the words they consist of. A word is a list of pieces, some of which stand for
something that is only known when the script runs. A quoted piece is taken as it is; the value
of an unquoted one is split into fields.
-/

namespace JobShell

namespace Userland

namespace Script

/-- What the value of a parameter is used for. `emptyToo` says that an empty value counts as
none. -/
inductive Form where
  | plain
  | length
  /-- The operand where there is no value. -/
  | orElse (emptyToo : Bool)
  /-- The operand where there is no value, and from then on. -/
  | orAssign (emptyToo : Bool)
  /-- An error where there is no value. -/
  | orFail (emptyToo : Bool)
  /-- The operand where there is a value. -/
  | instead (emptyToo : Bool)
  /-- Without a front part that matches the operand. -/
  | withoutFront (longest : Bool)
  /-- Without a back part that matches the operand. -/
  | withoutBack (longest : Bool)
  /-- Nothing that there is a rule for. -/
  | unknown
deriving DecidableEq, Repr

/-- A part of a word. -/
inductive Piece where
  | text (cs : List Char) (quoted : Bool)
  | parameter (name : String) (form : Form) (operand : List Piece) (quoted : Bool)
  /-- The output of a script. -/
  | output (script : String) (quoted : Bool)
  /-- The value of an arithmetic expression. -/
  | number (expression : List Piece) (quoted : Bool)

/-- A word before anything is filled in. -/
abbrev Word := List Piece

/-- The text of a word that holds nothing but unquoted text. -/
def literal? : Word → Option String
  | [] => some ""
  | .text cs false :: rest => (literal? rest).map fun s => String.ofList cs ++ s
  | _ => none

/-- A redirection: the descriptor, the operator and the target. -/
structure Redirect where
  descriptor : Nat
  operator : String
  target : Word

/-- A statement. Simple commands and loops know the line they stand in. -/
inductive Statement where
  | simple (line : Nat) (assignments : List (String × Word)) (words : List Word)
      (redirects : List Redirect)
  | both (first second : Statement)
  | either (first second : Statement)
  | negated (s : Statement)
  | pipeline (first second : Statement)
  | background (s : Statement)
  | group (body : List Statement)
  | subshell (body : List Statement)
  | branch (condition body otherwise : List Statement)
  | loop (ends : Bool) (condition body : List Statement)
  | each (line : Nat) (parameter : String) (items : Option (List Word)) (body : List Statement)
  | choice (line : Nat) (subject : Word) (arms : List (List Word × List Statement))
  | define (name : String) (body : Statement)
  | redirected (line : Nat) (s : Statement) (redirects : List Redirect)

/-- A word, an operator, or what stands before the operator of a redirection. -/
inductive Lexeme where
  | word (w : Word)
  | op (text : String)
  | redirect (descriptor : Option Nat) (operator : String)
  /-- The text cannot be read further. -/
  | broken (reason : String)
  | ended

/-- A lexeme and the line that it stands in. -/
structure Token where
  lexeme : Lexeme
  line : Nat

/-- Why a script cannot be read, and the line at which this shows. -/
structure SyntaxError where
  reason : String
  line : Nat
deriving DecidableEq, Repr

def startsName (c : Char) : Bool :=
  c.isAlpha || c == '_'

def isNameChar (c : Char) : Bool :=
  c.isAlphanum || c == '_'

def isName (cs : List Char) : Bool :=
  match cs with
  | [] => false
  | c :: cs => startsName c && cs.all isNameChar

/-- The parameters whose name is one special character or digit. -/
def isSpecial (c : Char) : Bool :=
  c.isDigit || ['#', '@', '*', '?', '$', '!', '-'].contains c

/-- A text without the blanks around it. -/
def trimmed (cs : List Char) : List Char :=
  ((cs.dropWhile Char.isWhitespace).reverse.dropWhile Char.isWhitespace).reverse

end Script

end Userland

end JobShell
