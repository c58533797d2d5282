import JobShell.Userland.Script.Basic

/-!
# Words and operators of scripts

`Script.tokens` cuts the text of a script into words and operators. The end of each line is an
operator of its own. The last token is the end of the text, or says why the text cannot be
read further, for instance because a quote is not closed.
-/

namespace JobShell

namespace Userland

namespace Script

/-- The sign before a command whose output is taken, in its old form. -/
def oldOutputSign : Char := Char.ofNat 96

/-- The text up to the sign that closes it, and the text after that sign. `depth` counts the
openings inside, `quote` is the quote that is open. -/
def untilClosing (opening closing : Char) :
    Nat → Option Char → List Char → Option (List Char × List Char)
  | _, _, [] => none
  | depth, quote, c :: cs =>
    let goOn (depth : Nat) (quote : Option Char) :=
      (untilClosing opening closing depth quote cs).map fun (inside, rest) => (c :: inside, rest)
    match quote with
    | some q => goOn depth (if c = q then none else quote)
    | none =>
      if c = '\'' ∨ c = '"' then goOn depth (some c)
      else if c = '\\' then
        match cs with
        | d :: cs =>
          (untilClosing opening closing depth none cs).map fun (inside, rest) =>
            (c :: d :: inside, rest)
        | [] => none
      else if c = closing then
        match depth with
        | 0 => some ([], cs)
        | depth + 1 => goOn depth none
      else if c = opening then goOn (depth + 1) none
      else goOn depth none

/-- The text up to the next old output sign, and the text after it. -/
def untilOldSign : List Char → Option (List Char × List Char)
  | [] => none
  | '\\' :: c :: cs =>
    (untilOldSign cs).map fun (inside, rest) =>
      (if c = oldOutputSign ∨ c = '\\' ∨ c = '$' then (c :: inside, rest)
        else ('\\' :: c :: inside, rest))
  | c :: cs =>
    if c = oldOutputSign then some ([], cs)
    else (untilOldSign cs).map fun (inside, rest) => (c :: inside, rest)

/-- Where pieces are read: in a word, between double quotes, in the braces of a parameter, or
in a text that is taken as if it stood between quotes. -/
inductive Context where
  | word
  | quotes
  | braces (quoted : Bool)
  | whole
deriving DecidableEq

/-- Whether what is read there is quoted. -/
def Context.isQuoted : Context → Bool
  | .word => false
  | .quotes => true
  | .braces quoted => quoted
  | .whole => true

def endsWord (c : Char) : Bool :=
  [' ', '\t', '\n', ';', '&', '|', '<', '>', '(', ')'].contains c

/-- The operator behind the name of a parameter in braces. -/
def readForm : List Char → Option (Form × List Char)
  | '}' :: rest => some (.plain, '}' :: rest)
  | ':' :: '-' :: rest => some (.orElse true, rest)
  | ':' :: '=' :: rest => some (.orAssign true, rest)
  | ':' :: '?' :: rest => some (.orFail true, rest)
  | ':' :: '+' :: rest => some (.instead true, rest)
  | '-' :: rest => some (.orElse false, rest)
  | '=' :: rest => some (.orAssign false, rest)
  | '?' :: rest => some (.orFail false, rest)
  | '+' :: rest => some (.instead false, rest)
  | '#' :: '#' :: rest => some (.withoutFront true, rest)
  | '#' :: rest => some (.withoutFront false, rest)
  | '%' :: '%' :: rest => some (.withoutBack true, rest)
  | '%' :: rest => some (.withoutBack false, rest)
  | _ => none

/-- The name of a parameter in front. -/
def readName : List Char → List Char × List Char
  | [] => ([], [])
  | c :: cs =>
    if startsName c then ((c :: cs).takeWhile isNameChar, (c :: cs).dropWhile isNameChar)
    else if c.isDigit then ((c :: cs).takeWhile Char.isDigit, (c :: cs).dropWhile Char.isDigit)
    else if isSpecial c then ([c], cs)
    else ([], c :: cs)

def unclosedQuote : String := "Unterminated quoted string"

def missingParenthesis : String := "end of file unexpected (expecting \")\")"

def missingBrace : String := "Missing '\x7d'"

mutual

/-- Reads pieces to the end of the context; what closes it is read too. -/
def readPieces : Nat → Context → List Char → Except String (Word × List Char)
  | 0, _, _ => .error unclosedQuote
  | fuel + 1, context, cs =>
    let quoted := context.isQuoted
    let goOn (p : Piece) (rest : List Char) : Except String (Word × List Char) := do
      let (ps, rest) ← readPieces fuel context rest
      return (p :: ps, rest)
    match cs with
    | [] =>
      match context with
      | .quotes | .braces true => .error unclosedQuote
      | .braces false => .error missingBrace
      | _ => .ok ([], [])
    | '\\' :: '\n' :: rest => readPieces fuel context rest
    | '\\' :: c :: rest =>
      if !quoted || ['$', '"', '\\', oldOutputSign].contains c ||
          (context = .braces true && c = '\x7d')
      then goOn (.text [c] true) rest
      else goOn (.text ['\\', c] true) rest
    | '$' :: rest => do
      let (p, rest) ← readDollar fuel quoted rest
      goOn p rest
    | c :: rest =>
      if c = oldOutputSign then
        match untilOldSign rest with
        | none => .error "EOF in backquote substitution"
        | some (inside, rest) => goOn (.output (String.ofList inside) quoted) rest
      else if c = '\'' ∧ !quoted then
        match rest.dropWhile fun d => d != '\'' with
        | [] => .error unclosedQuote
        | _ :: after => goOn (.text (rest.takeWhile fun d => d != '\'') true) after
      else if c = '"' ∧ context ≠ .whole then
        if context = .quotes then .ok ([], rest)
        else do
          let (inside, rest) ← readPieces fuel .quotes rest
          let (ps, rest) ← readPieces fuel context rest
          match inside with
          | [.parameter "@" .plain _ _] => return (inside ++ ps, rest)
          | inside => return (.text [] true :: inside ++ ps, rest)
      else if c = '\x7d' ∧ context = .braces quoted then .ok ([], rest)
      else if c = '\n' ∧ context = .braces false then .error missingBrace
      else if context = .word ∧ endsWord c then .ok ([], c :: rest)
      else goOn (.text [c] quoted) rest

/-- Reads what stands behind a dollar sign. -/
def readDollar : Nat → Bool → List Char → Except String (Piece × List Char)
  | 0, _, _ => .error unclosedQuote
  | fuel + 1, quoted, cs =>
    match cs with
    | '(' :: rest =>
      match untilClosing '(' ')' 0 none rest with
      | none => .error (if rest.head? = some '(' then "Missing '))'" else missingParenthesis)
      | some (inside, rest) =>
        if inside.head? = some '(' ∧ inside.getLast? = some ')' then do
          let (expression, _) ← readPieces fuel .whole (inside.drop 1).dropLast
          return (.number expression quoted, rest)
        else .ok (.output (String.ofList inside) quoted, rest)
    | '\x7b' :: '#' :: c :: rest =>
      let (name, after) := readName (c :: rest)
      match name, after with
      | _ :: _, '\x7d' :: after => .ok (.parameter (String.ofList name) .length [] quoted, after)
      | _, _ => readBraces fuel quoted ('#' :: c :: rest)
    | '\x7b' :: rest => readBraces fuel quoted rest
    | _ =>
      match cs with
      | c :: rest =>
        if startsName c then
          .ok (.parameter (String.ofList (cs.takeWhile isNameChar)) .plain [] quoted,
            cs.dropWhile isNameChar)
        else if isSpecial c then .ok (.parameter c.toString .plain [] quoted, rest)
        else .ok (.text ['$'] quoted, cs)
      | [] => .ok (.text ['$'] quoted, [])

/-- Reads a parameter in braces. -/
def readBraces : Nat → Bool → List Char → Except String (Piece × List Char)
  | 0, _, _ => .error unclosedQuote
  | fuel + 1, quoted, cs =>
    let (name, after) := readName cs
    match readForm after with
    | some (form, rest) => do
      let (operand, rest) ← readPieces fuel (.braces quoted) rest
      return (.parameter (String.ofList name) (if name.isEmpty then .unknown else form) operand
        quoted, rest)
    | none =>
      if after.isEmpty ∨ after.head? = some '\n' then .error missingBrace
      else do
        let (_, rest) ← readPieces fuel (.braces quoted) after
        return (.parameter (String.ofList name) .unknown [] quoted, rest)

end

/-- Operators, those of more characters first. -/
def operators : List String :=
  ["<<-", "&&", "||", ";;", ">>", "<<", ">&", "<&", "<>", ">|", "&", "|", ";", "<", ">", "(", ")"]

def redirects (operator : String) : Bool :=
  [">", ">>", "<", ">&", "<&", "<>", ">|", "<<", "<<-"].contains operator

/-- The text of a word without its quotes. -/
def bareText (w : Word) : List Char :=
  w.flatMap fun p =>
    match p with
    | .text cs _ => cs
    | _ => []

/-- The lines of an enclosed text up to the one that ends it, their number with that one, and
what follows; with `stripped` tabs in front of lines do not count. -/
def enclosedText (stripped : Bool) (mark : List Char) :
    List (List Char) → List Char × Nat × List (List Char)
  | [] => ([], 0, [])
  | line :: rest =>
    let line := if stripped then line.dropWhile fun c => c == '\t' else line
    if line = mark then ([], 1, rest)
    else
      let (text, count, rest) := enclosedText stripped mark rest
      (line ++ '\n' :: text, count + 1, rest)

/-- The lines of a text. A line feed at its end is followed by no further line. -/
def textLines (cs : List Char) : List (List Char) :=
  let lines := cs.splitOn '\n'
  if lines.getLast? = some [] then lines.dropLast else lines

/-- The pieces of an enclosed text: it is taken as it is if its mark is quoted. -/
def enclosedPieces (mark : Word) (text : List Char) : Word :=
  let plain := mark.all fun p =>
    match p with
    | .text _ quoted => !quoted
    | _ => false
  if plain then
    match readPieces (2 * text.length + 4) .whole text with
    | .ok (ps, _) => ps
    | .error _ => [.text text true]
  else [.text text true]

def operatorInFront? (cs : List Char) : Option String :=
  operators.find? fun o => o.toList.isPrefixOf cs

def lineFeeds (cs : List Char) : Nat :=
  cs.count '\n'

/-- Reads the tokens of a text that starts in the line of this number. `enclosed` lines have been
read ahead, which stand behind the next line feed. -/
def readTokens : Nat → Nat → Nat → List Char → List Token
  | 0, line, _, _ => [⟨.broken unclosedQuote, line⟩]
  | fuel + 1, line, enclosed, cs =>
    let redirect (descriptor : Option Nat) (o : String) (rest : List Char) : List Token :=
      if o = "<<" ∨ o = "<<-" then
        let rest := rest.dropWhile fun c => c == ' ' || c == '\t'
        match readPieces (2 * rest.length + 4) .word rest with
        | .error reason => [⟨.broken reason, line + lineFeeds rest⟩]
        | .ok (mark, rest) =>
          let here := rest.takeWhile fun c => c != '\n'
          let (text, count, after) :=
            enclosedText (o = "<<-") (bareText mark) (textLines (rest.drop (here.length + 1)))
          ⟨.redirect descriptor "<<", line⟩ :: ⟨.word (enclosedPieces mark text), line⟩ ::
            readTokens fuel line (enclosed + count)
              (here ++ '\n' :: after.flatMap fun l => l ++ ['\n'])
      else ⟨.redirect descriptor o, line⟩ :: readTokens fuel line enclosed rest
    match cs with
    | [] => [⟨.ended, line⟩]
    | '\\' :: '\n' :: rest => readTokens fuel (line + 1) enclosed rest
    | c :: rest =>
      if c = ' ' ∨ c = '\t' then readTokens fuel line enclosed rest
      else if c = '\n' then
        ⟨.op "\n", line⟩ :: readTokens fuel (line + 1 + enclosed) 0 rest
      else if c = '#' then readTokens fuel line enclosed (rest.dropWhile fun d => d != '\n')
      else
        match operatorInFront? cs with
        | some o =>
          let rest := cs.drop o.length
          if redirects o then redirect none o rest
          else ⟨.op o, line⟩ :: readTokens fuel line enclosed rest
        | none =>
          match readPieces (2 * cs.length + 4) .word cs with
          | .error reason =>
            [⟨.broken reason, if reason = missingBrace then line else line + lineFeeds cs⟩]
          | .ok (w, rest) =>
            let next := line + lineFeeds (cs.take (cs.length - rest.length))
            match (literal? w).map String.toList, operatorInFront? rest with
            | some [d], some o =>
              if d.isDigit ∧ redirects o then
                redirect (some (d.toNat - 48)) o (rest.drop o.length)
              else ⟨.word w, line⟩ :: readTokens fuel next enclosed rest
            | _, _ => ⟨.word w, line⟩ :: readTokens fuel next enclosed rest

def tokens (text : String) : List Token :=
  readTokens (2 * text.length + 2) 1 0 text.toList

end Script

end Userland

end JobShell
