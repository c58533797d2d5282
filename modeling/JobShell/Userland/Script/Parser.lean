import JobShell.Userland.Script.Lexer

/-!
# Reading scripts

`Script.readLine` reads the statements that stand in the next line of a script, and the further
lines that belong to them. A line that cannot be read is told of with the token that does not
fit, and with the one that was expected if there was just one.
-/

namespace JobShell

namespace Userland

namespace Script

/-- Reading that may fail. -/
abbrev Reads := Except SyntaxError

/-- The words with a meaning of their own where a command may start. -/
def reservedWords : List String :=
  ["if", "then", "else", "elif", "fi", "do", "done", "case", "esac", "while", "until", "for",
    "\x7b", "\x7d", "!", "in"]

def listEnds : List String :=
  ["then", "else", "elif", "fi", "do", "done", "esac", "\x7d", ")", ";;"]

/-- The text of the next token if it is an operator or a plain word. -/
def nextText? : List Token → Option String
  | ⟨.op o, _⟩ :: _ => some o
  | ⟨.word w, _⟩ :: _ => literal? w
  | _ => none

def nextLine : List Token → Nat
  | [] => 0
  | t :: _ => t.line

/-- The line in which a token that does not fit is told of: the end of a line is noticed in the
next one. -/
def faultLine : List Token → Nat
  | ⟨.op "\n", line⟩ :: _ => line + 1
  | ts => nextLine ts

/-- What is said of a token that does not fit. -/
def unexpectedText : List Token → String
  | ⟨.op "\n", _⟩ :: _ => "newline unexpected"
  | ⟨.op o, _⟩ :: _ => "\"" ++ o ++ "\" unexpected"
  | ⟨.redirect _ _, _⟩ :: _ => "redirection unexpected"
  | ⟨.broken reason, _⟩ :: _ => reason
  | ⟨.word w, _⟩ :: _ =>
    match (literal? w).filter reservedWords.contains with
    | some word => "\"" ++ word ++ "\" unexpected"
    | none => "word unexpected"
  | _ => "end of file unexpected"

def unexpected {α : Type} (ts : List Token) (expected : Option String) :
    Reads (α × List Token) :=
  let hint :=
    match expected, ts with
    | _, ⟨.broken _, _⟩ :: _ => ""
    | some "word", _ => " (expecting word)"
    | some text, _ => " (expecting \"" ++ text ++ "\")"
    | none, _ => ""
  .error ⟨unexpectedText ts ++ hint, faultLine ts⟩

/-- The tokens after the one with this text. -/
def expect (text : String) (ts : List Token) : Reads (List Token) :=
  if nextText? ts = some text then .ok (ts.drop 1)
  else (unexpected (α := Unit) ts (some text)).map Prod.snd

def skipNewlines : List Token → List Token
  | ⟨.op "\n", _⟩ :: rest => skipNewlines rest
  | ts => ts

def leadingWords : List Token → List Word × List Token
  | ⟨.word w, _⟩ :: rest =>
    let (words, rest) := leadingWords rest
    (w :: words, rest)
  | ts => ([], ts)

/-- The name and the value if a word is an assignment; `name` is what has been read of the
name. -/
def assignment? (name : List Char) : Word → Option (String × Word)
  | .text cs false :: rest =>
    match cs.dropWhile fun c => c != '=' with
    | '=' :: value =>
      let name := name ++ cs.takeWhile fun c => c != '='
      if isName name then some (String.ofList name, .text value false :: rest) else none
    | _ => assignment? (name ++ cs) rest
  | _ => none

/-- The redirection at the start of some tokens. -/
def readRedirect (descriptor : Option Nat) (operator : String) :
    List Token → Reads (Redirect × List Token)
  | ⟨.word target, _⟩ :: rest =>
    let usual := if ["<", "<&", "<>", "<<"].contains operator then 0 else 1
    .ok (⟨descriptor.getD usual, operator, target⟩, rest)
  | ts => unexpected ts none

def readRedirects : Nat → List Token → Reads (List Redirect × List Token)
  | 0, ts => unexpected ts none
  | fuel + 1, ts =>
    match ts with
    | ⟨.redirect descriptor operator, _⟩ :: rest => do
      let (r, rest) ← readRedirect descriptor operator rest
      let (rs, rest) ← readRedirects fuel rest
      return (r :: rs, rest)
    | ts => .ok ([], ts)

/-- A simple command under way. -/
structure SimpleParts where
  assignments : List (String × Word) := []
  words : List Word := []
  redirects : List Redirect := []

/-- Reads on in a simple command. -/
def readSimple : Nat → SimpleParts → List Token → Reads (SimpleParts × List Token)
  | 0, _, ts => unexpected ts none
  | fuel + 1, parts, ts =>
    match ts with
    | ⟨.redirect descriptor operator, _⟩ :: rest => do
      let (r, rest) ← readRedirect descriptor operator rest
      readSimple fuel { parts with redirects := parts.redirects ++ [r] } rest
    | ⟨.word w, _⟩ :: rest =>
      match parts.words, assignment? [] w with
      | [], some a => readSimple fuel { parts with assignments := parts.assignments ++ [a] } rest
      | _, _ => readSimple fuel { parts with words := parts.words ++ [w] } rest
    | ts => .ok (parts, ts)

/-- Reads the patterns of an arm up to the parenthesis behind them. -/
def readPatterns : Nat → List Token → Reads (List Word × List Token)
  | 0, ts => unexpected ts none
  | fuel + 1, ts =>
    match ts with
    | ⟨.word w, _⟩ :: ⟨.op "|", _⟩ :: rest => do
      let (ws, rest) ← readPatterns fuel rest
      return (w :: ws, rest)
    | ⟨.word w, _⟩ :: rest => do
      let rest ← expect ")" rest
      return ([w], rest)
    | ⟨.ended, _⟩ :: _ => unexpected ts (some ")")
    | ts => unexpected (ts.drop 1) (some ")")

def isAtEnd (ts : List Token) : Bool :=
  match ts with
  | ⟨.ended, _⟩ :: _ => true
  | [] => true
  | _ => false

def endsList (ts : List Token) : Bool :=
  isAtEnd ts || (nextText? ts).any listEnds.contains

mutual

/-- Reads statements up to a token that ends the list; there has to be one at least, unless the
text ends. -/
def readList : Nat → List Token → Reads (List Statement × List Token)
  | 0, ts => unexpected ts none
  | fuel + 1, ts => do
    let ts := skipNewlines ts
    if isAtEnd ts then return ([], ts)
    let (first, rest) ← readChain fuel ts
    let (statement, rest, separated) :=
      match rest with
      | ⟨.op "&", _⟩ :: rest => (Statement.background first, rest, true)
      | ⟨.op ";", _⟩ :: rest => (first, rest, true)
      | ⟨.op "\n", _⟩ :: rest => (first, rest, true)
      | rest => (first, rest, false)
    if !separated || endsList (skipNewlines rest) then
      return ([statement], if separated then skipNewlines rest else rest)
    else
      let (statements, rest) ← readList fuel rest
      return (statement :: statements, rest)

def readChain : Nat → List Token → Reads (Statement × List Token)
  | 0, ts => unexpected ts none
  | fuel + 1, ts => do
    let (first, rest) ← readPipeline fuel ts
    readChainFrom fuel first rest

/-- Reads on after the first command of a chain. -/
def readChainFrom : Nat → Statement → List Token → Reads (Statement × List Token)
  | 0, _, ts => unexpected ts none
  | fuel + 1, first, ts =>
    match ts with
    | ⟨.op "&&", _⟩ :: rest => do
      let (second, rest) ← readPipeline fuel (skipNewlines rest)
      readChainFrom fuel (.both first second) rest
    | ⟨.op "||", _⟩ :: rest => do
      let (second, rest) ← readPipeline fuel (skipNewlines rest)
      readChainFrom fuel (.either first second) rest
    | rest => .ok (first, rest)

def readPipeline : Nat → List Token → Reads (Statement × List Token)
  | 0, ts => unexpected ts none
  | fuel + 1, ts =>
    if nextText? ts = some "!" then do
      let (s, rest) ← readPipeline fuel (ts.drop 1)
      return (.negated s, rest)
    else do
      let (first, rest) ← readCommand fuel ts
      match rest with
      | ⟨.op "|", _⟩ :: rest => do
        let (second, rest) ← readPipeline fuel (skipNewlines rest)
        return (.pipeline first second, rest)
      | rest => return (first, rest)

def readCommand : Nat → List Token → Reads (Statement × List Token)
  | 0, ts => unexpected ts none
  | fuel + 1, ts =>
    let line := nextLine ts
    let redirectable (s : Statement) (rest : List Token) : Reads (Statement × List Token) := do
      let (redirects, rest) ← readRedirects fuel rest
      return (if redirects.isEmpty then s else .redirected line s redirects, rest)
    let keyword := nextText? ts
    let after := ts.drop 1
    if keyword = some "if" then do
      let (s, rest) ← readBranch fuel after
      redirectable s rest
    else if keyword = some "while" ∨ keyword = some "until" then do
      let (condition, rest) ← readList fuel after
      let rest ← expect "do" rest
      let (body, rest) ← readList fuel rest
      let rest ← expect "done" rest
      redirectable (.loop (keyword = some "until") condition body) rest
    else if keyword = some "for" then do
      let (s, rest) ← readEach fuel line after
      redirectable s rest
    else if keyword = some "case" then
      match after with
      | ⟨.word subject, _⟩ :: rest => do
        let rest ← expect "in" (skipNewlines rest)
        let (arms, rest) ← readArms fuel (skipNewlines rest)
        redirectable (.choice line subject arms) rest
      | rest => unexpected rest (some "word")
    else if keyword = some "(" then do
      let (body, rest) ← readList fuel after
      let rest ← expect ")" rest
      redirectable (.subshell body) rest
    else if keyword = some "\x7b" then do
      let (body, rest) ← readList fuel after
      let rest ← expect "\x7d" rest
      redirectable (.group body) rest
    else if keyword.any reservedWords.contains then unexpected ts none
    else
      match ts with
      | ⟨.word w, _⟩ :: ⟨.op "(", _⟩ :: ⟨.op ")", _⟩ :: rest =>
        match (literal? w).filter fun name => isName name.toList with
        | some name => do
          let (body, rest) ← readCommand fuel (skipNewlines rest)
          return (.define name body, rest)
        | none => .error ⟨"Bad function name", line⟩
      | ⟨.word w, _⟩ :: ⟨.op "(", _⟩ :: rest =>
        unexpected (if (assignment? [] w).isSome then ts.drop 1 else rest)
          (if (assignment? [] w).isSome then none else some ")")
      | _ => do
        let (parts, rest) ← readSimple (ts.length + 1) {} ts
        if parts.words.isEmpty && parts.assignments.isEmpty && parts.redirects.isEmpty then
          unexpected ts none
        else return (.simple line parts.assignments parts.words parts.redirects, rest)

def readBranch : Nat → List Token → Reads (Statement × List Token)
  | 0, ts => unexpected ts none
  | fuel + 1, ts => do
    let (condition, rest) ← readList fuel ts
    let rest ← expect "then" rest
    let (body, rest) ← readList fuel rest
    if nextText? rest = some "elif" then
      let (other, rest) ← readBranch fuel (rest.drop 1)
      return (.branch condition body [other], rest)
    else if nextText? rest = some "else" then
      let (otherwise, rest) ← readList fuel (rest.drop 1)
      let rest ← expect "fi" rest
      return (.branch condition body otherwise, rest)
    else
      let rest ← expect "fi" rest
      return (.branch condition body [], rest)

def readEach : Nat → Nat → List Token → Reads (Statement × List Token)
  | 0, _, ts => unexpected ts none
  | fuel + 1, line, ts =>
    match ts with
    | ⟨.word w, _⟩ :: rest =>
      match (literal? w).filter fun name => isName name.toList with
      | none => .error ⟨"Bad for loop variable", faultLine ts⟩
      | some name => do
        let rest := skipNewlines rest
        let (items, rest) :=
          if nextText? rest = some "in" then
            let (words, rest) := leadingWords (rest.drop 1)
            (some words, rest)
          else (none, rest)
        let rest :=
          match rest with
          | ⟨.op ";", _⟩ :: rest => rest
          | rest => rest
        let rest ← expect "do" (skipNewlines rest)
        let (body, rest) ← readList fuel rest
        let rest ← expect "done" rest
        return (.each line name items body, rest)
    | ts => .error ⟨"Bad for loop variable", faultLine ts⟩

def readArms : Nat → List Token → Reads (List (List Word × List Statement) × List Token)
  | 0, ts => unexpected ts none
  | fuel + 1, ts =>
    if nextText? ts = some "esac" then .ok ([], ts.drop 1)
    else do
      let ts := if nextText? ts = some "(" then ts.drop 1 else ts
      let (patterns, rest) ← readPatterns fuel ts
      let rest := skipNewlines rest
      let (body, rest) ← if endsList rest then .ok ([], rest) else readList fuel rest
      if nextText? rest = some ";;" then
        let (arms, rest) ← readArms fuel (skipNewlines (rest.drop 1))
        return ((patterns, body) :: arms, rest)
      else
        if nextText? rest = some "esac" then return ([(patterns, body)], rest.drop 1)
        else unexpected rest (some ";;")

end

def readChains : Nat → List Token → Reads (List Statement × List Token)
  | 0, ts => unexpected ts none
  | fuel + 1, ts => do
    let (first, rest) ← readChain fuel ts
    let goOn (s : Statement) (rest : List Token) : Reads (List Statement × List Token) :=
      match rest with
      | ⟨.op "\n", _⟩ :: rest => .ok ([s], rest)
      | ⟨.ended, _⟩ :: _ => .ok ([s], rest)
      | rest => do
        let (ss, rest) ← readChains fuel rest
        return (s :: ss, rest)
    match rest with
    | ⟨.op "&", _⟩ :: rest => goOn (.background first) rest
    | ⟨.op ";", _⟩ :: rest => goOn first rest
    | ⟨.op "\n", _⟩ :: rest => return ([first], rest)
    | ⟨.ended, _⟩ :: _ => return ([first], rest)
    | rest => unexpected rest none

/-- Reads the statements of the next line; none are left at the end of the text. -/
def readLine (ts : List Token) : Reads (List Statement × List Token) :=
  match skipNewlines ts with
  | [] => .ok ([], [])
  | ⟨.ended, _⟩ :: _ => .ok ([], [])
  | ts => readChains (8 * ts.length + 8) ts

/-- The lines of a script up to its end or to the first that cannot be read. -/
def readLines : Nat → List Token → List (List Statement) × Option SyntaxError
  | 0, _ => ([], none)
  | fuel + 1, ts =>
    match readLine ts with
    | .error e => ([], some e)
    | .ok ([], _) => ([], none)
    | .ok (statements, rest) =>
      let (lines, e) := readLines fuel rest
      (statements :: lines, e)

def parse (text : String) : List (List Statement) × Option SyntaxError :=
  let ts := tokens text
  readLines (ts.length + 1) ts

end Script

end Userland

end JobShell
