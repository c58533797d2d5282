import JobShell.Userland.Script.Basic
import JobShell.Userland.Utilities

/-!
# Arithmetic of scripts

The value of an arithmetic expression: whole numbers, names of parameters, the usual operators
with their precedence, parentheses, choices and assignments.
-/

namespace JobShell

namespace Userland

namespace Script

namespace Arithmetic

/-- A part of an expression. -/
inductive Lexeme where
  | number (n : Int)
  | name (s : String)
  | op (text : String)
deriving DecidableEq, Repr

/-- The operators of two operands, those that bind most loosely first. -/
def levels : List (List String) :=
  [["||"], ["&&"], ["|"], ["^"], ["&"], ["==", "!="], ["<=", ">=", "<", ">"], ["<<", ">>"],
    ["+", "-"], ["*", "/", "%"]]

/-- The operators that give a parameter a value, each with the operator that it applies
first. -/
def assigning : List (String × Option String) :=
  [("=", none), ("+=", some "+"), ("-=", some "-"), ("*=", some "*"), ("/=", some "/"),
    ("%=", some "%"), ("<<=", some "<<"), (">>=", some ">>"), ("&=", some "&"), ("|=", some "|"),
    ("^=", some "^")]

def operators : List String :=
  ["<<=", ">>=", "||", "&&", "==", "!=", "<=", ">=", "<<", ">>", "+=", "-=", "*=", "/=", "%=",
    "&=", "|=", "^="]

/-- The value of digits and letters that stand together: octal behind a zero, and hexadecimal
behind a zero and an `x`. -/
def readNumber? (cs : List Char) : Option Nat :=
  let inBase (base : Nat) (cs : List Char) : Option Nat := do
    let digits ← cs.mapM (digit? base)
    return digits.foldl (fun n d => n * base + d) 0
  match cs with
  | '0' :: 'x' :: c :: cs | '0' :: 'X' :: c :: cs => inBase 16 (c :: cs)
  | '0' :: c :: cs => inBase 8 (c :: cs)
  | cs => Text.readNat? cs

/-- The parts of an expression. What is no number of any base ends as an operator, which fits
nowhere. -/
def lexemes : Nat → List Char → List Lexeme
  | 0, _ => []
  | _, [] => []
  | fuel + 1, c :: cs =>
    if c.isWhitespace then lexemes fuel cs
    else if c.isDigit then
      let digits := (c :: cs).takeWhile Char.isAlphanum
      let rest := lexemes fuel ((c :: cs).drop digits.length)
      match readNumber? digits with
      | some n => .number n :: rest
      | none => .number 0 :: .op (String.ofList digits) :: rest
    else if c.isAlpha ∨ c = '_' then
      let name := (c :: cs).takeWhile fun d => d.isAlphanum || d == '_'
      .name (String.ofList name) :: lexemes fuel ((c :: cs).drop name.length)
    else
      match operators.find? fun o => o.toList.isPrefixOf (c :: cs) with
      | some o => .op o :: lexemes fuel ((c :: cs).drop o.length)
      | none => .op c.toString :: lexemes fuel cs

/-- Why an expression has no value. -/
inductive Fault where
  | expectingPrimary
  | expectingEnd
  | expectingParenthesis
  | expectingColon
  | divisionByZero
  /-- The value of a parameter is no number. -/
  | illegalNumber (text : String)
deriving DecidableEq, Repr

/-- What is said of a fault in an expression. -/
def Fault.message (expression : String) : Fault → String
  | expectingPrimary => within "expecting primary"
  | expectingEnd => within "expecting EOF"
  | expectingParenthesis => within "expecting ')'"
  | expectingColon => within "expecting ':'"
  | divisionByZero => within "division by zero"
  | illegalNumber text => "Illegal number: " ++ text
where
  /-- The text with the expression. -/
  within (text : String) : String :=
    "arithmetic expression: " ++ text ++ ": \"" ++ expression ++ "\""

/-- The number that a value stands for; none and an empty one stand for zero. -/
def numberOf (value : Option String) : Except Fault Int :=
  let text := value.getD ""
  let (sign, digits) : Int × List Char :=
    match trimmed text.toList with
    | '-' :: cs => (-1, cs)
    | '+' :: cs => (1, cs)
    | cs => (1, cs)
  if text.isEmpty then .ok 0
  else
    match readNumber? digits with
    | some n => .ok (sign * n)
    | none => .error (.illegalNumber text)

def truth (b : Bool) : Int :=
  if b then 1 else 0

/-- The value of an operator for two operands, in words of 64 bits. -/
def apply (operator : String) (a b : Int) : Except Fault Int :=
  match operator with
  | "||" => .ok (truth (a != 0 || b != 0))
  | "&&" => .ok (truth (a != 0 && b != 0))
  | "==" => .ok (truth (a == b))
  | "!=" => .ok (truth (a != b))
  | "<=" => .ok (truth (a ≤ b))
  | ">=" => .ok (truth (b ≤ a))
  | "<" => .ok (truth (a < b))
  | ">" => .ok (truth (b < a))
  | "+" => .ok (a.toInt64 + b.toInt64).toInt
  | "-" => .ok (a.toInt64 - b.toInt64).toInt
  | "*" => .ok (a.toInt64 * b.toInt64).toInt
  | "/" => if b = 0 then .error .divisionByZero else .ok (a.tdiv b)
  | "%" => if b = 0 then .error .divisionByZero else .ok (a.tmod b)
  | "<<" => .ok (a.toInt64 <<< b.toInt64).toInt
  | ">>" => .ok (a.toInt64 >>> b.toInt64).toInt
  | "&" => .ok ((a.toInt64 &&& b.toInt64).toInt)
  | "|" => .ok ((a.toInt64 ||| b.toInt64).toInt)
  | "^" => .ok ((a.toInt64 ^^^ b.toInt64).toInt)
  | _ => .error .expectingPrimary

/-- An evaluation, which keeps the values given to parameters, the latest first. -/
abbrev Evaluation := StateT (List (String × Int)) (Except Fault)

def lookup (value : String → Option String) (name : String) : Evaluation Int := do
  match (← get).find? fun a => a.1 == name with
  | some (_, n) => return n
  | none => liftM (numberOf (value name))

/-- Applies an operator, unless the value is not needed. -/
def applyIf (needed : Bool) (operator : String) (a b : Int) : Evaluation Int :=
  if needed then liftM (apply operator a b) else return 0

mutual

/-- The value of an expression, which may give a parameter a value, and what follows it. What
is not `needed` is only read. -/
def assignment (value : String → Option String) : Nat → Bool → List Lexeme →
    Evaluation (Int × List Lexeme)
  | 0, _, _ => throw .expectingPrimary
  | fuel + 1, needed, ls =>
    match ls with
    | .name name :: .op o :: rest =>
      match assigning.find? fun a => a.1 == o with
      | none => conditional value fuel needed ls
      | some (_, applied) => do
        let (b, rest) ← assignment value fuel needed rest
        let n ← match applied with
          | none => pure b
          | some o => do applyIf needed o (← lookup value name) b
        if needed then modify ((name, n) :: ·)
        return (n, rest)
    | ls => conditional value fuel needed ls

/-- The value of an expression that may choose between two others. -/
def conditional (value : String → Option String) : Nat → Bool → List Lexeme →
    Evaluation (Int × List Lexeme)
  | 0, _, _ => throw .expectingPrimary
  | fuel + 1, needed, ls => do
    let (c, rest) ← binary value fuel needed levels ls
    match rest with
    | .op "?" :: rest =>
      let (a, rest) ← assignment value fuel (needed && c != 0) rest
      match rest with
      | .op ":" :: rest =>
        let (b, rest) ← conditional value fuel (needed && c == 0) rest
        return (if c = 0 then b else a, rest)
      | _ => throw .expectingColon
    | rest => return (c, rest)

/-- The value of an expression of the given levels, and what follows it. -/
def binary (value : String → Option String) :
    Nat → Bool → List (List String) → List Lexeme →
    Evaluation (Int × List Lexeme)
  | 0, _, _, _ => throw .expectingPrimary
  | fuel + 1, needed, [], ls => unary value fuel needed ls
  | fuel + 1, needed, level :: tighter, ls => do
    let (a, rest) ← binary value fuel needed tighter ls
    binaryFrom value fuel needed level tighter a rest

/-- Reads on after the first operand of a level. -/
def binaryFrom (value : String → Option String) :
    Nat → Bool → List String → List (List String) → Int →
    List Lexeme → Evaluation (Int × List Lexeme)
  | 0, _, _, _, _, _ => throw .expectingPrimary
  | fuel + 1, needed, level, tighter, a, .op o :: rest =>
    if level.contains o then do
      let decided := (o = "||" ∧ a ≠ 0) ∨ (o = "&&" ∧ a = 0)
      let (b, rest) ← binary value fuel (needed && !decided) tighter rest
      let c ← applyIf needed o a b
      binaryFrom value fuel needed level tighter c rest
    else return (a, .op o :: rest)
  | _, _, _, _, a, rest => return (a, rest)

/-- The value of a number, a parameter, an expression in parentheses, or one with a sign. -/
def unary (value : String → Option String) :
    Nat → Bool → List Lexeme → Evaluation (Int × List Lexeme)
  | 0, _, _ => throw .expectingPrimary
  | _, _, .number n :: rest => return (n, rest)
  | _, _, .name s :: rest => do return (← lookup value s, rest)
  | fuel + 1, needed, .op "-" :: rest => do
    let (n, rest) ← unary value fuel needed rest
    return (-n, rest)
  | fuel + 1, needed, .op "+" :: rest => unary value fuel needed rest
  | fuel + 1, needed, .op "!" :: rest => do
    let (n, rest) ← unary value fuel needed rest
    return (truth (n == 0), rest)
  | fuel + 1, needed, .op "~" :: rest => do
    let (n, rest) ← unary value fuel needed rest
    return (-n - 1, rest)
  | fuel + 1, needed, .op "(" :: rest => do
    match ← assignment value fuel needed rest with
    | (n, .op ")" :: rest) => return (n, rest)
    | _ => throw .expectingParenthesis
  | _, _, _ => throw .expectingPrimary

end

/-- The value of the text of an expression and the values that it gives to parameters, the
latest first; an empty text has the value zero. -/
def evaluate (value : String → Option String) (text : String) :
    Except Fault (Int × List (String × Int)) :=
  match lexemes (text.length + 1) text.toList with
  | [] => .ok (0, [])
  | ls =>
    match (assignment value (16 * ls.length + 32) true ls).run [] with
    | .ok ((n, []), assigned) => .ok (n, assigned)
    | .ok _ => .error .expectingEnd
    | .error fault => .error fault

end Arithmetic

end Script

end Userland

end JobShell
