import JobShell.Userland.Script.Arithmetic
import JobShell.Userland.Script.State
import JobShell.Userland.Utilities

/-!
# Commands of the interpreter

The commands that a script has without starting a program and that neither change the course
of the script nor start anything (`plainCommand?`). Each takes its arguments and the state, and
gives the new state or the text of a complaint.
-/

namespace JobShell

namespace Userland

namespace Script

abbrev OwnCommand := List String → State → Except String State

/-- `echo`: the arguments with their escapes replaced. -/
def ownEcho : OwnCommand := fun words s =>
  let (newline, words) :=
    match words with
    | "-n" :: rest => (false, rest)
    | words => (true, words)
  .ok ((s.mapProcess fun p => p.write (echoEscaped false newline words)).withStatus 0)

/-! ## Tests -/

def unaryTests : List String :=
  ["-e", "-f", "-d", "-s", "-r", "-w", "-x", "-z", "-n", "-L", "-h", "-p", "-b", "-c", "-S", "-t",
    "-u", "-g", "-k"]

def binaryTests : List String :=
  ["=", "!=", "<", ">", "-eq", "-ne", "-lt", "-le", "-gt", "-ge", "-ef", "-nt", "-ot"]

/-- The files with the processes and the standard descriptors of the script among them. -/
def filesSeen (p : Process) : FileSystem :=
  p.processes.foldl (fun fs pid => fs.put ["proc", toString pid] .directory)
    (p.showDescriptors (toString p.execution.pid))

def nodeNamed? (p : Process) (name : String) : Option (Path × Node) :=
  ((filesSeen p).find p.execution.directory name).toOption

/-- Whether a name leads to a node that may be used in this way. -/
def isPermitted (p : Process) (name : String) (access : Access) : Bool :=
  match nodeNamed? p name with
  | none => false
  | some (path, .directory) => (p.files.permit path access).toOption.isSome
  | some (path, .program _) => access != .write && (p.files.permit path access).toOption.isSome
  | some (path, _) => access != .execute && (p.files.permit path access).toOption.isSome

def testUnary (p : Process) (test operand : String) : Bool :=
  let node := (nodeNamed? p operand).map Prod.snd
  match test with
  | "-z" => operand.isEmpty
  | "-n" => !operand.isEmpty
  | "-d" => node == some .directory
  | "-c" =>
    match node with
    | some (.device _) => true
    | _ => false
  | "-f" =>
    match node with
    | some (.file _) | some (.program _) => true
    | _ => false
  | "-s" =>
    match node with
    | some (.file content) => !content.isEmpty
    | some .directory | some (.program _) => true
    | _ => false
  | "-L" | "-h" =>
    match (filesSeen p).findLink p.execution.directory operand with
    | .ok (_, .link _) => true
    | _ => false
  | "-e" => node.isSome
  | "-r" => isPermitted p operand .read
  | "-w" => isPermitted p operand .write
  | "-x" => isPermitted p operand .execute
  | _ => false

/-- A whole number as an operand of a test. -/
def testNumber (text : String) : Except String Int :=
  match Text.readSigned? (trimmed text.toList) with
  | some n => .ok n
  | none => .error ("Illegal number: " ++ text)

/-- A test of two operands. Files have no age. -/
def testBinary (p : Process) (a test b : String) : Except String Bool :=
  match test with
  | "-ef" =>
    match nodeNamed? p a, nodeNamed? p b with
    | some (left, _), some (right, _) => .ok (left == right)
    | _, _ => .ok false
  | "-nt" | "-ot" => .ok false
  | "=" => .ok (a == b)
  | "!=" => .ok (a != b)
  | "<" => .ok (!bytesLe (Text.encode b) (Text.encode a))
  | ">" => .ok (!bytesLe (Text.encode a) (Text.encode b))
  | _ => do
    let a ← testNumber a
    let b ← testNumber b
    return match test with
      | "-eq" => a == b
      | "-ne" => a != b
      | "-lt" => a < b
      | "-le" => a ≤ b
      | "-gt" => b < a
      | _ => b ≤ a

/-- A test with what follows it. -/
abbrev Tests := Except String (Bool × List String)

mutual

/-- Tests joined by `-o`. -/
def testEither (p : Process) : Nat → List String → Tests
  | 0, ws => .ok (false, ws)
  | fuel + 1, ws => do
    let (a, rest) ← testBoth p fuel ws
    match rest with
    | "-o" :: rest => do
      let (b, rest) ← testEither p fuel rest
      return (a || b, rest)
    | rest => return (a, rest)

/-- Tests joined by `-a`. -/
def testBoth (p : Process) : Nat → List String → Tests
  | 0, ws => .ok (false, ws)
  | fuel + 1, ws => do
    let (a, rest) ← testNot p fuel ws
    match rest with
    | "-a" :: rest => do
      let (b, rest) ← testBoth p fuel rest
      return (a && b, rest)
    | rest => return (a, rest)

/-- A test, perhaps with `!` in front. -/
def testNot (p : Process) : Nat → List String → Tests
  | 0, ws => .ok (false, ws)
  | fuel + 1, ws =>
    match ws with
    | [] => .ok (false, [])
    | ["!"] => .ok (true, [])
    | "!" :: rest =>
      if isOperand ws then testPrimary p fuel ws
      else do
        let (a, rest) ← testNot p fuel rest
        return (!a, rest)
    | ws => testPrimary p fuel ws
where
  /-- Whether the first word is the operand of a test of two. -/
  isOperand (ws : List String) : Bool :=
    match ws with
    | _ :: test :: _ :: _ => binaryTests.contains test
    | _ => false

def testPrimary (p : Process) : Nat → List String → Tests
  | 0, ws => .ok (false, ws)
  | fuel + 1, ws =>
    match ws with
    | [] => .ok (false, [])
    | [word] => .ok (!word.isEmpty, [])
    | a :: test :: b :: rest =>
      if binaryTests.contains test then do return (← testBinary p a test b, rest)
      else if a = "(" then do
        let (inner, rest) ← testEither p fuel (test :: b :: rest)
        match rest with
        | ")" :: rest => return (inner, rest)
        | _ => .error "closing paren expected"
      else if unaryTests.contains a then .ok (testUnary p a test, b :: rest)
      else .ok (!a.isEmpty, test :: b :: rest)
    | [a, b] =>
      if unaryTests.contains a then .ok (testUnary p a b, [])
      else if binaryTests.contains b then .error (b ++ ": argument expected")
      else .ok (!a.isEmpty, [b])

end

/-- The outcome of a test. Two or three words are read in the way that fits them best. -/
def testWords (p : Process) : List String → Except String Bool
  | [] => .ok false
  | words => do
    let whole (ws : List String) : Except String Bool := do
      let (value, rest) ← testEither p (4 * ws.length + 4) ws
      if rest.isEmpty then return value
      else
        let last := ws.getD (ws.length - rest.length - 1) ""
        .error (last ++ ": unexpected operator")
    match words with
    | ["!", word] => return word.isEmpty
    | ["!", a, b] => return !(← whole [a, b])
    | [a, test, b] => if binaryTests.contains test then testBinary p a test b else whole words
    | words => whole words

/-- `test`, also under its name that is an opening bracket. -/
def ownTest (bracket : Bool) : OwnCommand := fun words s => do
  let words ←
    if !bracket then .ok words
    else if words.getLast? = some "]" then .ok words.dropLast
    else .error "missing ]"
  let value ← testWords s.process words
  return s.withStatus (if value then 0 else 1)

/-! ## Directories -/

/-- `pwd`: the directory that the script is in. -/
def ownPwd : OwnCommand := fun _ s =>
  .ok ((s.mapProcess fun p => p.print (s.here ++ "\n")).withStatus 0)

/-- `cd`: enters a directory, the one of the user if none is named, and the one before for a
hyphen. The way there is read off the text, so that names on it that are left again need not
exist. -/
def ownCd : OwnCommand := fun words s =>
  let words := if words.head? = some "--" then words.drop 1 else words
  let here := s.here
  let (name, told) :=
    match words with
    | [] => ((s.value? "HOME").getD "", false)
    | "-" :: _ => ((s.value? "OLDPWD").getD here, true)
    | name :: _ => (name, false)
  let directory := s.process.execution.directory
  let target :=
    if s.here.isEmpty then name
    else if name.isEmpty then s.here
    else Path.text (Path.ofText directory name)
  match s.process.files.enterDirectory directory target with
  | .error _ => .error ("can't cd to " ++ name)
  | .ok path =>
    let s := s.mapProcess fun p => { p with execution := { p.execution with directory := path } }
    let s := ({ s with here := Path.text path }.assign "OLDPWD" here).assign "PWD" (Path.text path)
    let s := if told then s.mapProcess fun p => p.print (Path.text path ++ "\n") else s
    .ok (s.withStatus 0)

/-! ## Variables -/

/-- Whether a separator of fields is a blank. -/
def isBlankSeparator (separators : List Char) (c : Char) : Bool :=
  c.isWhitespace && separators.contains c

/-- Divides a line among names; the last one takes all that is left. -/
def divide (separators : List Char) : List String → List Char → List (String × String)
  | [], _ => []
  | [name], cs =>
    let cs := cs.dropWhile (isBlankSeparator separators)
    [(name, String.ofList (cs.reverse.dropWhile (isBlankSeparator separators)).reverse)]
  | name :: names, cs =>
    let cs := cs.dropWhile (isBlankSeparator separators)
    let field := cs.takeWhile fun c => !separators.contains c
    let after := (cs.drop field.length).dropWhile (isBlankSeparator separators)
    let after :=
      match after with
      | c :: rest => if separators.contains c then rest else after
      | [] => []
    (name, String.ofList field) :: divide separators names after

/-- A line without the backslashes that take away the meaning of a character. -/
def withoutBackslashes : List Char → List Char
  | '\\' :: c :: cs => c :: withoutBackslashes cs
  | ['\\'] => []
  | c :: cs => c :: withoutBackslashes cs
  | [] => []

/-- `read`: a line of standard input, divided among variables. -/
def ownRead : OwnCommand := fun words s =>
  let (raw, names) :=
    match words with
    | "-r" :: rest => (true, rest)
    | words => (false, words)
  if names.isEmpty then .error "arg count"
  else
    let (bytes, p) := s.process.readFrom 0 true
    let bytes := bytes.toOption.getD []
    let complete := bytes.getLast? == some 10
    let line := (Text.decodeLossy (if complete then bytes.dropLast else bytes)).toList
    let s := { s with process := p }
    let s := (divide s.separators names (if raw then line else withoutBackslashes line)).foldl
      (fun s (name, value) => s.assign name value) s
    .ok (s.withStatus (if complete then 0 else 1))

def binding (word : String) : String × Option String :=
  let name := word.toList.takeWhile fun c => c != '='
  (String.ofList name,
    if name.length < word.length then some (String.ofList (word.toList.drop (name.length + 1)))
    else none)

/-- Gives variables values and does something with each of them. -/
def eachBinding (change : State → String → State) : OwnCommand := fun words s => do
  let s ← words.foldlM (fun s word =>
    let (name, value) := binding word
    if !isName name.toList then .error (name ++ ": bad variable name")
    else
      match value with
      | some value =>
        if s.fixed.contains name then .error (name ++ ": is read only")
        else .ok (change (s.assign name value) name)
      | none => .ok (change s name)) s
  return s.withStatus 0

/-- `export`: hands variables to the programs that are started from now on. -/
def ownExport : OwnCommand := fun words s =>
  eachBinding State.exportName (words.filter fun w => w != "-p") s

/-- `readonly`: variables that cannot be changed any more. -/
def ownReadonly : OwnCommand :=
  eachBinding fun s name => { s with fixed := name :: s.fixed }

/-- `local`: variables that a function has for itself. -/
def ownLocal : OwnCommand := fun words s =>
  if !s.inFunction then .error "not in a function"
  else eachBinding (fun s _ => s) words
    (words.foldl (fun s word =>
      let name := (binding word).1
      { s with saved := s.saved ++ [(name, s.lookup? name)] }) s)

def ownUnset : OwnCommand := fun words s =>
  let (functions, words) :=
    match words with
    | "-f" :: rest => (true, rest)
    | "-v" :: rest => (false, rest)
    | words => (false, words)
  match words.find? fun name => !functions && !isName name.toList with
  | some name => .error (name ++ ": bad variable name")
  | none =>
    match words.find? fun name => !functions && s.fixed.contains name with
    | some name => .error (name ++ ": is read only")
    | none =>
      .ok ((words.foldl (fun s name =>
        if functions then { s with functions := s.functions.filter fun f => f.1 != name }
        else s.forget name) s).withStatus 0)

def ownShift : OwnCommand := fun words s =>
  let count := (words.head?.map argumentNumber?).getD (some 1)
  match count with
  | none => .error ("Illegal number: " ++ words.headD "")
  | some n =>
    if s.parameters.length < n then .error "can't shift that many"
    else .ok ({ s with parameters := s.parameters.drop n }.withStatus 0)

def setOption (on : Bool) (s : State) (letter : Char) : Except String State :=
  match letter with
  | 'e' => .ok { s with failsFast := on }
  | 'u' => .ok { s with strict := on }
  | 'f' => .ok { s with literally := on }
  | c =>
    if "abCEfhIilmnpstVvx".toList.contains c then .ok s
    else .error ("Illegal option " ++ (if on then "-" else "+") ++ c.toString)

/-- `set`: options and parameters. -/
def ownSet : OwnCommand := fun words s => do
  match words with
  | "--" :: rest => return { s with parameters := rest }.withStatus 0
  | word :: rest =>
    match word.toList with
    | '-' :: c :: cs => ownSet rest (← (c :: cs).foldlM (setOption true) s)
    | '+' :: c :: cs => ownSet rest (← (c :: cs).foldlM (setOption false) s)
    | _ => return { s with parameters := word :: rest }.withStatus 0
  | [] => return s.withStatus 0

/-! ## Formatted output -/

/-- How a value is written. -/
structure Directive where
  left : Bool := false
  zeros : Bool := false
  plus : Bool := false
  width : Nat := 0
  precision : Option Nat := none

def Directive.pad (d : Directive) (text : String) : String :=
  let fill := d.width - text.length
  if d.left then text ++ "".pushn ' ' fill else "".pushn ' ' fill ++ text

def Directive.number (d : Directive) (base : Nat) (capitals : Bool) (n : Int) : String :=
  let digits := String.ofList (Nat.toDigits base n.natAbs)
  let digits := if capitals then digits.toUpper else digits
  let digits := "".pushn '0' (d.precision.getD 1 - digits.length) ++ digits
  let sign := if n < 0 then "-" else if d.plus then "+" else ""
  let zeros := if d.zeros ∧ !d.left ∧ d.precision.isNone then d.width - sign.length - digits.length
    else 0
  d.pad (sign ++ "".pushn '0' zeros ++ digits)

/-- The flags, the width and the precision of a directive, and what follows them. -/
def readDirective (cs : List Char) : Directive × List Char :=
  let flags := cs.takeWhile fun c => c == '-' || c == '0' || c == '+' || c == ' ' || c == '#'
  let cs := cs.drop flags.length
  let width := cs.takeWhile Char.isDigit
  let cs := cs.drop width.length
  let (precision, cs) :=
    match cs with
    | '.' :: cs =>
      (some (Text.digitsValue (cs.takeWhile Char.isDigit)), cs.dropWhile Char.isDigit)
    | cs => (none, cs)
  (⟨flags.contains '-', flags.contains '0', flags.contains '+', Text.digitsValue width, precision⟩,
    cs)

/-- What has been written, the arguments left, and the arguments that are no numbers. -/
structure Formatted where
  out : Bytes := []
  left : List String
  unfit : List String := []
  ended : Bool := false

def Formatted.write (r : Formatted) (bytes : Bytes) : Formatted :=
  { r with out := r.out ++ bytes }

/-- One value of an argument, which is absent behind the last one. -/
def Formatted.convert (r : Formatted) (d : Directive) (letter : Char) : Formatted :=
  let argument := r.left.headD ""
  let r := { r with left := r.left.drop 1 }
  let cut (text : String) : String :=
    match d.precision with
    | some n => String.ofList (text.toList.take n)
    | none => text
  let number (base : Nat) (capitals : Bool) : Formatted :=
    let (sign, digits) : Int × List Char :=
      match argument.toList with
      | '-' :: cs => (-1, cs)
      | '+' :: cs => (1, cs)
      | cs => (1, cs)
    match (Arithmetic.readNumber? digits).map fun n => sign * n with
    | some n => r.write (Text.encode (d.number base capitals n))
    | none =>
      let r := if argument.isEmpty then r else { r with unfit := r.unfit ++ [argument] }
      r.write (Text.encode (d.number base capitals 0))
  match letter with
  | 's' => r.write (Text.encode (d.pad (cut argument)))
  | 'c' => r.write (Text.encode (d.pad (String.ofList (argument.toList.take 1))))
  | 'b' =>
    let (bytes, stop) := unescape false 0 argument.toList
    { r.write bytes with ended := stop }
  | 'd' | 'i' | 'u' => number 10 false
  | 'o' => number 8 false
  | 'x' => number 16 false
  | 'X' => number 16 true
  | _ => r

/-- Works a format off once; `fuel` bounds its length. -/
def formatOnce : Nat → List Char → Formatted → Formatted
  | 0, _, r => r
  | _, [], r => r
  | fuel + 1, '%' :: '%' :: cs, r => formatOnce fuel cs (r.write [37])
  | fuel + 1, '%' :: cs, r =>
    let (d, rest) := readDirective cs
    match rest with
    | [] => r
    | letter :: rest =>
      let r := r.convert d letter
      if r.ended then r else formatOnce fuel rest r
  | fuel + 1, cs, r =>
    let plain := cs.takeWhile fun c => c != '%'
    let (bytes, stop) := unescape false 0 plain
    let r := r.write bytes
    if stop then { r with ended := true } else formatOnce fuel (cs.drop plain.length) r

/-- Works a format off again as long as it takes arguments. -/
def formatAll (format : List Char) : Nat → Formatted → Formatted
  | 0, r => r
  | turns + 1, r =>
    let after := formatOnce (format.length + 1) format r
    if after.ended ∨ after.left.isEmpty ∨ after.left.length = r.left.length then after
    else formatAll format turns after

def ownPrintf : OwnCommand := fun words s =>
  match (if words.head? = some "--" then words.drop 1 else words) with
  | [] => .error "usage: printf format [arg ...]"
  | format :: values =>
    let r := formatAll format.toList (values.length + 1) { left := values }
    let s := r.unfit.foldl
      (fun s word => s.warn ("printf: " ++ word ++ ": expected numeric value")) s
    .ok ((s.mapProcess fun p => p.write r.out).withStatus (if r.unfit.isEmpty then 0 else 1))

/-! ## The table -/

/-- The commands whose complaints end the script. -/
def specialNames : List String :=
  [".", ":", "break", "continue", "eval", "exec", "exit", "export", "readonly", "return", "set",
    "shift", "times", "trap", "unset", "local"]

def constant (code : Nat) : OwnCommand := fun _ s =>
  .ok (s.withStatus code)

/-- A command of the interpreter that does not change the course of the script. -/
def plainCommand? : String → Option OwnCommand
  | ":" => some (constant 0)
  | "true" => some (constant 0)
  | "false" => some (constant 1)
  | "echo" => some ownEcho
  | "test" => some (ownTest false)
  | "[" => some (ownTest true)
  | "pwd" => some ownPwd
  | "cd" => some ownCd
  | "chdir" => some ownCd
  | "read" => some ownRead
  | "export" => some ownExport
  | "readonly" => some ownReadonly
  | "local" => some ownLocal
  | "unset" => some ownUnset
  | "shift" => some ownShift
  | "set" => some ownSet
  | "printf" => some ownPrintf
  | "hash" | "jobs" | "alias" => some (constant 0)
  | "umask" => some fun words s =>
    .ok ((if words.isEmpty then s.mapProcess fun p => p.print "0022\n" else s).withStatus 0)
  | "ulimit" => some fun words s =>
    .ok ((if words = ["-c"] then s.mapProcess fun p => p.print "0\n" else s).withStatus 0)
  | _ => none

end Script

end Userland

end JobShell
