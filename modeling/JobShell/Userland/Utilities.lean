import JobShell.Text.Decimal
import JobShell.Userland.Process

/-!
# Utilities

What the small utilities of a plain system do: each reads its arguments, its standard input
and the files, and leaves output, messages and an exit code. Names and texts are compared
and sorted byte by byte.
-/

namespace JobShell

namespace Userland

def calledName (p : Process) : String :=
  p.execution.arguments.headD ""

def complain (p : Process) (text : String) : Process :=
  p.warn (calledName p ++ ": " ++ text)

/-- The line that points to the help of a utility. -/
def helpHint (p : Process) : Process :=
  p.warn ("Try '" ++ calledName p ++ " --help' for more information.")

def complainUsage (p : Process) (text : String) : Process :=
  helpHint (complain p text)

/-- The options among words, which end at `--`, and the other words. A lone hyphen is no
option. -/
def splitOptions : List String → List String × List String
  | [] => ([], [])
  | "--" :: rest => ([], rest)
  | word :: rest =>
    let (options, others) := splitOptions rest
    if word.toList.head? == some '-' && word != "-" then (word :: options, others)
    else (options, word :: others)

/-- The options of a utility: a letter and the long name of each. -/
abbrev OptionTable := List (Char × String)

/-- The letter of an option that is given by its long name or by an unmistakable beginning of
it. -/
def longOption (table : OptionTable) (option : String) : Except String Char :=
  let name := String.ofList (option.toList.drop 2)
  let fitting := table.filter fun o => o.2 != "" && name.toList.isPrefixOf o.2.toList
  match fitting.find? fun o => o.2 == name, fitting with
  | some o, _ => .ok o.1
  | none, [o] => .ok o.1
  | none, [] => .error ("unrecognized option '" ++ option ++ "'")
  | none, os =>
    .error ("option '" ++ option ++ "' is ambiguous; possibilities:" ++
      String.join (os.map fun o => " '--" ++ o.2 ++ "'"))

/-- The letters of options, or what is wrong with the first one that is not in the table. -/
def optionLetters (table : OptionTable) : List String → Except String (List Char)
  | [] => .ok []
  | option :: rest =>
    match option.toList with
    | '-' :: '-' :: _ => do
      let letter ← longOption table option
      return letter :: (← optionLetters table rest)
    | _ =>
      let letters := option.toList.drop 1
      match letters.find? fun c => !table.any fun o => o.1 == c with
      | some c => .error ("invalid option -- '" ++ c.toString ++ "'")
      | none => (letters ++ ·) <$> optionLetters table rest

/-- A utility with options: their letters and the other arguments are handed to `run`, and
arguments with other options are refused with an exit code. -/
def withOptions (table : OptionTable) (refusal : Nat) (run : List Char → List String → Utility) :
    Utility := fun p =>
  let (options, others) := splitOptions p.operands
  match optionLetters table options with
  | .error text => (complainUsage p text, refusal)
  | .ok letters => run letters others p

def spaced : List String → String
  | [] => ""
  | [word] => word
  | word :: rest => word ++ " " ++ spaced rest

/-- An option of `echo`: a hyphen and some of the letters `n`, `e` and `E`. -/
def isEchoOption (word : String) : Bool :=
  match word.toList with
  | '-' :: c :: cs => (c :: cs).all fun c => c == 'n' || c == 'e' || c == 'E'
  | _ => false

/-- The byte that the letter of an escape stands for. -/
def escapeByte? : Char → Option UInt8
  | 'a' => some 7
  | 'b' => some 8
  | 'e' => some 27
  | 'f' => some 12
  | 'n' => some 10
  | 'r' => some 13
  | 't' => some 9
  | 'v' => some 11
  | '\\' => some 92
  | _ => none

/-- The value of a digit of a base up to 16. -/
def digit? (base : Nat) (c : Char) : Option Nat :=
  let value :=
    if c.isDigit then c.toNat - 48
    else if 'a' ≤ c ∧ c ≤ 'f' then c.toNat - 87
    else if 'A' ≤ c ∧ c ≤ 'F' then c.toNat - 55
    else 16
  if value < base then some value else none

/-- The leading digits, at most `n` of them. -/
def leadingDigits (base : Nat) : Nat → List Char → List Nat
  | n + 1, c :: cs =>
    match digit? base c with
    | some d => d :: leadingDigits base n cs
    | none => []
  | _, _ => []

/-- The byte of some digits. -/
def digitsByte (base : Nat) (digits : List Nat) : UInt8 :=
  UInt8.ofNat (digits.foldl (fun n d => n * base + d) 0)

/-- Replaces the escapes of a text, with `hexadecimal` also those of two digits behind an `x`;
the flag says that nothing may follow. The first `skip` characters belong to an escape that
was replaced already. -/
def unescape (hexadecimal : Bool) : Nat → List Char → Bytes × Bool
  | _, [] => ([], false)
  | skip + 1, _ :: cs => unescape hexadecimal skip cs
  | 0, '\\' :: c :: cs =>
    let octal := leadingDigits 8 3 (if c = '0' then cs else c :: cs)
    let hex := leadingDigits 16 2 cs
    if c = 'c' then ([], true)
    else if c = '0' ∨ !octal.isEmpty then
      let (out, stop) :=
        unescape hexadecimal (octal.length + (if c = '0' then 1 else 0)) (c :: cs)
      (digitsByte 8 octal :: out, stop)
    else if hexadecimal ∧ c = 'x' ∧ !hex.isEmpty then
      let (out, stop) := unescape hexadecimal (hex.length + 1) (c :: cs)
      (digitsByte 16 hex :: out, stop)
    else
      match escapeByte? c with
      | some b =>
        let (out, stop) := unescape hexadecimal 1 (c :: cs)
        (b :: out, stop)
      | none =>
        let (out, stop) := unescape hexadecimal 0 (c :: cs)
        (92 :: out, stop)
  | 0, c :: cs =>
    let (out, stop) := unescape hexadecimal 0 cs
    (Text.encode c.toString ++ out, stop)

/-- Words as `echo` writes them: with a line feed behind them if `newline` is asked for. -/
def echoBytes (newline : Bool) (words : List String) : Bytes :=
  Text.encode (spaced words ++ (if newline then "\n" else ""))

def echoEscaped (hexadecimal newline : Bool) (words : List String) : Bytes :=
  let (bytes, stop) := unescape hexadecimal 0 (spaced words).toList
  bytes ++ (if newline && !stop then [10] else [])

/-- `echo`: the arguments, with options in front. -/
def echo : Utility := fun p =>
  let options := p.operands.takeWhile isEchoOption
  let words := p.operands.drop options.length
  let letters := options.flatMap fun o => o.toList.drop 1
  let newline := !letters.contains 'n'
  let escapes := (letters.filter fun c => c != 'n').getLast? == some 'e'
  (p.write (if escapes then echoEscaped true newline words else echoBytes newline words), 0)

/-- The lines of a content, without their line feeds. -/
def byteLines : Bytes → List Bytes
  | [] => []
  | 10 :: bs => [] :: byteLines bs
  | b :: bs =>
    match byteLines bs with
    | [] => [[b]]
    | line :: rest => (b :: line) :: rest

/-- Whether standard output goes to the file of this path and would be read by `cat` itself. -/
def feedsItself (p : Process) (path : Path) (position : Nat) : Bool :=
  match p.openFile? 1 with
  | some (_, .file target written atEnd) =>
    target == path &&
      position < (if atEnd then (p.files.content path).length else written)
  | _ => false

/-- The content that `cat` takes from a name, or why it takes none. -/
def catContent (p : Process) (name : String) : Except String Bytes × Process :=
  if name = "-" then
    match p.openFile? 0 with
    | some (_, .file path position _) =>
      if feedsItself p path position then (.error "input file is output file", p)
      else
        let (content, p) := p.readInput
        (content.mapError Errno.text, p)
    | _ =>
      let (content, p) := p.readInput
      (content.mapError Errno.text, p)
  else
    match p.files.openRead p.execution.directory name with
    | .error error => (.error error.text, p)
    | .ok (_, .directory) => (.error Errno.isDirectory.text, p)
    | .ok (path, _) =>
      if feedsItself p path 0 then (.error "input file is output file", p)
      else (.ok (p.files.content path), p)

/-- A byte made visible: control characters with a caret, bytes above 127 with `M-`. -/
def visibleByte (b : UInt8) : Bytes :=
  let low : Bytes :=
    if b % 128 < 32 then [94, b % 128 + 64] else if b % 128 = 127 then [94, 63] else [b % 128]
  if b < 128 then low else [77, 45] ++ low

/-- A number right-aligned in six places, and a tab. -/
def lineNumber (n : Nat) : Bytes :=
  let digits := toString n
  Text.encode ("".pushn ' ' (6 - digits.length) ++ digits ++ "\t")

/-- What stands between line feeds. -/
def lineParts : Bytes → List Bytes
  | [] => [[]]
  | 10 :: bs => [] :: lineParts bs
  | b :: bs =>
    match lineParts bs with
    | [] => [[b]]
    | part :: rest => (b :: part) :: rest

/-- Lines as `cat` shows them under its options; `number` is the number of the next line and
`afterEmpty` tells whether the line before was empty. The last part is no line if it is
empty. -/
def catLines (letters : List Char) (number : Nat) (afterEmpty : Bool) : List Bytes → Bytes
  | [] => []
  | [[]] => []
  | part :: rest =>
    if letters.contains 's' && afterEmpty && part.isEmpty then
      catLines letters number true rest
    else
      let numbered := if letters.contains 'b' then !part.isEmpty else letters.contains 'n'
      let shown := part.flatMap fun b =>
        if b = 9 then (if letters.contains 'T' then [94, 73] else [9])
        else if letters.contains 'v' then visibleByte b
        else [b]
      (if numbered then lineNumber number else []) ++ shown ++
        (if rest.isEmpty then []
          else if letters.contains 'E' then [36, 10] else [10]) ++
        catLines letters (if numbered then number + 1 else number) part.isEmpty rest

/-- The letters of options of `cat` that stand for several others, spelled out. -/
def catLetters (letters : List Char) : List Char :=
  letters.flatMap fun c =>
    match c with
    | 'A' => ['v', 'E', 'T']
    | 'e' => ['v', 'E']
    | 't' => ['v', 'T']
    | c => [c]

/-- `cat`: the contents of the named files, or standard input. -/
def cat : Utility :=
  withOptions [('b', "number-nonblank"), ('n', "number"), ('s', "squeeze-blank"),
      ('v', "show-nonprinting"), ('E', "show-ends"), ('T', "show-tabs"), ('A', "show-all"),
      ('e', ""), ('t', ""), ('u', "")] 1 fun letters names p =>
    if (p.descriptor? 1).isNone then
      (complain p ("standard output: " ++ Errno.badDescriptor.text), 1)
    else
    let letters := (catLetters letters).filter fun c => c != 'u'
    let names := if names.isEmpty then ["-"] else names
    let (p, code, content) := names.foldl (fun ((p, code, before) : Process × Nat × Bytes) name =>
      match catContent p name with
      | (.ok bytes, p) =>
        if letters.isEmpty then (p.write bytes, code, before) else (p, code, before ++ bytes)
      | (.error text, p) => (complain p (name ++ ": " ++ text), 1, before)) (p, 0, [])
    (p.write (catLines letters 1 false (lineParts content)), code)

/-- Whether one line comes before another or is the same, byte by byte. -/
def bytesLe : Bytes → Bytes → Bool
  | [], _ => true
  | _ :: _, [] => false
  | a :: as, b :: bs => if a == b then bytesLe as bs else a < b

structure SortOrder where
  numeric : Bool
  folded : Bool
  skipBlanks : Bool
  stable : Bool
  reversed : Bool
  unique : Bool

/-- The number that a line starts with, in thousandths. -/
def leadingNumber (line : Bytes) : Int :=
  let cs := (line.dropWhile fun b => b == 32 || b == 9).map fun b => Char.ofNat b.toNat
  let (negative, cs) := match cs with
    | '-' :: cs => (true, cs)
    | cs => (false, cs)
  let whole := cs.takeWhile Char.isDigit
  let fraction := match cs.drop whole.length with
    | '.' :: cs => cs.takeWhile Char.isDigit
    | _ => []
  let value : Int := Text.digitsValue (whole ++ (fraction ++ ['0', '0', '0']).take 3)
  if negative then -value else value

/-- The part of a line that is compared byte by byte. -/
def SortOrder.key (o : SortOrder) (line : Bytes) : Bytes :=
  let line := if o.skipBlanks then line.dropWhile fun b => b == 32 || b == 9 else line
  if o.folded then line.map fun b => if 97 ≤ b && b ≤ 122 then b - 32 else b else line

/-- Whether one line may stand before another as far as their keys go. -/
def SortOrder.keyLe (o : SortOrder) (a b : Bytes) : Bool :=
  if o.numeric then leadingNumber a ≤ leadingNumber b else bytesLe (o.key a) (o.key b)

def SortOrder.same (o : SortOrder) (a b : Bytes) : Bool :=
  o.keyLe a b && o.keyLe b a

/-- Whether one line may stand before another. Lines with the same key go by their bytes. -/
def SortOrder.le (o : SortOrder) (a b : Bytes) : Bool :=
  let (a, b) := if o.reversed then (b, a) else (a, b)
  if o.same a b then o.stable || o.unique || bytesLe a b else o.keyLe a b

/-- The lines without those that count as the same as the one kept before them. -/
def SortOrder.withoutRepeats (o : SortOrder) (kept : Option Bytes) : List Bytes → List Bytes
  | [] => []
  | line :: rest =>
    if kept.any (o.same line) then o.withoutRepeats kept rest
    else line :: o.withoutRepeats (some line) rest

def SortOrder.ofLetters (letters : List Char) : SortOrder where
  numeric := letters.contains 'n'
  folded := letters.contains 'f'
  skipBlanks := letters.contains 'b'
  stable := letters.contains 's'
  reversed := letters.contains 'r'
  unique := letters.contains 'u'

/-- `sort`: the lines of the named files, or of standard input, in order. -/
def sort : Utility :=
  withOptions [('b', "ignore-leading-blanks"), ('f', "ignore-case"), ('n', "numeric-sort"),
      ('r', "reverse"), ('s', "stable"), ('u', "unique")] 2 fun letters names p =>
    let o := SortOrder.ofLetters letters
    let names := if names.isEmpty then ["-"] else names
    let start : Except String (List Bytes) × Process := (.ok [], p)
    let (read, p) := names.foldl (fun (read, p) name =>
      let (content, p) := if name = "-" then p.readInput else (p.readFile name, p)
      match read, content with
      | .error message, _ => (.error message, p)
      | .ok lines, .ok bytes => (.ok (lines ++ byteLines bytes), p)
      | .ok _, .error .isDirectory => (.error ("read failed: " ++ name ++ ": Is a directory"), p)
      | .ok _, .error error => (.error ("cannot read: " ++ name ++ ": " ++ error.text), p)) start
    match read with
    | .error message => (complain p message, 2)
    | .ok lines =>
      let sorted := lines.mergeSort o.le
      let sorted := if o.unique then o.withoutRepeats none sorted else sorted
      (p.write (sorted.flatMap fun line => line ++ [10]), 0)

def pwd : Utility :=
  withOptions [('L', "logical"), ('P', "physical")] 1 fun _ others p =>
    let directory := p.execution.directory
    let p := if others.isEmpty then p else complain p "ignoring non-option arguments"
    if p.files.isDirectory directory then (p.print (Path.text directory ++ "\n"), 0)
    else (complain p "couldn't find directory entry in '..' with matching i-node", 1)

/-- The milliseconds of a decimal number, perhaps with a fraction and an exponent. -/
def milliseconds? (cs : List Char) : Option Nat :=
  let mantissa := cs.takeWhile fun c => c != 'e' && c != 'E'
  let exponent? :=
    match cs.drop mantissa.length with
    | [] => some 0
    | _ :: cs => Text.readSigned? cs
  let whole := mantissa.takeWhile fun c => c != '.'
  let fraction := (mantissa.drop whole.length).drop 1
  match exponent? with
  | some exponent =>
    if (!whole.isEmpty || !fraction.isEmpty) && whole.all Char.isDigit && fraction.all Char.isDigit
    then
      let digits := Text.digitsValue (whole ++ fraction)
      let places : Int := 3 + min exponent 20 - fraction.length
      let scale := Nat.pow 10 places.natAbs
      some (if 0 ≤ places then digits * scale else (digits + scale - 1) / scale)
    else none
  | none => none

/-- The milliseconds that stand for a duration without end. -/
def endless : Nat := 1000000000000

/-- A duration in milliseconds: a number and perhaps a unit. -/
def duration? (s : String) : Option Nat :=
  let cs := s.toList.dropWhile Char.isWhitespace
  let cs := if cs.head? == some '+' then cs.drop 1 else cs
  let (number, scale) :=
    match cs.reverse with
    | 's' :: cs => (cs.reverse, 1)
    | 'm' :: cs => (cs.reverse, 60)
    | 'h' :: cs => (cs.reverse, 3600)
    | 'd' :: cs => (cs.reverse, 86400)
    | _ => (cs, 1)
  let word := (String.ofList number).toLower
  if word = "inf" ∨ word = "infinity" then some endless
  else (milliseconds? number).map (· * scale)

/-- `sleep`: how long, or what is wrong with the arguments. -/
def sleepDuration (p : Process) : Except (Process × Nat) Nat :=
  let (options, durations) := splitOptions p.operands
  let bad := durations.filter fun o => (duration? o).isNone
  match optionLetters [] options with
  | .error text => .error (complainUsage p text, 1)
  | .ok _ =>
    if durations.isEmpty then .error (complainUsage p "missing operand", 1)
    else if bad.isEmpty then .ok ((durations.filterMap duration?).foldl Nat.add 0)
    else
      let p := bad.foldl (fun p o => complain p ("invalid time interval '" ++ o ++ "'")) p
      .error (helpHint p, 1)

def lastName (name : String) : String :=
  String.ofList ((Path.split (FileSystem.withoutEndSlashes name).toList).getLastD [])

def removeDirectory (p : Process) (name : String) : Except Errno FileSystem := do
  match ← p.files.findLink p.execution.directory name with
  | (path, .directory) =>
    if lastName name = "." then .error .invalidArgument
    else if lastName name = ".." then .error .notEmpty
    else
      p.files.permit path.dropLast .write
      if (p.files.children path).isEmpty then .ok (p.files.remove path)
      else .error .notEmpty
  | _ => .error .notDirectory

/-- The directories above the last name of a path, the nearest first. -/
def namesAbove (name : String) : List String :=
  let parts := (Path.split (FileSystem.withoutEndSlashes name).toList).map String.ofList
  ((List.range (parts.length - 1)).reverse.map fun n =>
    "/".intercalate (parts.take (n + 1))).filter fun name => name != ""

/-- Removes directories one after the other up to the first that cannot be removed. -/
def removeDirectories (verbose : Bool) (what : String) (p : Process) :
    List String → Process × Nat
  | [] => (p, 0)
  | name :: rest =>
    let p := if verbose then
        p.print (calledName p ++ ": removing directory, '" ++ name ++ "'\n")
      else p
    match removeDirectory p name with
    | .ok files => removeDirectories verbose "directory " { p with files } rest
    | .error error =>
      (complain p ("failed to remove " ++ what ++ "'" ++ name ++ "': " ++ error.text), 1)

def rmdir : Utility :=
  withOptions [('p', "parents"), ('v', "verbose")] 1 fun letters names p =>
    if names.isEmpty then (complainUsage p "missing operand", 1)
    else
      names.foldl (fun (p, code) name =>
        let above := if letters.contains 'p' then namesAbove name else []
        let (p, failed) := removeDirectories (letters.contains 'v') "" p (name :: above)
        (p, max code failed)) (p, 0)

/-- The permissions of a node, in octal. -/
def permissions : Node → String
  | .file _ => "644"
  | .device _ => "666"
  | .link _ => "777"
  | _ => "755"

def typeText : Node → String
  | .directory => "directory"
  | .file [] => "regular empty file"
  | .file _ => "regular file"
  | .device _ => "character special file"
  | .program _ => "regular file"
  | .link _ => "symbolic link"

def size : Node → Nat
  | .file content => content.length
  | .directory => 4096
  | _ => 0

/-- The permissions of a node, in letters behind one for its type. -/
def permissionLetters : Node → String
  | .file _ => "-rw-r--r--"
  | .device _ => "crw-rw-rw-"
  | .link _ => "lrwxrwxrwx"
  | .directory => "drwxr-xr-x"
  | .program _ => "-rwxr-xr-x"

/-- Fills in the directives of a format. -/
def formatNode (name : String) (node : Node) (links : Nat) : List Char → String
  | '%' :: 'n' :: cs => name ++ formatNode name node links cs
  | '%' :: 'N' :: cs => "'" ++ name ++ "'" ++ formatNode name node links cs
  | '%' :: 's' :: cs => toString (size node) ++ formatNode name node links cs
  | '%' :: 'a' :: cs => permissions node ++ formatNode name node links cs
  | '%' :: 'A' :: cs => permissionLetters node ++ formatNode name node links cs
  | '%' :: 'F' :: cs => typeText node ++ formatNode name node links cs
  | '%' :: 'h' :: cs => toString links ++ formatNode name node links cs
  | '%' :: '%' :: cs => "%" ++ formatNode name node links cs
  | c :: cs => c.toString ++ formatNode name node links cs
  | [] => ""

def linkCount (fs : FileSystem) (path : Path) : Nat :=
  if fs.isDirectory path then
    2 + ((fs.children path).filter fun name => fs.isDirectory (path ++ [name])).length
  else 1

/-- The format among the arguments of `stat`, and the other arguments. -/
def statFormat? : List String → Option (List Char × List String)
  | "-c" :: format :: rest => some (format.toList ++ ['\n'], rest)
  | "--format" :: format :: rest => some (format.toList ++ ['\n'], rest)
  | word :: rest =>
    if "--format=".toList.isPrefixOf word.toList then some (word.toList.drop 9 ++ ['\n'], rest)
    else if "--printf=".toList.isPrefixOf word.toList then
      some ((Text.decodeLossy (unescape true 0 (word.toList.drop 9)).1).toList, rest)
    else if "-c".toList.isPrefixOf word.toList then some (word.toList.drop 2 ++ ['\n'], rest)
    else (statFormat? rest).map fun (format, others) => (format, word :: others)
  | [] => none

/-- `stat` with a format; without one it tells only what it cannot find. Links are followed if
that is asked for. -/
def stat : Utility := fun p =>
  let (format, arguments) := (statFormat? p.operands).getD ([], p.operands)
  let (options, names) := splitOptions arguments
  match optionLetters [('L', "dereference")] options with
  | .error text => (complainUsage p text, 1)
  | .ok letters =>
    if names.isEmpty then (complainUsage p "missing operand", 1)
    else
      let find := if letters.contains 'L' then FileSystem.find else FileSystem.findLink
      names.foldl (fun (p, code) name =>
        match find p.files p.execution.directory name with
        | .ok (path, node) =>
          (p.print (formatNode name node (linkCount p.files path) format), code)
        | .error error =>
          (complain p ("cannot statx '" ++ name ++ "': " ++ error.text), 1)) (p, 0)

/-- Where a name leads to in the end, as an absolute path. With the letter `e` all of it has to
exist, with `m` nothing of it, and otherwise everything but the last name. -/
def canonical? (p : Process) (name : String) (letters : List Char) : Option String :=
  let free := letters.contains 'm' && name != ""
  match p.files.resolve p.execution.directory name with
  | .error _ => if free then some (Path.text (Path.ofText p.execution.directory name)) else none
  | .ok place =>
    if (p.files.nodeAt? place).isNone && letters.contains 'e' && !free then none
    else some (Path.text place.path)

/-- `readlink`: where links lead to, or names in the end. Its own descriptors are those of the
process `self`. -/
def readlink : Utility :=
  withOptions [('e', "canonicalize-existing"), ('f', "canonicalize"), ('m', "canonicalize-missing"),
      ('n', "no-newline"), ('q', "quiet"), ('s', "silent"), ('v', "verbose")] 1
    fun letters names p =>
    let seen := { p with files := p.showDescriptors "self" }
    let newline := if letters.contains 'n' && names.length == 1 then "" else "\n"
    if names.isEmpty then (complainUsage p "missing operand", 1)
    else
      names.foldl (fun (p, code) name =>
        let target :=
          if letters.any "efm".toList.contains then canonical? seen name letters
          else
            match seen.files.findLink p.execution.directory name with
            | .ok (_, .link target) => some target
            | _ => none
        match target with
        | some text => (p.print (text ++ newline), code)
        | none =>
          let error :=
            match seen.files.findLink p.execution.directory name with
            | .ok _ => Errno.invalidArgument
            | .error error => error
          (if letters.contains 'v' then complain p (name ++ ": " ++ error.text) else p,
            1)) (p, 0)

/-- A utility that runs without a pause. -/
def utility? : String → Option Utility
  | "true" => some fun p => (p, 0)
  | "false" => some fun p => (p, 1)
  | "echo" => some echo
  | "cat" => some cat
  | "sort" => some sort
  | "pwd" => some pwd
  | "rmdir" => some rmdir
  | "stat" => some stat
  | "readlink" => some readlink
  | _ => none

/-- `sleep`: does nothing for the sum of the durations. -/
def sleep : Program := fun p rest =>
  match sleepDuration p with
  | .error (p, code) => rest p (Termination.exitStatus code)
  | .ok 0 => rest p (Termination.exitStatus 0)
  | .ok duration => p.pause duration fun p => rest p (Termination.exitStatus 0)

end Userland

end JobShell
