import JobShell.Text.Blank
import JobShell.Text.EditDistance

/-!
# The arguments of the program

The flags and operands that the program takes. A word with one hyphen is a group of short
flags, a word with two is a long flag, perhaps with a value behind `=`; after `--` every
word is an operand. Each flag may be given once, and there is at most one operand: the
command string with `-c`, the script without.
-/

namespace JobShell

namespace CommandLine

def usage : String :=
  "Usage:\n" ++
  "    smallsh [options]\n" ++
  "    smallsh [options] -c <command>\n" ++
  "    smallsh [options] <file>\n" ++
  "    smallsh (-h | --help)\n" ++
  "    smallsh --version"

def help : String :=
  "smallsh.\n\n" ++ usage ++ "\n\n" ++
  "Options:\n" ++
  "    -h --help       Show this screen.\n" ++
  "    --version       Show version.\n" ++
  "    -c              If the -c option is present, then commands are read " ++
  "from the first non-option\n" ++
  "                        argument command_string.\n" ++
  "    --log=<path>    File to write log to, defaults to ~/.smallsh_log"

def version : String := "smallsh version 0.1.0"

inductive Flag where
  | help
  | version
  | command
  | log
deriving DecidableEq, Repr

namespace Flag

def ofShort? : Char → Option Flag
  | 'h' => some help
  | 'c' => some command
  | _ => none

def ofLong? : String → Option Flag
  | "--help" => some help
  | "--version" => some version
  | "--log" => some log
  | _ => none

def longNames : List String := ["--help", "--version", "--log"]

def takesValue (f : Flag) : Bool :=
  f == log

end Flag

/-- What is wrong with arguments. -/
inductive UsageError where
  /-- No flag has this name; `meant` is one that is spelled alike. -/
  | unknownFlag (name : String) (meant : Option String)
  | missingValue (name : String)
  | unexpectedValue (name value : String)
  | noMatch
deriving DecidableEq, Repr

def UsageError.message : UsageError → String
  | unknownFlag name none => "Unknown flag: '" ++ name ++ "'"
  | unknownFlag name (some meant) =>
    "Unknown flag: '" ++ name ++ "'. Did you mean '" ++ meant ++ "'?"
  | missingValue name =>
    "Expected argument for flag '" ++ name ++ "' but reached end of arguments."
  | unexpectedValue name value =>
    "Flag '" ++ name ++ "' cannot have an argument, but found '" ++ value ++ "'."
  | noMatch => "Invalid arguments."

/-- The words, sorted into flags with their values and operands. -/
structure Sorted where
  flags : List (Flag × Option String) := []
  operands : List String := []
deriving DecidableEq, Repr

/-- A group of short flags: one hyphen and something other than a hyphen, without blanks. -/
def isShortGroup (word : String) : Bool :=
  match word.toList with
  | '-' :: c :: cs => c != '-' && cs.all fun c => !Text.isBlank c
  | _ => false

/-- The name before the first `=`, and the value behind it. -/
def splitValue (cs : List Char) : List Char × Option (List Char) :=
  match cs.dropWhile fun c => c != '=' with
  | '=' :: value => (cs.takeWhile fun c => c != '=', some value)
  | _ => (cs, none)

/-- A long flag: two hyphens and a text in which blanks may stand only behind `=`. -/
def isLong (word : String) : Bool :=
  match word.toList with
  | '-' :: '-' :: cs =>
    let (name, value) := splitValue cs
    !cs.isEmpty &&
      (cs.all (fun c => !Text.isBlank c) ||
        (!name.isEmpty && name.all (fun c => !Text.isBlank c) &&
          match value with
          | some value => !value.isEmpty && !value.contains '\n'
          | none => false))
  | _ => false

/-- Reads a group of short flags, none of which takes a value. -/
def readShort : List Char → Except UsageError (List (Flag × Option String))
  | [] => .ok []
  | c :: cs =>
    match Flag.ofShort? c with
    | none => .error (.unknownFlag (String.ofList ['-', c]) none)
    | some flag => ((flag, none) :: ·) <$> readShort cs

/-- The name of a long flag and its value, if it has one. -/
def readLong (word : String) : String × Option String :=
  let (name, value) := splitValue word.toList
  (String.ofList name, value.map String.ofList)

def maxMisspelling : Nat := 2

/-- The long name nearest to a misspelled one, if it is near enough; of two that are equally
near, the one listed first. -/
def meantName? (name : String) : Option String :=
  let near := Flag.longNames.filter fun known => Text.editDistance name known ≤ maxMisspelling
  near.find? fun known =>
    near.all fun other => Text.editDistance name known ≤ Text.editDistance name other

/-- Sorts words; `flagsOver` says that `--` has been met. -/
def sortWords (flagsOver : Bool) : List String → Except UsageError Sorted
  | [] => .ok {}
  | word :: rest =>
    if !flagsOver && isShortGroup word then do
      let flags ← readShort (word.toList.drop 1)
      let sorted ← sortWords flagsOver rest
      return { sorted with flags := flags ++ sorted.flags }
    else if !flagsOver && isLong word then
      let (name, value) := readLong word
      match Flag.ofLong? name with
      | none => .error (.unknownFlag name (meantName? name))
      | some flag =>
        match flag.takesValue, value, rest with
        | true, none, [] => .error (.missingValue name)
        | true, none, next :: rest => do
          let sorted ← sortWords flagsOver rest
          return { sorted with flags := (flag, some next) :: sorted.flags }
        | false, some value, _ => .error (.unexpectedValue name value)
        | _, value, rest => do
          let sorted ← sortWords flagsOver rest
          return { sorted with flags := (flag, value) :: sorted.flags }
    else if !flagsOver && word == "--" then sortWords true rest
    else do
      let sorted ← sortWords flagsOver rest
      return { sorted with operands := word :: sorted.operands }

/-- What the program is to take its lines from. -/
inductive Task where
  | command (text : String)
  | script (name : String)
  | input
  /-- A command string was promised and not given. -/
  | noCommand
deriving DecidableEq, Repr

structure Request where
  help : Bool
  version : Bool
  log : Option String
  task : Task
deriving DecidableEq, Repr

/-- No flag occurs twice. -/
def eachOnce : List Flag → Bool
  | [] => true
  | f :: fs => !fs.contains f && eachOnce fs

def readArguments (arguments : List String) : Except UsageError Request := do
  let sorted ← sortWords false arguments
  let flags := sorted.flags.map Prod.fst
  let log := ((sorted.flags.find? fun f => f.1 == Flag.log).map Prod.snd).getD none
  let request (task : Task) : Request :=
    { help := flags.contains .help, version := flags.contains .version, log, task }
  if !eachOnce flags then .error .noMatch
  else
    match flags.contains .command, sorted.operands with
    | false, [] => .ok (request .input)
    | true, [] => .ok (request .noCommand)
    | true, [text] => .ok (request (.command text))
    | false, [name] => .ok (request (.script name))
    | _, _ => .error .noMatch

end CommandLine

end JobShell
