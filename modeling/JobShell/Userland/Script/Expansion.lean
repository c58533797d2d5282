import JobShell.Userland.Script.Arithmetic
import JobShell.Userland.Script.Lexer
import JobShell.Userland.Script.State
import JobShell.Userland.Utilities

/-!
# Filling words in

What becomes of the words of a script when it runs: parameters, the output of other scripts
and arithmetic expressions are filled in, unquoted values are split into fields, and fields
that are patterns are replaced by the names of files that match.
-/

namespace JobShell

namespace Userland

namespace Script

structure Fields where
  made : List (List Mark) := []
  current : Option (List Mark) := none

namespace Fields

/-- More characters in the field under way. -/
def add (f : Fields) (ms : List Mark) : Fields :=
  { f with current := some (f.current.getD [] ++ ms) }

def close (f : Fields) : Fields :=
  match f.current with
  | none => f
  | some ms => ⟨f.made ++ [ms], none⟩

/-- An unquoted value, which is split at separators. Blanks among them never make an empty
field. -/
def addSplit (f : Fields) (separators : List Char) (value : String) : Fields :=
  value.toList.foldl (fun f c =>
    if !separators.contains c then f.add [(c, false)]
    else if c.isWhitespace then f.close
    else (f.add []).close) f

/-- Values that make a field each. -/
def addEach (f : Fields) : List String → Fields
  | [] => f
  | [last] => f.add (marked true last.toList)
  | first :: rest => (f.add (marked true first.toList)).close.addEach rest

def text (f : Fields) : String :=
  String.join (f.close.made.map plainText)

end Fields

/-- Runs a text in an interpreter of its own and takes what it writes, without the line ends
behind it. -/
def capture (g : Setting) (text : String) (s : State) (next : String → State → Course) :
    Course :=
  let n := s.process.openings.length
  let (d, p) := s.process.opening (.pipe [])
  runBeside g { s with process := p.connect 1 d } (fun f => g.evaluate f text)
    fun inner status =>
      let content :=
        match inner.process.openings[n]? with
        | some (.pipe bytes) => bytes
        | _ => []
      let shown := (content.reverse.dropWhile fun b => b == 10).reverse
      let s := s.after inner.process
      next (Text.decodeLossy shown) { s with captured := some (State.codeOf status) }

/-- Whether a parameter counts as having no value. -/
def isAbsent (s : State) (name : String) (emptyToo : Bool) : Bool :=
  match s.value? name with
  | none => true
  | some value => emptyToo && value.isEmpty

mutual

/-- Fills in one piece. With `split` unquoted values are split. -/
def expandPiece (g : Setting) (f : Frame) (split : Bool) (s : State) (fields : Fields)
    (next : Fields → State → Course) : Piece → Course
  | .text cs quoted => next (fields.add (marked quoted cs)) s
  | .output text quoted =>
    capture g text s fun value s => next (putValue split s fields value quoted) s
  | .number expression quoted =>
    expandPieces g f false s {} (fun inner s =>
      match Arithmetic.evaluate s.value? inner.text with
      | .ok (n, assigned) =>
        let s := assigned.foldr (fun (name, n) s => s.assign name (toString n)) s
        next (putValue split s fields (toString n) quoted) s
      | .error fault =>
        f.fail s (fault.message inner.text))
      expression
  | .parameter name form operand quoted =>
    let value := (s.value? name).getD ""
    let put (s : State) (value : String) : Course := next (putValue split s fields value quoted) s
    let putOperand (s : State) : Course := expandPieces g f split s fields next operand
    let putWithout (front longest : Bool) : Course :=
      expandPieces g f false s {} (fun inner s =>
        put s (String.ofList (withoutMatch front longest
          (itemsOf (inner.close.made.flatMap id)) value.toList))) operand
    match form with
    | .plain =>
      if split ∧ name = "@" ∧ quoted then next (fields.addEach s.parameters) s
      else if split ∧ (name = "@" ∨ name = "*") ∧ !quoted then
        next (addParameters s fields s.parameters) s
      else if s.strict ∧ (s.value? name).isNone ∧ name ≠ "@" ∧ name ≠ "*" then
        f.fail s (name ++ ": parameter not set")
      else put s value
    | .length => put s (toString value.length)
    | .orElse emptyToo => if isAbsent s name emptyToo then putOperand s else put s value
    | .instead emptyToo => if isAbsent s name emptyToo then next fields s else putOperand s
    | .orAssign emptyToo =>
      if isAbsent s name emptyToo then
        expandPieces g f false s {} (fun inner s => put (s.assign name inner.text) inner.text)
          operand
      else put s value
    | .orFail emptyToo =>
      if isAbsent s name emptyToo then
        expandPieces g f false s {} (fun inner s =>
          let usual := "parameter not set" ++ (if emptyToo then " or null" else "")
          f.fail s (name ++ ": " ++ (if inner.text.isEmpty then usual else inner.text))) operand
      else put s value
    | .unknown => f.fail s "Bad substitution"
    | .withoutFront longest => putWithout true longest
    | .withoutBack longest => putWithout false longest
where
  putValue (split : Bool) (s : State) (fields : Fields) (value : String) (quoted : Bool) :
      Fields :=
    if quoted || !split then fields.add (marked quoted value.toList)
    else fields.addSplit s.separators value
  /-- All parameters, each of which is split. -/
  addParameters (s : State) (fields : Fields) : List String → Fields
    | [] => fields
    | [last] => fields.addSplit s.separators last
    | first :: rest => addParameters s (fields.addSplit s.separators first).close rest

def expandPieces (g : Setting) (f : Frame) (split : Bool) (s : State) (fields : Fields)
    (next : Fields → State → Course) : List Piece → Course
  | [] => next fields s
  | p :: ps =>
    expandPiece g f split s fields (fun fields s => expandPieces g f split s fields next ps) p

end

/-- Names in increasing order of their bytes. -/
def sortedNames (names : List String) : List String :=
  names.mergeSort fun a b => bytesLe (Text.encode a) (Text.encode b)

/-- The parts of a pattern between its slashes. -/
def patternParts : List Mark → List (List Mark)
  | [] => [[]]
  | (c, quoted) :: ms =>
    if c = '/' then [] :: patternParts ms
    else
      match patternParts ms with
      | [] => [[(c, quoted)]]
      | part :: rest => ((c, quoted) :: part) :: rest

/-- The names that one part of a pattern leads to behind each of these beginnings. -/
def matchingNames (p : Process) (beginning : String) (part : List Mark) : List String :=
  if isGeneral part then
    let place := if beginning.isEmpty then "." else beginning
    match p.files.openRead p.execution.directory place with
    | .ok (path, .directory) =>
      let hidden := (part.head?.map Prod.fst) == some '.'
      (sortedNames (p.files.children path)).filterMap fun name =>
        if (hidden || name.toList.head? != some '.') && isMatch (itemsOf part) name.toList then
          some (beginning ++ name)
        else none
    | _ => []
  else [beginning ++ plainText part]

def matchingPaths (p : Process) (ms : List Mark) : List String :=
  let rec go (beginnings : List String) : List (List Mark) → List String
    | [] => beginnings
    | [last] => beginnings.flatMap fun b => matchingNames p b last
    | part :: rest =>
      go ((beginnings.flatMap fun b => matchingNames p b part).map fun b => b ++ "/") rest
  (go [""] (patternParts ms)).filter fun name =>
    match p.files.findLink p.execution.directory name with
    | .ok _ => true
    | .error _ => false

/-- A field as a word; a pattern without a match is taken for itself. -/
def fieldWords (s : State) (ms : List Mark) : List String :=
  if !s.literally && isGeneral ms then
    match matchingPaths s.process ms with
    | [] => [plainText ms]
    | names => names
  else [plainText ms]

/-- A word with the directory of the user in the place of a tilde that starts it. -/
def withHome (s : State) (w : Word) : Word :=
  let filled (rest : List Piece) : Word :=
    match s.value? "HOME", rest with
    | some home, [] => [.text home.toList true]
    | some home, .text ['/'] false :: _ => .text home.toList true :: rest
    | _, _ => w
  match w with
  | .text ['~'] false :: rest => filled rest
  | .text [] false :: .text ['~'] false :: rest => filled rest
  | _ => w

def expandWords (g : Setting) (f : Frame) (s : State) (next : List String → State → Course) :
    List Word → Course
  | [] => next [] s
  | w :: ws =>
    expandPieces g f true s {} (fun fields s =>
      expandWords g f s (fun words s =>
        next (fields.close.made.flatMap (fieldWords s) ++ words) s) ws) (withHome s w)

def expandText (g : Setting) (f : Frame) (s : State) (w : Word)
    (next : String → State → Course) : Course :=
  expandPieces g f false s {} (fun fields s => next fields.text s) (withHome s w)

def expandPattern (g : Setting) (f : Frame) (s : State) (w : Word)
    (next : List Item → State → Course) : Course :=
  expandPieces g f false s {} (fun fields s => next (itemsOf (fields.close.made.flatMap id)) s) w

end Script

end Userland

end JobShell
