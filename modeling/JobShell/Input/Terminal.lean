import JobShell.Text.Utf8

/-!
# Lines typed at a terminal

A terminal in line mode hands on what is typed line by line and lets the typist edit the line
under way. `Terminal.deliveries` turns the bytes typed, echoed or not, into what each reading
of the terminal then gives; an empty delivery is an end of input.

The editing keys are those of a terminal as it is opened: delete takes the last byte back,
control-U the line under way, control-W its last word, control-D hands the line on as it is
and control-V takes the next byte for itself. Control-S and control-Q, which hold the output
up, are no input. Control-C, control-Z and control-backslash throw away whatever has been typed and
not been read. A return ends a line as a line feed does. A line holds at most `maxLine` bytes;
what is typed into a full line goes in the place of its last byte.
-/

namespace JobShell

namespace Terminal

/-- What has been typed. -/
structure Typing where
  /-- The lines handed on, the latest first. -/
  ready : List Bytes := []
  /-- The line under way, its last byte first. -/
  pending : Bytes := []
  /-- The next byte stands for itself. -/
  verbatim : Bool := false
deriving DecidableEq, Repr

inductive Key where
  | plain (b : UInt8)
  | endsLine
  | handsOn
  | erasesByte
  | erasesWord
  | erasesLine
  | discards
  | quotesNext
  | nothing
deriving DecidableEq, Repr

def key (b : UInt8) : Key :=
  match b with
  | 10 => .endsLine
  | 13 => .endsLine
  | 4 => .handsOn
  | 127 => .erasesByte
  | 23 => .erasesWord
  | 21 => .erasesLine
  | 3 => .discards
  | 26 => .discards
  | 28 => .discards
  | 22 => .quotesNext
  | 17 => .nothing
  | 19 => .nothing
  | b => .plain b

/-- The greatest length of a line, its line feed included. -/
def maxLine : Nat := 4096

/-- One more byte at the end of a line, which is given from its last byte to its first. -/
def extend (line : Bytes) (b : UInt8) : Bytes :=
  if line.length < maxLine then b :: line else b :: line.tail

/-- A byte that is a part of words: a letter or digit of Latin-1, or the underscore. -/
def isWordByte (b : UInt8) : Bool :=
  (48 ≤ b && b ≤ 57) || (65 ≤ b && b ≤ 90) || (97 ≤ b && b ≤ 122) || b == 95 ||
    (192 ≤ b && b != 215 && b != 247)

/-- A line, given from its last byte to its first, without its last word and what stands
behind that. -/
def withoutWord (line : Bytes) : Bytes :=
  (line.dropWhile fun b => !isWordByte b).dropWhile isWordByte

/-- The line under way is handed on. -/
def Typing.handOn (t : Typing) : Typing :=
  { t with ready := t.pending.reverse :: t.ready, pending := [] }

def Typing.type (t : Typing) (b : UInt8) : Typing :=
  if t.verbatim then { t with pending := extend t.pending b, verbatim := false }
  else
    match key b with
    | .plain b => { t with pending := extend t.pending b }
    | .endsLine => { t with pending := extend t.pending 10 }.handOn
    | .handsOn => t.handOn
    | .erasesByte => { t with pending := t.pending.tail }
    | .erasesWord => { t with pending := withoutWord t.pending }
    | .erasesLine => { t with pending := [] }
    | .discards => {}
    | .quotesNext => { t with verbatim := true }
    | .nothing => t

/-- What readings of the terminal give after these bytes have been typed. A line that is still
under way is handed on. -/
def deliveries (typed : Bytes) : List Bytes :=
  let t := typed.foldl Typing.type {}
  (if t.pending.isEmpty then t else t.handOn).ready.reverse

end Terminal

end JobShell
