import JobShell.Text.Utf8

/-!
# Buffered reading

A reader takes bytes from a source in portions of at most `capacity` and hands them on line
by line. The source gives one delivery after the other, and no portion goes beyond a
delivery; an empty delivery is an end of input that others may follow. Behind its last
delivery the source ends or breaks. What a reader has buffered is out of reach of any other
reader of the same source.

`ByteReader.readLine` is the bytes up to and including the next line feed, or what is left
before the end; a line that the source breaks off is lost.
-/

namespace JobShell

/-- A source and what has been taken from it but not handed on. -/
structure ByteReader where
  capacity : Nat
  buffered : Bytes := []
  /-- The deliveries to come. -/
  ahead : List Bytes := []
  /-- The source fails where it would end. -/
  broken : Bool := false
deriving DecidableEq, Repr

namespace ByteReader

/-- The byte that ends a line. -/
def lineFeed : UInt8 := 10

/-- Bytes up to and including the first line feed, and those after it. -/
def cutLine : Bytes → Option (Bytes × Bytes)
  | [] => none
  | b :: bs =>
    if b = lineFeed then some ([b], bs)
    else (cutLine bs).map fun (line, rest) => (b :: line, rest)

/-- The deliveries of a source that gives all its bytes at once. -/
def whole (bytes : Bytes) : List Bytes :=
  if bytes.isEmpty then [] else [bytes]

/-- What a reading of at most `n` bytes yields, and the deliveries after it. -/
def takeDelivery (n : Nat) : List Bytes → Bytes × List Bytes
  | [] => ([], [])
  | delivery :: later =>
    (delivery.take n,
      if (delivery.drop n).isEmpty then later else delivery.drop n :: later)

/-- What the source gives next. -/
def portion (r : ByteReader) : Bytes :=
  (takeDelivery r.capacity r.ahead).1

def fetch (r : ByteReader) : ByteReader :=
  let (portion, ahead) := takeDelivery r.capacity r.ahead
  { r with buffered := r.buffered ++ portion, ahead }

/-- The result of reading a line: the bytes, none at the end of input, or that the source
broke. -/
inductive Line where
  | line (bytes : Bytes)
  | ended
  | broke
deriving DecidableEq, Repr

/-- Reads on after `before`, with at most `portions` more portions. -/
def readFrom : Nat → Bytes → ByteReader → Line × ByteReader
  | portions, before, r =>
    match cutLine r.buffered with
    | some (line, rest) => (.line (before ++ line), { r with buffered := rest })
    | none =>
      let before := before ++ r.buffered
      let r := { r with buffered := [] }
      match portions, r.portion with
      | portions + 1, _ :: _ => readFrom portions before r.fetch
      | _, _ =>
        if r.broken && r.ahead.isEmpty then (.broke, r)
        else if before.isEmpty then (.ended, r.fetch)
        else (.line before, r.fetch)

/-- The number of bytes that the source will still give. -/
def upcoming (r : ByteReader) : Nat :=
  r.ahead.foldl (fun n delivery => n + delivery.length) 0

/-- Reads the next line with its terminator. -/
def readLine (r : ByteReader) : Line × ByteReader :=
  readFrom r.upcoming [] r

/-- The bytes of a line without its terminator: a line feed, and a carriage return before
it. -/
def chop (bytes : Bytes) : Bytes :=
  match bytes.reverse with
  | 10 :: 13 :: rest => rest.reverse
  | 10 :: rest => rest.reverse
  | _ => bytes

/-- The number of bytes that can still be handed on. -/
def remaining (r : ByteReader) : Nat :=
  r.buffered.length + r.upcoming

/-- All lines up to the end of input, and whether the source broke there. -/
def readAllFrom : Nat → ByteReader → List Bytes × Bool
  | 0, _ => ([], false)
  | lines + 1, r =>
    match r.readLine with
    | (.line bytes, r) =>
      let (rest, broke) := readAllFrom lines r
      (bytes :: rest, broke)
    | (.ended, _) => ([], false)
    | (.broke, _) => ([], true)

/-- All lines up to the end of input, and whether the source broke there. -/
def readAll (r : ByteReader) : List Bytes × Bool :=
  readAllFrom (r.remaining + 1) r

end ByteReader

end JobShell
