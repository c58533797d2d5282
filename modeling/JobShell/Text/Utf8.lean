/-!
# UTF-8

`encode` writes a string as bytes. Reading is a machine that takes one byte at a
time (`Decoder.step`) and keeps the sequence under way; what it gives back is a
character, or `none` for a maximal part of the input that no well-formed
sequence starts with. Both readers are views of that one run: `decode?` refuses
a text with a malformed part, `decodeLossy` puts U+FFFD in the place of each.

A byte below 0x80 never belongs to a longer sequence, so the machine is back in
its first state after every such byte, whatever came before it.
-/

namespace JobShell

/-- A sequence of bytes, as files and descriptors carry it. -/
abbrev Bytes := List UInt8

namespace Text

/-- The bytes of a string in UTF-8. -/
def encode (s : String) : Bytes :=
  s.toList.flatMap String.utf8EncodeChar

namespace Decoder

/-- A sequence of several bytes under way: how many bytes are still missing after
the next one, the bits read so far, and the range in which the next byte has to
lie. -/
structure Sequence where
  missing : Nat
  bits : Nat
  low : UInt8
  high : UInt8
deriving DecidableEq, Repr

/-- Reads the first byte of a sequence. -/
def first (b : UInt8) : List (Option Char) × Option Sequence :=
  let n := b.toNat
  if n < 0x80 then ([some (Char.ofNat n)], none)
  else if n < 0xC2 then ([none], none)
  else if n < 0xE0 then ([], some ⟨0, n - 0xC0, 0x80, 0xBF⟩)
  else if n = 0xE0 then ([], some ⟨1, 0, 0xA0, 0xBF⟩)
  else if n = 0xED then ([], some ⟨1, 0xD, 0x80, 0x9F⟩)
  else if n < 0xF0 then ([], some ⟨1, n - 0xE0, 0x80, 0xBF⟩)
  else if n = 0xF0 then ([], some ⟨2, 0, 0x90, 0xBF⟩)
  else if n < 0xF4 then ([], some ⟨2, n - 0xF0, 0x80, 0xBF⟩)
  else if n = 0xF4 then ([], some ⟨2, 4, 0x80, 0x8F⟩)
  else ([none], none)

/-- Reads one byte. A byte that does not continue the sequence under way ends it
as malformed and is read again as a first byte. -/
def step : Option Sequence → UInt8 → List (Option Char) × Option Sequence
  | none, b => first b
  | some s, b =>
    if s.low ≤ b ∧ b ≤ s.high then
      let bits := s.bits * 64 + (b.toNat - 0x80)
      match s.missing with
      | 0 => ([some (Char.ofNat bits)], none)
      | n + 1 => ([], some ⟨n, bits, 0x80, 0xBF⟩)
    else
      let (out, next) := first b
      (none :: out, next)

/-- Reads bytes to their end; a sequence that is still open there is malformed. -/
def run : Option Sequence → Bytes → List (Option Char)
  | none, [] => []
  | some _, [] => [none]
  | s, b :: bs =>
    let (out, next) := step s b
    out ++ run next bs

end Decoder

/-- The string that the bytes encode, if every part of them is well formed. -/
def decode? (bytes : Bytes) : Option String :=
  ((Decoder.run none bytes).mapM id).map String.ofList

/-- The string that the bytes encode, with U+FFFD for each malformed part. -/
def decodeLossy (bytes : Bytes) : String :=
  String.ofList ((Decoder.run none bytes).map (·.getD '\uFFFD'))

end Text

end JobShell
