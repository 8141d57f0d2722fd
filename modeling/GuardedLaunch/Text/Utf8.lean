/-!
# Byte strings and UTF-8

The operating system passes arguments, paths and environment entries as byte
strings. Text is compared with them through its UTF-8 bytes, and a byte string
is shown to a person as the text it most nearly spells.

- `Bytes`: a byte string.
- `utf8`: the bytes of a text.
- `Utf8.step`: one byte of a decoder that keeps at most one unfinished
  character. A byte that rules the unfinished character out closes it as one
  ill-formed piece and is then read afresh, so every ill-formed piece is as long
  as it can be.
- `Utf8.pieces`: the characters and ill-formed pieces of a byte string.
- `decodeLossy`: each ill-formed piece becomes one U+FFFD.
- `decode?`: the text of a byte string that has no ill-formed piece.
-/

namespace GuardedLaunch

/-- A byte string, in the form in which the operating system passes arguments,
paths and environment entries. -/
abbrev Bytes := List UInt8

/-- The UTF-8 bytes of a text. -/
def utf8 (text : String) : Bytes :=
  text.toList.flatMap String.utf8EncodeChar

namespace Utf8

/-- A character some of whose bytes have been read: the bits of its code point
so far, the number of bytes that follow the next one, and the interval the next
byte has to lie in. The interval is narrower than `0x80`–`0xBF` where the wider
one would admit an overlong form, a surrogate or a number above U+10FFFF. -/
structure Partial where
  bits : Nat
  more : Nat
  low : UInt8 := 0x80
  high : UInt8 := 0xBF

/-- What one byte leads to: what has been recognised with it, `none` standing for
an ill-formed piece, and the character that is unfinished after it. -/
structure Progress where
  recognised : List (Option Char)
  pending : Option Partial

/-- The first byte of a character. ASCII stands for itself; a continuation byte
and a byte that starts no character at all are ill-formed pieces of their own. -/
def lead (b : UInt8) : Progress :=
  if b < 0x80 then ⟨[some (Char.ofUInt8 b)], none⟩
  else if b < 0xC2 then ⟨[none], none⟩
  else if b < 0xE0 then ⟨[], some { bits := (b - 0xC0).toNat, more := 0 }⟩
  else if b = 0xE0 then ⟨[], some { bits := 0x0, more := 1, low := 0xA0 }⟩
  else if b = 0xED then ⟨[], some { bits := 0xD, more := 1, high := 0x9F }⟩
  else if b < 0xF0 then ⟨[], some { bits := (b - 0xE0).toNat, more := 1 }⟩
  else if b = 0xF0 then ⟨[], some { bits := 0, more := 2, low := 0x90 }⟩
  else if b < 0xF4 then ⟨[], some { bits := (b - 0xF0).toNat, more := 2 }⟩
  else if b = 0xF4 then ⟨[], some { bits := 4, more := 2, high := 0x8F }⟩
  else ⟨[none], none⟩

/-- A byte that continues an unfinished character: six more bits, and the
character itself once no further byte is due. -/
def Partial.push (p : Partial) (b : UInt8) : Progress :=
  let bits := p.bits * 64 + (b - 0x80).toNat
  match p.more with
  | 0 => ⟨[some (Char.ofNat bits)], none⟩
  | more + 1 => ⟨[], some { bits, more }⟩

/-- One byte of the decoder. A byte outside the interval of the unfinished
character ends it as one ill-formed piece and starts over. -/
def step : Option Partial → UInt8 → Progress
  | none, b => lead b
  | some p, b =>
    if p.low ≤ b ∧ b ≤ p.high then p.push b
    else
      let progress := lead b
      { progress with recognised := none :: progress.recognised }

/-- What a byte string still holds after an unfinished character. A character
that the end of the string cuts short is ill-formed. -/
def scan : Option Partial → Bytes → List (Option Char)
  | none, [] => []
  | some _, [] => [none]
  | pending, b :: rest =>
    let progress := step pending b
    progress.recognised ++ scan progress.pending rest

/-- The characters of a byte string in order, `none` for each ill-formed
piece. -/
def pieces (bytes : Bytes) : List (Option Char) :=
  scan none bytes

/-- U+FFFD, which stands for whatever is not a character. -/
def replacement : Char := '\uFFFD'

end Utf8

/-- The text that a byte string most nearly spells: each ill-formed piece is
replaced by one U+FFFD. -/
def decodeLossy (bytes : Bytes) : String :=
  String.ofList ((Utf8.pieces bytes).map (·.getD Utf8.replacement))

/-- The text that a byte string spells, if it is well-formed UTF-8. -/
def decode? (bytes : Bytes) : Option String :=
  if none ∈ Utf8.pieces bytes then none else some (decodeLossy bytes)

end GuardedLaunch
