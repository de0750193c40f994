/-!
Byte strings read as UTF-8. A byte string is cut into glyphs: a glyph is a character that is
encoded correctly, or the longest run of bytes that starts a character and breaks off. Lossy
decoding writes one replacement character per broken run, strict decoding refuses them. The
module does not normalise text and keeps a byte order mark like any other character.
-/

namespace AnswerGateway.Text

inductive Glyph where
  | char (c : Char)
  /-- Bytes that start a character and do not finish it, or one byte that starts none. -/
  | broken (bytes : List UInt8)
  deriving DecidableEq, Repr

def Glyph.size : Glyph → Nat
  | .char c => c.utf8Size
  | .broken bytes => bytes.length

/-- A character that has begun: its bytes so far, the bits they carry, how many bytes are still
owed, and the bounds of the next one. Only the second byte has bounds narrower than a
continuation byte's, which rules out overlong forms, surrogates and values past the last plane. -/
structure Begun where
  bytes : List UInt8
  bits : Nat
  owed : Nat
  low : UInt8
  high : UInt8
  deriving DecidableEq, Repr

/-- A decoder between two bytes: the glyphs so far, the last one first, and the character that is
still unfinished. -/
structure Decoding where
  glyphs : List Glyph
  begun : Option Begun
  deriving DecidableEq, Repr

/-- A byte that does not continue a character. It fixes the length of the one it starts and the
bounds of its second byte. -/
def startWith (done : List Glyph) (b : UInt8) : Decoding :=
  let lead (mask owed : Nat) (low high : UInt8) : Decoding :=
    ⟨done, some ⟨[b], b.toNat % mask, owed, low, high⟩⟩
  if b < 0x80 then ⟨.char (Char.ofNat b.toNat) :: done, none⟩
  else if b < 0xC2 then ⟨.broken [b] :: done, none⟩
  else if b < 0xE0 then lead 32 1 0x80 0xBF
  else if b = 0xE0 then lead 16 2 0xA0 0xBF
  else if b = 0xED then lead 16 2 0x80 0x9F
  else if b < 0xF0 then lead 16 2 0x80 0xBF
  else if b = 0xF0 then lead 8 3 0x90 0xBF
  else if b < 0xF4 then lead 8 3 0x80 0xBF
  else if b = 0xF4 then lead 8 3 0x80 0x8F
  else ⟨.broken [b] :: done, none⟩

/-- Takes one byte. A byte out of bounds breaks the unfinished character off and starts anew. -/
def Decoding.step (d : Decoding) (b : UInt8) : Decoding :=
  match d.begun with
  | none => startWith d.glyphs b
  | some u =>
    if u.low ≤ b ∧ b ≤ u.high then
      let bits := u.bits * 64 + b.toNat % 64
      if u.owed ≤ 1 then ⟨.char (Char.ofNat bits) :: d.glyphs, none⟩
      else ⟨d.glyphs, some ⟨u.bytes ++ [b], bits, u.owed - 1, 0x80, 0xBF⟩⟩
    else startWith (.broken u.bytes :: d.glyphs) b

/-- The glyphs at the end of the bytes, in order. -/
def Decoding.finish (d : Decoding) : List Glyph :=
  match d.begun with
  | none => d.glyphs.reverse
  | some u => (.broken u.bytes :: d.glyphs).reverse

/-- The glyphs of a byte string, in order. -/
def glyphs (bytes : List UInt8) : List Glyph := (bytes.foldl Decoding.step ⟨[], none⟩).finish

def utf8 (text : String) : List UInt8 := text.toList.flatMap String.utf8EncodeChar

def replacement : Char := '\uFFFD'

def Glyph.shown : Glyph → Char
  | .char c => c
  | .broken _ => replacement

/-- Decodes a byte string, with one replacement character for each broken run. -/
def decodeLossy (bytes : List UInt8) : String := String.ofList ((glyphs bytes).map Glyph.shown)

/-- The glyphs of a text: its characters. -/
def glyphsOf (text : String) : List Glyph := text.toList.map Glyph.char

end AnswerGateway.Text
