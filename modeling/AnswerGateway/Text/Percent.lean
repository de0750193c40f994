import AnswerGateway.Text.Hex
import AnswerGateway.Text.Utf8

/-!
Percent encoding: a byte that may not stand for itself in an address is written as a percent sign
and two hexadecimal digits. Which characters may stand for themselves depends on the part of the
address, so it is an argument.
-/

namespace AnswerGateway.Text

def capitalHexDigit (n : Nat) : Char := Char.ofNat (if n < 10 then 0x30 + n else 0x37 + n)

def percentByte (b : UInt8) : List Char :=
  ['%', capitalHexDigit (b.toNat / 16), capitalHexDigit (b.toNat % 16)]

/-- A character as it is if it may stand for itself, else the bytes of its UTF-8 form. -/
def percentChar (stands : Char → Bool) (c : Char) : List Char :=
  if stands c then [c] else (String.utf8EncodeChar c).flatMap percentByte

def percentEncode (stands : Char → Bool) (cs : List Char) : String :=
  String.ofList (cs.flatMap (percentChar stands))

/-- The bytes that a text stands for. A percent sign without two digits stands for itself. -/
def percentDecode : List Char → List UInt8
  | [] => []
  | '%' :: a :: b :: rest =>
    match hexValue? a, hexValue? b with
    | some x, some y => UInt8.ofNat (x * 16 + y) :: percentDecode rest
    | _, _ => 0x25 :: percentDecode (a :: b :: rest)
  | c :: rest => String.utf8EncodeChar c ++ percentDecode rest

def Glyph.char? : Glyph → Option Char
  | .char c => some c
  | .broken _ => none

def decodeStrict? (bytes : List UInt8) : Option String :=
  ((glyphs bytes).mapM Glyph.char?).map String.ofList

end AnswerGateway.Text
