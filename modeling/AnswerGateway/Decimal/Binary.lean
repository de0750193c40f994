import AnswerGateway.Decimal.Shortest

/-!
Sign and magnitude of the two binary formats that the gateway uses: single precision for vectors
and temperatures, double precision for numbers in documents.
-/

namespace AnswerGateway.Decimal

inductive Reading where
  | finite (negative : Bool) (magnitude : Magnitude)
  | zero (negative : Bool)
  | infinite (negative : Bool)
  | notANumber
  deriving DecidableEq, Repr

/-- Reads bits in a format of `significand` stored bits and `exponent` bits. -/
def readBits (significand exponent : Nat) (bits : Nat) : Reading :=
  let hidden := Nat.pow 2 significand
  let fraction := bits % hidden
  let biased := bits / hidden % Nat.pow 2 exponent
  let negative := bits / (hidden * Nat.pow 2 exponent) % 2 == 1
  let least : Int := 2 - (Nat.pow 2 (exponent - 1) : Nat) - significand
  if biased == Nat.pow 2 exponent - 1 then
    if fraction == 0 then .infinite negative else .notANumber
  else if biased == 0 then
    if fraction == 0 then .zero negative else .finite negative ⟨fraction, least, false⟩
  else
    .finite negative ⟨hidden + fraction, least + biased - 1, fraction == 0 && biased > 1⟩

def readSingle (x : Float32) : Reading := readBits 23 8 x.toBits.toNat

def readDouble (x : Float) : Reading := readBits 52 11 x.toBits.toNat

end AnswerGateway.Decimal
